import J60870.APdu

/-! How many octets the decoder takes off a stream, told from the control fields,
the type, the counts and the length octets of file segments alone. -/

namespace J60870

open Lib Reader

/-- The octets an element of a class takes. A file segment takes as many more as
its length octet says. -/
def ElementClass.size : ElementClass → Nat
  | .ieTime56 => 7
  | .ieBinaryCounterReading => 5
  | .ieBinaryStateInformation | .ieStatusAndStatusChanges | .ieShortFloat => 4
  | .ieLengthOfFileOrSection | .ieTime24 => 3
  | .ieNameOfFile | .ieNormalizedValue | .ieScaledValue | .ieTestSequenceCounter | .ieTime16
  | .ieFixedTestBitPattern => 2
  | _ => 1

def ElementClass.extent : ElementClass → List Octet → Except JavaException Nat
  | .ieFileSegment => withNext endOfStream fun length => fixed endOfStream length.toNat
  | .ieFixedTestBitPattern =>
    withNext endOfStream fun first =>
      if toInt first ≠ 0x55 then fun _ => .error wrongPattern
      else withNext endOfStream fun second =>
        if toInt second ≠ 0xaa then fun _ => .error wrongPattern else fun _ => .ok 0
  | e => fixed endOfStream e.size
where
  wrongPattern : JavaException := .iOException "Incorrect bit pattern in Fixed Test Bit Pattern."

theorem extent_bindUnsignedByte {α : Type} {k : JInt → InputStream α}
    {g : Octet → List Octet → Except JavaException Nat} (second : ∀ b, Extent (k (toInt b)) (g b)) :
    Extent (readUnsignedByte >>= k) (withNext endOfStream g) := by
  have same : readUnsignedByte >>= k = next endOfStream >>= fun b => k (toInt b) := by
    simp only [readUnsignedByte, readByte, bind_assoc, pure_bind]
  rw [same]
  exact Extent.bindNext second

theorem extent_readByte : Extent readByte (fixed endOfStream 1) := Extent.next endOfStream

theorem extent_readInt : Extent readInt (fixed endOfStream 4) :=
  extent_readUnsignedByte.bindFixed fun _ => extent_readUnsignedByte.bindFixed fun _ =>
    extent_readUnsignedByte.bindFixed fun _ => extent_readUnsignedByte.bindPure

theorem extent_readNormalized : Extent readNormalized (fixed endOfStream 2) :=
  extent_readByte.bindFixed fun _ => extent_readByte.bindPure

/-- Two octets never exceed the range that the constructor checks. -/
theorem extent_testSequenceCounter :
    Extent ElementClass.ieTestSequenceCounter.decode (fixed endOfStream 2) := by
  intro s
  have read := extent_readOctets 2 s
  by_cases enough : 2 ≤ s.length
  · obtain ⟨b1, b2, rest, rfl⟩ : ∃ b1 b2 rest, s = b1 :: b2 :: rest := by
      match s, enough with
      | b1 :: b2 :: rest, _ => exact ⟨b1, b2, rest, rfl⟩
    have value : readOctets 2 (b1 :: b2 :: rest) =
        .ok ((0#32 ||| (toInt b1 <<< 0)) ||| (toInt b2 <<< 8), rest) := rfl
    generalize word : (0#32 ||| (toInt b1 <<< 0)) ||| (toInt b2 <<< 8) = v at value
    have small : v.toNat < 2 ^ 16 := by
      rw [← word, BitVec.toNat_or]
      apply Nat.or_lt_two_pow
      · simp [toInt]
        omega
      · simp [toInt, Nat.shiftLeft_eq]
        omega
    have inside : ¬ (v.toInt < 0 ∨ 65535 < v.toInt) := by
      rw [BitVec.toInt_eq_toNat_of_lt (by omega)]
      omega
    simp only [fixed, enough, if_true]
    refine ⟨trivial, .ieTestSequenceCounter v, ?_⟩
    simp only [ElementClass.decode]
    rw [bind_apply, value]
    simp [inside]
  · simp only [fixed, enough, if_false] at read ⊢
    simp only [ElementClass.decode]
    rw [bind_apply, read]

theorem extent_fixedTestBitPattern :
    Extent ElementClass.ieFixedTestBitPattern.decode ElementClass.ieFixedTestBitPattern.extent := by
  refine extent_bindUnsignedByte fun first => ?_
  by_cases wrong : toInt first ≠ 0x55
  · simp only [wrong, if_true, ne_eq, not_false_eq_true]
    exact Extent.throw _
  · simp only [wrong, if_false]
    refine extent_bindUnsignedByte fun second => ?_
    by_cases wrong : toInt second ≠ 0xaa
    · simp only [wrong, if_true, ne_eq, not_false_eq_true]
      exact Extent.throw _
    · simp only [wrong, if_false]
      exact Extent.pure _

theorem ElementClass.extent_decode (e : ElementClass) : Extent e.decode e.extent := by
  cases e with
  | ieFileSegment => exact extent_bindUnsignedByte fun length => (Extent.word endOfStream _).bindPure
  | ieFixedTestBitPattern => exact extent_fixedTestBitPattern
  | ieTestSequenceCounter => exact extent_testSequenceCounter
  | ieBinaryCounterReading =>
    exact (extent_readOctets 4).bindFixed fun _ => extent_readUnsignedByte.bindPure
  | ieBinaryStateInformation | ieStatusAndStatusChanges => exact extent_readInt.bindPure
  | ieLengthOfFileOrSection => exact (extent_readOctets 3).bindPure
  | ieNameOfFile => exact (extent_readOctets 2).bindPure
  | ieShortFloat => exact (extent_readOctets 4).bindPure
  | ieNormalizedValue | ieScaledValue => exact extent_readNormalized.bindPure
  | ieTime16 | ieTime24 | ieTime56 => exact (Extent.vector endOfStream _).bindPure
  | _ => exact extent_readUnsignedByte.bindPure

def setExtent (set : List ElementClass) : List Octet → Except JavaException Nat :=
  inOrder (set.map ElementClass.extent)

def SetLayout.extent (numberOfSequenceElements : Nat) :
    SetLayout → List Octet → Except JavaException Nat
  | .looped set => inOrder (List.replicate numberOfSequenceElements (setExtent set))
  | .single set => setExtent set
  | .empty => fun _ => .ok 0

theorem SetLayout.extent_decode (numberOfSequenceElements : Nat) (layout : SetLayout) :
    Extent (layout.decode numberOfSequenceElements) (layout.extent numberOfSequenceElements) := by
  have one (set : List ElementClass) : Extent (decodeSet set) (setExtent set) :=
    Extent.mapM ElementClass.extent_decode
  cases layout with
  | looped set => exact Extent.times numberOfSequenceElements (one set)
  | single set => exact (one set).bindPure
  | empty => exact Extent.pure []

/-- What the user's decoder for reserved types takes. -/
def ReservedASduTypeDecoder.extent (decoder : ReservedASduTypeDecoder) (type : ASduType) :
    List Octet → Except JavaException Nat := fun s =>
  match decoder.decode type s with
  | .ok (_, rest) => .ok (s.length - rest.length)
  | .error e => .error e

theorem ReservedASduTypeDecoder.extent_decode (decoder : ReservedASduTypeDecoder) (type : ASduType) :
    Extent (decoder.decode type) (decoder.extent type) := by
  intro s
  simp only [extent]
  cases done : decoder.decode type s with
  | error e => exact rfl
  | ok r =>
    obtain ⟨n, within, same⟩ := decoder.forward type s r.1 r.2 done
    have taken : s.length - r.2.length = n := by
      rw [same, List.length_drop]
      omega
    simp only [taken]
    exact ⟨within, r.1, by rw [← same]⟩

/-- What an information object of a type takes. -/
def objectExtent (settings : ConnectionSettings) (type : ASduType) (numberOfSequenceElements : Nat) :
    List Octet → Except JavaException Nat :=
  andThen (fixed endOfStream settings.ioaFieldLength) <|
    match layoutOf type with
    | some layout => layout.extent numberOfSequenceElements
    | none =>
      match settings.reservedASduTypeDecoder with
      | some decoder =>
        if type.getId ≤ 127 ∧ type ∈ decoder.getSupportedTypes then decoder.extent type
        else fun _ => .error (InformationObject.decode.unknownType type)
      | none => fun _ => .error (InformationObject.decode.unknownType type)

theorem extent_objectDecode (settings : ConnectionSettings) (type : ASduType)
    (numberOfSequenceElements : Nat) :
    Extent (InformationObject.decode type numberOfSequenceElements settings.ioaFieldLength
      settings.reservedASduTypeDecoder) (objectExtent settings type numberOfSequenceElements) := by
  refine (extent_readOctets _).bind fun address => ?_
  cases layoutOf type with
  | some layout => exact (layout.extent_decode numberOfSequenceElements).bindPure
  | none =>
    cases settings.reservedASduTypeDecoder with
    | none => exact Extent.throw _
    | some decoder =>
      by_cases supported : type.getId ≤ 127 ∧ type ∈ decoder.getSupportedTypes
      · simp only [supported, and_self, if_true]
        exact decoder.extent_decode type
      · simp only [supported, if_false]
        exact Extent.throw _

section ASdu

variable (settings : ConnectionSettings)

/-- What the contents of an ASDU take, for its type, its qualifier octet and the
length left for a private payload. -/
def contentsExtent (type : ASduType) (qualifier : JInt) (payload : Int) :
    List Octet → Except JavaException Nat :=
  let sequenceLength := (qualifier &&& 0x7f).toNat
  if type.getId < 128 then
    if hasMask qualifier 0x80 then objectExtent settings type sequenceLength
    else inOrder (List.replicate sequenceLength (objectExtent settings type 1))
  else if payload < 0 then fun _ => .error .negativeArraySizeException
  else fixed endOfStream payload.toNat

def addressLength : Nat := settings.cotFieldLength + settings.commonAddressFieldLength

def aSduExtent (aSduLength : Int) : List Octet → Except JavaException Nat :=
  withNext endOfStream fun typeIdCode =>
    match ASduType.typeFor typeIdCode.toNat with
    | none => fun _ => .error (.iOException s!"Unknown Type Identification: {typeIdCode.toNat}")
    | some type =>
      withNext endOfStream fun qualifier =>
        andThen (fixed endOfStream (addressLength settings)) <|
          contentsExtent settings type (toInt qualifier) (aSduLength - 2 - addressLength settings)

theorem extent_readOriginatorAddress :
    Extent (ASdu.readOriginatorAddress settings) (fixed endOfStream (settings.cotFieldLength - 1)) := by
  rw [ASdu.readOriginatorAddress]
  rcases settings.cot_range with one | two
  · simp only [one]
    exact Extent.pureFixed endOfStream (-1)
  · simp only [two, if_true]
    exact extent_readUnsignedByte

theorem extent_readCommonAddress :
    Extent (ASdu.readCommonAddress settings)
      (fixed endOfStream settings.commonAddressFieldLength) := by
  rw [ASdu.readCommonAddress]
  rcases settings.commonAddress_range with one | two
  · simp only [one, if_true]
    exact extent_readUnsignedByte
  · simp only [two]
    exact extent_readUnsignedByte.bindFixed fun _ => extent_readUnsignedByte.bindPure

theorem extent_aSduDecode (aSduLength : Int) :
    Extent (ASdu.decode settings aSduLength) (aSduExtent settings aSduLength) := by
  refine extent_bindUnsignedByte fun typeIdCode => ?_
  have code : (toInt typeIdCode).toNat = typeIdCode.toNat := by simp [toInt]; omega
  rw [code]
  cases found : ASduType.typeFor typeIdCode.toNat with
  | none => exact Extent.throw _
  | some type =>
    refine extent_bindUnsignedByte fun qualifier => ?_
    have header : fixed (τ := Octet) endOfStream (addressLength settings) =
        andThen (fixed endOfStream 1) (andThen (fixed endOfStream (settings.cotFieldLength - 1))
          (fixed endOfStream settings.commonAddressFieldLength)) := by
      have positive : 1 ≤ settings.cotFieldLength := by
        rcases settings.cot_range with one | two <;> omega
      rw [fixed_andThen_fixed, fixed_andThen_fixed, addressLength]
      congr 1
      omega
    rw [header, andThen_assoc, andThen_assoc]
    refine extent_readUnsignedByte.bind fun _ => ?_
    refine (extent_readOriginatorAddress settings).bind fun _ => ?_
    refine (extent_readCommonAddress settings).bind fun _ => ?_
    rw [contentsExtent, ← ASduType.getId_of_typeFor found]
    by_cases standard : type.getId < 128
    · simp only [standard, if_true]
      cases sequence : hasMask (toInt qualifier) 0x80 with
      | true =>
        simp only [if_true]
        rw [times_one_bind]
        exact (extent_objectDecode settings type _).bindNothing fun _ => Extent.lift rfl
      | false =>
        exact (Extent.times _ (extent_objectDecode settings type 1)).bindNothing fun _ =>
          Extent.lift rfl
    · have left : ASdu.remainingLength settings aSduLength - 4 =
          aSduLength - 2 - addressLength settings := by
        rw [ASdu.remainingLength, addressLength]
        rcases settings.cot_range with cot | cot <;>
          rcases settings.commonAddress_range with address | address <;>
          simp [cot, address] <;> omega
      simp only [standard, if_false, left, ASdu.readPrivateInformation]
      by_cases negative : aSduLength - 2 - addressLength settings < 0
      · simp only [negative, if_true]
        exact Extent.throw _
      · simp only [negative, if_false]
        exact (Extent.word endOfStream _).bindPure

end ASdu

section Frame

variable (settings : ConnectionSettings)

/-- What control fields and payload take. The length octet counts for the payload
of the private types only. -/
def bodyExtent (length : Nat) : List Octet → Except JavaException Nat :=
  withVector endOfStream 4 fun aPduControlFields =>
    if ApciType.apciTypeFor aPduControlFields.head = .I_FORMAT then
      aSduExtent settings (length - APdu.CONTROL_FIELDS_LENGTH)
    else fun _ => .ok 0

/-- What a whole frame takes. -/
def frameExtent : List Octet → Except JavaException Nat :=
  withNext endOfStream fun start =>
    if start ≠ APdu.START_FLAG then fun _ => .error
      (.iOException "Message does not start with START flag (0x68). Broken connection.")
    else withNext endOfStream fun length =>
      if length.toNat < APdu.MIN_APDU_LENGTH ∨ APdu.MAX_APDU_LENGTH < length.toNat then fun _ =>
        .error (.iOException
          s!"APDU has an invalid length must be between 4 and 253.\nReceived length was: {length.toNat}.")
      else bodyExtent settings length.toNat

theorem extent_bindApduLength {α : Type} {k : Nat → InputStream α}
    {g : Nat → List Octet → Except JavaException Nat} (second : ∀ length, Extent (k length) (g length)) :
    Extent (APdu.readApduLength >>= k) (withNext endOfStream fun length =>
      if length.toNat < APdu.MIN_APDU_LENGTH ∨ APdu.MAX_APDU_LENGTH < length.toNat then fun _ =>
        .error (.iOException
          s!"APDU has an invalid length must be between 4 and 253.\nReceived length was: {length.toNat}.")
      else g length.toNat) := by
  simp only [APdu.readApduLength, bind_assoc]
  refine extent_bindUnsignedByte fun length => ?_
  have value : (toInt length).toNat = length.toNat := by simp [toInt]; omega
  rw [value]
  by_cases outside : length.toNat < APdu.MIN_APDU_LENGTH ∨ APdu.MAX_APDU_LENGTH < length.toNat
  · simp only [outside, if_true]
    exact Extent.throw _
  · simp only [outside, if_false, pure_bind]
    exact second length.toNat

theorem extent_decode : Extent (APdu.decode settings) (frameExtent settings) := by
  refine Extent.bindNext fun start => ?_
  by_cases wrong : start ≠ APdu.START_FLAG
  · simp only [wrong, if_true, ne_eq, not_false_eq_true]
    exact Extent.throw _
  · simp only [wrong, if_false]
    refine extent_bindApduLength (g := bodyExtent settings) fun length => ?_
    refine Extent.bindVector (m := 4) fun fields => ?_
    have first : fields.head = fields[0] := rfl
    rw [first]
    cases format : ApciType.apciTypeFor fields[0] with
    | I_FORMAT =>
      simp only [if_true]
      exact (extent_aSduDecode settings _).bindPure
    | _ =>
      simp only [reduceCtorEq, if_false]
      exact Extent.pure _

/-- The decoder either takes exactly the frame that the length octet announces, or
rejects it with an `IOException`. -/
def Synchronised (s : List Octet) : Prop :=
  match APdu.decode settings s with
  | .ok (_, rest) => ∃ length, s[1]? = some length ∧ 2 + length.toNat ≤ s.length ∧
      rest = s.drop (2 + length.toNat)
  | .error e => e.isIOException

/-- The contents of the frame take just as many octets as the length octet says, or
there is an `IOException` before they are complete. -/
def LengthMatches (s : List Octet) : Prop :=
  match frameExtent settings s with
  | .ok n => ∃ length, s[1]? = some length ∧ n = 2 + length.toNat
  | .error e => e.isIOException

/-- The decoder keeps to the frames exactly where the length octet agrees with the
contents: it is not compared with them. -/
theorem synchronised_iff (s : List Octet) : Synchronised settings s ↔ LengthMatches settings s := by
  have taken := extent_decode settings s
  rw [Synchronised, LengthMatches]
  cases ext : frameExtent settings s with
  | error e =>
    rw [ext] at taken
    rw [taken]
  | ok n =>
    rw [ext] at taken
    obtain ⟨within, aPdu, read⟩ := taken
    rw [read]
    constructor
    · rintro ⟨length, second, whole, same⟩
      refine ⟨length, second, ?_⟩
      have sizes := congrArg List.length same
      rw [List.length_drop, List.length_drop] at sizes
      omega
    · rintro ⟨length, second, rfl⟩
      exact ⟨length, second, within, rfl⟩

/-- A frame without payload matches only with the length four. -/
theorem lengthMatches_without_payload (length c1 c2 c3 c4 : Octet) (rest : List Octet)
    (least : 4 ≤ length.toNat) (most : length.toNat ≤ 253)
    (format : ApciType.apciTypeFor c1 ≠ .I_FORMAT) :
    LengthMatches settings (APdu.START_FLAG :: length :: c1 :: c2 :: c3 :: c4 :: rest) ↔
      length.toNat = 4 := by
  have inside : ¬ (length.toNat < APdu.MIN_APDU_LENGTH ∨ APdu.MAX_APDU_LENGTH < length.toNat) := by
    rw [APdu.MIN_APDU_LENGTH, APdu.CONTROL_FIELDS_LENGTH, APdu.MAX_APDU_LENGTH]
    omega
  have six : frameExtent settings (APdu.START_FLAG :: length :: c1 :: c2 :: c3 :: c4 :: rest) =
      .ok 6 := by
    have body : bodyExtent settings length.toNat (c1 :: c2 :: c3 :: c4 :: rest) = .ok 4 := by
      simp [bodyExtent, withVector, vector, Vector.head, format]
    simp only [frameExtent, withNext, ne_eq, not_true_eq_false, if_false, inside, body]
  rw [LengthMatches, six]
  constructor
  · rintro ⟨_, second, total⟩
    cases second
    omega
  · intro four
    exact ⟨length, rfl, by omega⟩

theorem setExtent_of_plain (set : List ElementClass)
    (plain : ∀ e ∈ set, e ≠ .ieFileSegment ∧ e ≠ .ieFixedTestBitPattern) :
    setExtent set = fixed endOfStream (set.map ElementClass.size).sum := by
  have sizes : set.map ElementClass.extent =
      (set.map ElementClass.size).map (fixed endOfStream) := by
    rw [List.map_map]
    apply List.map_congr_left
    intro e member
    obtain ⟨segment, pattern⟩ := plain e member
    cases e with
    | ieFileSegment => exact absurd rfl segment
    | ieFixedTestBitPattern => exact absurd rfl pattern
    | _ => rfl
  rw [setExtent, sizes, inOrder_fixed]

theorem objectExtent_of_plain (type : ASduType) (set : List ElementClass)
    (plain : ∀ e ∈ set, e ≠ .ieFileSegment ∧ e ≠ .ieFixedTestBitPattern)
    (layout : layoutOf type = some (.single set)) (numberOfSequenceElements : Nat) :
    objectExtent settings type numberOfSequenceElements =
      fixed endOfStream (settings.ioaFieldLength + (set.map ElementClass.size).sum) := by
  rw [objectExtent, layout]
  simp only [SetLayout.extent, setExtent_of_plain set plain, fixed_andThen_fixed]

theorem objectExtent_of_looped (type : ASduType) (set : List ElementClass)
    (plain : ∀ e ∈ set, e ≠ .ieFileSegment ∧ e ≠ .ieFixedTestBitPattern)
    (layout : layoutOf type = some (.looped set)) (numberOfSequenceElements : Nat) :
    objectExtent settings type numberOfSequenceElements = fixed endOfStream
      (settings.ioaFieldLength + numberOfSequenceElements * (set.map ElementClass.size).sum) := by
  have loop : List.replicate numberOfSequenceElements (setExtent set) =
      (List.replicate numberOfSequenceElements (set.map ElementClass.size).sum).map
        (fixed endOfStream) := by
    rw [setExtent_of_plain set plain, List.map_replicate]
  rw [objectExtent, layout]
  simp only [SetLayout.extent, loop, inOrder_fixed, fixed_andThen_fixed,
    List.sum_replicate_nat]

/-- An S frame that announces one octet more than it has: the octet is left to the
next frame. -/
theorem not_synchronised_sFormat :
    ¬ Synchronised {} [0x68, 0x05, 0x01, 0x00, 0x02, 0x00, 0xff] := by
  rintro ⟨length, second, whole, same⟩
  cases second
  cases same

/-- A private type in a frame too short for its addresses: the payload gets a negative
length. -/
example : APdu.decode {} [0x68, 0x08, 0x00, 0x00, 0x00, 0x00, 0xc8, 0x01, 0x05, 0x00, 0x01, 0x00] =
    .error .negativeArraySizeException := rfl

end Frame

end J60870
