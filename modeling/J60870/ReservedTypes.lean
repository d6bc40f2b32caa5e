import J60870.Framing

/-! The types reserved for further definitions, which the user's decoder reads: the address
in front of an object is read for it and given to nobody. -/

namespace J60870

open Lib Reader

variable {settings : ConnectionSettings} {type : ASduType} {decoder : ReservedASduTypeDecoder}

namespace ReservedASduTypeDecoder

/-- A reserved type that the user's decoder is asked for. -/
structure Supports (settings : ConnectionSettings) (decoder : ReservedASduTypeDecoder) (type : ASduType) :
    Prop where
  configured : settings.reservedASduTypeDecoder = some decoder
  reserved : layoutOf type = none
  listed : type.getId ≤ 127 ∧ type ∈ decoder.getSupportedTypes

/-- Behind the address octets, whatever they are, the object is what the user's decoder makes of
the rest. -/
theorem Supports.decode_object (supports : Supports settings decoder type)
    (numberOfSequenceElements : Nat) (address behind : List Octet)
    (width : address.length = settings.ioaFieldLength) :
    InformationObject.decode type numberOfSequenceElements settings.ioaFieldLength
      settings.reservedASduTypeDecoder (address ++ behind) = decoder.decode type behind := by
  have taken := extent_readOctets settings.ioaFieldLength (address ++ behind)
  have enough : settings.ioaFieldLength ≤ (address ++ behind).length := by
    rw [List.length_append]
    omega
  simp only [fixed, enough, if_true] at taken
  obtain ⟨_, value, read⟩ := taken
  rw [← width, List.drop_left, width] at read
  unfold InformationObject.decode
  rw [bind_apply, read]
  simp only [supports.reserved, supports.configured, supports.listed, and_self, if_true]

end ReservedASduTypeDecoder

/-- `setReservedASduTypeDecoder` of the builders. -/
def ConnectionSettings.withDecoder (settings : ConnectionSettings) (decoder : ReservedASduTypeDecoder) :
    ConnectionSettings :=
  { settings with reservedASduTypeDecoder := some decoder }

private theorem after_octet {α : Type} (b : Octet) (s : List Octet) (k : JInt → InputStream α) :
    (readUnsignedByte >>= k) (b :: s) = k (toInt b) s := rfl

/-- The reader of one object, as the structure qualifier has it. -/
def objectReader (settings : ConnectionSettings) (type : ASduType) (qualifier : Octet) :
    InputStream InformationObject :=
  InformationObject.decode type
    (if hasMask (toInt qualifier) 0x80 then (toInt qualifier &&& 0x7f).toNat else 1)
    settings.ioaFieldLength settings.reservedASduTypeDecoder

/-- How many objects the structure qualifier announces. -/
def numberOfObjects (qualifier : Octet) : Nat :=
  if hasMask (toInt qualifier) 0x80 then 1 else (toInt qualifier &&& 0x7f).toNat

private theorem standardized_contents {sequence test negative : Bool} {cause : Option CauseOfTransmission}
    {originator common : JInt} {objects : List InformationObject} {s rest : List Octet} {aSdu : ASdu}
    (built : (liftM (ASdu.standardized type sequence cause test negative originator common objects) :
      InputStream ASdu) s = .ok (aSdu, rest)) :
    aSdu.informationObjects = some objects ∧ s = rest := by
  cases sequence with
  | false =>
    cases built
    exact ⟨rfl, rfl⟩
  | true =>
    cases objects with
    | nil => cases built
    | cons first others =>
      cases built
      exact ⟨rfl, rfl⟩

/-- Of a standardized ASDU the objects are read one after the other behind the addresses. -/
theorem ASdu.objects_of_decode {aSduLength : Int} {typeCode qualifier cause : Octet}
    {addresses body rest : List Octet} {aSdu : ASdu}
    (decoded : ASdu.decode settings aSduLength (typeCode :: qualifier :: cause :: (addresses ++ body)) =
      .ok (aSdu, rest))
    (known : ASduType.typeFor typeCode.toNat = some type) (low : type.getId ≤ 127)
    (size : 1 + addresses.length = addressLength settings) :
    ∃ objects, aSdu.informationObjects = some objects ∧
      times (numberOfObjects qualifier) (objectReader settings type qualifier) body =
        .ok (objects, rest) := by
  have code : (toInt typeCode).toNat = typeCode.toNat := by
    rw [toInt, BitVec.toNat_setWidth]
    omega
  have standard : typeCode.toNat < 128 := by
    have same := ASduType.getId_of_typeFor known
    omega
  rw [ASdu.decode, after_octet, code, known] at decoded
  simp only [after_octet] at decoded
  obtain ⟨originator, s1, first, decoded⟩ := bind_eq_ok.mp decoded
  obtain ⟨common, s2, second, decoded⟩ := bind_eq_ok.mp decoded
  obtain rfl := (extent_readOriginatorAddress settings).rest_eq_drop first
  obtain rfl := (extent_readCommonAddress settings).rest_eq_drop second
  have skipped : settings.cotFieldLength - 1 + settings.commonAddressFieldLength = addresses.length := by
    have cot := settings.cot_range
    rw [addressLength] at size
    omega
  rw [List.drop_drop, skipped, List.drop_left, if_pos standard] at decoded
  obtain ⟨objects, s3, read, built⟩ := bind_eq_ok.mp decoded
  obtain ⟨contents, remaining⟩ := standardized_contents built
  rw [← remaining]
  exact ⟨objects, contents, read⟩

namespace APdu

/-- The ASDU of an I frame is what its octets behind the control fields are read as. -/
theorem aSdu_of_decode {start length c1 c2 c3 c4 : Octet} {payload rest : List Octet} {aPdu : APdu}
    (decoded : decode settings (start :: length :: c1 :: c2 :: c3 :: c4 :: payload) = .ok (aPdu, rest))
    (format : ApciType.apciTypeFor c1 = .I_FORMAT) :
    ∃ aSduLength aSdu, aPdu.aSdu = some aSdu ∧
      ASdu.decode settings aSduLength payload = .ok (aSdu, rest) := by
  obtain ⟨first, s1, read, decoded⟩ := bind_eq_ok.mp decoded
  cases read
  by_cases wrong : start ≠ START_FLAG
  · rw [if_pos wrong] at decoded
    cases decoded
  rw [if_neg wrong] at decoded
  obtain ⟨announced, s2, read, decoded⟩ := bind_eq_ok.mp decoded
  rw [readApduLength, after_octet] at read
  split at read
  · cases read
  cases read
  obtain ⟨fields, s3, read, decoded⟩ := bind_eq_ok.mp decoded
  have four : readControlFields (c1 :: c2 :: c3 :: c4 :: payload) = .ok (#v[c1, c2, c3, c4], payload) := by
    simp [readControlFields, vector, CONTROL_FIELDS_LENGTH]
  obtain ⟨rfl, rfl⟩ := Prod.mk.inj (Except.ok.inj (four.symm.trans read))
  have control : (#v[c1, c2, c3, c4] : Vector Octet CONTROL_FIELDS_LENGTH)[0] = c1 := rfl
  simp only [control, format] at decoded
  obtain ⟨aSdu, s4, read, decoded⟩ := bind_eq_ok.mp decoded
  cases decoded
  exact ⟨_, aSdu, rfl, read⟩

def object? (aPdu : APdu) (k : Nat) : Option InformationObject :=
  aPdu.aSdu.bind fun aSdu => aSdu.informationObjects.bind fun objects => objects[k]?

/-- Two frames of a type that differ only in the address of object number `k`: in both of them the
objects in front of it end where its address begins. -/
inductive DifferInAddress (settings : ConnectionSettings) (type : ASduType) (k : Nat) :
    List Octet → List Octet → Prop
  | intro {start length c1 c2 c3 c4 typeCode qualifier cause : Octet}
      {addresses before address other behind : List Octet} {firsts otherFirsts : List InformationObject}
      (format : ApciType.apciTypeFor c1 = .I_FORMAT)
      (known : ASduType.typeFor typeCode.toNat = some type)
      (size : 1 + addresses.length = addressLength settings)
      (inside : k < numberOfObjects qualifier)
      (width : address.length = settings.ioaFieldLength)
      (otherWidth : other.length = settings.ioaFieldLength)
      (differ : address ≠ other)
      (started : times k (objectReader settings type qualifier) (before ++ (address ++ behind)) =
        .ok (firsts, address ++ behind))
      (otherStarted : times k (objectReader settings type qualifier) (before ++ (other ++ behind)) =
        .ok (otherFirsts, other ++ behind)) :
      DifferInAddress settings type k
        (start :: length :: c1 :: c2 :: c3 :: c4 :: typeCode :: qualifier :: cause ::
          (addresses ++ (before ++ (address ++ behind))))
        (start :: length :: c1 :: c2 :: c3 :: c4 :: typeCode :: qualifier :: cause ::
          (addresses ++ (before ++ (other ++ behind))))

/-- What is wanted of the two: the addresses of the two objects differ as well. -/
def AddressArrives (k : Nat) (aPdu other : APdu) : Prop :=
  ∀ object otherObject, aPdu.object? k = some object → other.object? k = some otherObject →
    object.informationObjectAddress ≠ otherObject.informationObjectAddress

private theorem object_behind_address {k : Nat}
    {start length c1 c2 c3 c4 typeCode qualifier cause : Octet}
    {addresses body address behind rest : List Octet} {firsts : List InformationObject} {aPdu : APdu}
    (supports : decoder.Supports settings type) (format : ApciType.apciTypeFor c1 = .I_FORMAT)
    (known : ASduType.typeFor typeCode.toNat = some type)
    (size : 1 + addresses.length = addressLength settings) (inside : k < numberOfObjects qualifier)
    (width : address.length = settings.ioaFieldLength)
    (started : times k (objectReader settings type qualifier) body = .ok (firsts, address ++ behind))
    (decoded : decode settings (start :: length :: c1 :: c2 :: c3 :: c4 :: typeCode :: qualifier ::
      cause :: (addresses ++ body)) = .ok (aPdu, rest)) :
    ∃ object after, decoder.decode type behind = .ok (object, after) ∧ aPdu.object? k = some object := by
  -- Object number `k` of a frame is what the user's decoder makes of the octets behind its address.
  obtain ⟨aSduLength, aSdu, carried, inner⟩ := aSdu_of_decode decoded format
  obtain ⟨objects, contents, all⟩ := ASdu.objects_of_decode inner known supports.listed.1 size
  obtain ⟨object, after, read, found⟩ := times_getElem all started inside
  rw [objectReader, supports.decode_object _ _ _ width] at read
  refine ⟨object, after, read, ?_⟩
  rw [object?, carried, Option.bind_some, contents, Option.bind_some, found]

/-- Both objects are what the user's decoder makes of the octets behind the address, which are the
same: what the frames differ in arrives for no decoder at all. -/
theorem not_addressArrives {k : Nat} {s other rest otherRest : List Octet} {aPdu otherAPdu : APdu}
    (supports : decoder.Supports settings type) (differ : DifferInAddress settings type k s other)
    (decoded : decode settings s = .ok (aPdu, rest))
    (otherDecoded : decode settings other = .ok (otherAPdu, otherRest)) :
    ¬ AddressArrives k aPdu otherAPdu := by
  cases differ with
  | intro format known size inside width otherWidth _ started otherStarted =>
    obtain ⟨object, after, read, found⟩ :=
      object_behind_address supports format known size inside width started decoded
    obtain ⟨otherObject, otherAfter, otherRead, otherFound⟩ :=
      object_behind_address supports format known size inside otherWidth otherStarted otherDecoded
    have same : object = otherObject :=
      (Prod.mk.inj (Except.ok.inj (read.symm.trans otherRead))).1
    intro arrives
    exact arrives object otherObject found otherFound (congrArg _ same)

/-- A decoder for one type, whose objects are nothing but their place holders. -/
def ReservedASduTypeDecoderImpl : ReservedASduTypeDecoder where
  getSupportedTypes := [.RESERVED ⟨44, by decide⟩]
  decode _ := return ⟨0, []⟩
  forward _ s _ _ read := by
    cases read
    exact ⟨0, Nat.zero_le _, rfl⟩

/-- `RESERVED_44` with one object, at the given address. -/
def reservedFrame (address : Octet) : List Octet :=
  [0x68, 0x0d, 0x00, 0x00, 0x00, 0x00, 0x2c, 0x01, 0x03, 0x00, 0x01, 0x00, address, 0x00, 0x00]

/-- What such a frame is decoded to, whatever the address. -/
def reservedAPdu : APdu := iFormat 0 0 {
  aSduType := .RESERVED ⟨44, by decide⟩
  isSequenceOfElements := false
  causeOfTransmission := CauseOfTransmission.causeFor 3
  test := false
  negativeConfirm := false
  originatorAddress := 0
  commonAddress := 1
  informationObjects := some [⟨0, []⟩]
  privateInformation := none
  sequenceLength := 1 }

private theorem supports_reserved (settings : ConnectionSettings) :
    ReservedASduTypeDecoderImpl.Supports (settings.withDecoder ReservedASduTypeDecoderImpl)
      (.RESERVED ⟨44, by decide⟩) :=
  ⟨rfl, rfl, by decide, by decide⟩

private theorem differ_reservedFrame :
    DifferInAddress (({} : ConnectionSettings).withDecoder ReservedASduTypeDecoderImpl)
      (.RESERVED ⟨44, by decide⟩) 0 (reservedFrame 1) (reservedFrame 2) := by
  change DifferInAddress _ _ 0
    (0x68 :: 0x0d :: 0 :: 0 :: 0 :: 0 :: 0x2c :: 0x01 :: 0x03 :: ([0, 1, 0] ++ ([] ++ ([1, 0, 0] ++ []))))
    (0x68 :: 0x0d :: 0 :: 0 :: 0 :: 0 :: 0x2c :: 0x01 :: 0x03 :: ([0, 1, 0] ++ ([] ++ ([2, 0, 0] ++ []))))
  exact .intro rfl (by decide) rfl (by decide) rfl rfl (by decide) rfl rfl

private theorem decode_reservedFrame :
    decode (({} : ConnectionSettings).withDecoder ReservedASduTypeDecoderImpl) (reservedFrame 1) =
      .ok (reservedAPdu, []) ∧
    decode (({} : ConnectionSettings).withDecoder ReservedASduTypeDecoderImpl) (reservedFrame 2) =
      .ok (reservedAPdu, []) := by
  decide

/-- The two addresses of the frames become the one address that the decoder puts in. -/
theorem not_addressArrives_sample : ¬ AddressArrives 0 reservedAPdu reservedAPdu :=
  not_addressArrives (supports_reserved {}) differ_reservedFrame decode_reservedFrame.1
    decode_reservedFrame.2

theorem not_addressArrives_always :
    ¬ ∀ (settings : ConnectionSettings) (decoder : ReservedASduTypeDecoder) (type : ASduType) (k : Nat)
        (s other rest otherRest : List Octet) (aPdu otherAPdu : APdu), decoder.Supports settings type →
      DifferInAddress settings type k s other → decode settings s = .ok (aPdu, rest) →
      decode settings other = .ok (otherAPdu, otherRest) → AddressArrives k aPdu otherAPdu := by
  intro arrives
  have differs := arrives _ _ _ 0 _ _ _ _ _ _ (supports_reserved {}) differ_reservedFrame
    decode_reservedFrame.1 decode_reservedFrame.2
  exact differs ⟨0, []⟩ ⟨0, []⟩ rfl rfl rfl

end APdu

end J60870
