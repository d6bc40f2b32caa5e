import J60870.ASdu
import J60870.Ie.Spelling

namespace J60870

open Lib

/-- The SQ bit of a structure qualifier. -/
def sequenceBit (qualifier : Octet) : Bool := hasMask (toInt qualifier) 0x80

/-- The count of a structure qualifier. -/
def countOf (qualifier : Octet) : Nat := (toInt qualifier &&& 0x7f).toNat

namespace ASdu

/-- The fields an ASDU takes from its first three octets. -/
structure HeaderRead (typeCode qualifier causeCode : Octet) (aSdu : ASdu) : Prop where
  type : ASduType.typeFor typeCode.toNat = some aSdu.aSduType
  sequence : aSdu.isSequenceOfElements = sequenceBit qualifier
  cause : aSdu.causeOfTransmission =
    CauseOfTransmission.causeFor (toInt causeCode &&& 0x3f).toNat
  test : aSdu.test = hasMask (toInt causeCode) 0x80
  negativeConfirm : aSdu.negativeConfirm = hasMask (toInt causeCode) 0x40

/-- The contents an ASDU takes from the octets behind the addresses. -/
inductive ContentsRead (settings : ConnectionSettings) (qualifier : Octet) (bs : List Octet)
    (aSdu : ASdu) : Prop
  /-- a type with a case of its own: as many objects, or else sets, as the case reads -/
  | objects (layout : SetLayout) (objects : List InformationObject)
      (found : layoutOf aSdu.aSduType = some layout)
      (contents : aSdu.informationObjects = some objects)
      (rows : Rows (InformationObject.Spells settings.ioaFieldLength
        (layout.setCount (if sequenceBit qualifier then countOf qualifier else 1))) bs objects)
      (number : objects.length = if sequenceBit qualifier then 1 else countOf qualifier)
      (length : aSdu.sequenceLength = BitVec.ofNat 32
        (if sequenceBit qualifier then layout.setCount (countOf qualifier) else countOf qualifier))
  /-- a reserved type: objects only from the user's decoder -/
  | reserved (unknown : layoutOf aSdu.aSduType = none) (low : aSdu.aSduType.getId < 128)
      (refused : settings.reservedASduTypeDecoder = none → sequenceBit qualifier = false ∧
        countOf qualifier = 0 ∧ aSdu.informationObjects = some [] ∧ aSdu.sequenceLength = 0)
  /-- a private type: the rest of the octets -/
  | privateInformation (high : 128 ≤ aSdu.aSduType.getId)
      (contents : aSdu.informationObjects = none ∧ aSdu.privateInformation = some bs)
      (length : aSdu.sequenceLength = toInt qualifier &&& 0x7f)

/-- The octets an ASDU was read from. -/
inductive ReadFrom (settings : ConnectionSettings) : List Octet → ASdu → Prop
  | intro (typeCode qualifier causeCode : Octet) (bs : List Octet) (aSdu : ASdu)
      (header : aSdu.HeaderRead typeCode qualifier causeCode)
      (contents : aSdu.ContentsRead settings qualifier bs) :
      ReadFrom settings (typeCode :: qualifier :: causeCode :: (aSdu.addresses settings ++ bs)) aSdu

variable {settings : ConnectionSettings}

theorem ensures_readOriginatorAddress {E : JavaException → Prop} (ended : E endOfStream) :
    Reader.Ensures (readOriginatorAddress settings)
      (fun bs address => bs = if settings.cotFieldLength = 2 then [toByte address] else []) E := by
  rw [readOriginatorAddress]
  by_cases two : settings.cotFieldLength = 2
  · simp only [two, if_true]
    exact ensures_readUnsignedByte ended fun b => congrArg (fun b => [b]) (toByte_toInt b).symm
  · simp only [two, if_false]
    exact Reader.Ensures.pure rfl

theorem ensures_readCommonAddress {E : JavaException → Prop} (ended : E endOfStream) :
    Reader.Ensures (readCommonAddress settings)
      (fun bs address => bs = toByte address ::
        (if settings.commonAddressFieldLength = 2 then [toByte (address.sshiftRight 8)] else [])) E := by
  rw [readCommonAddress]
  rcases settings.commonAddress_range with one | two
  · simp only [one, if_true, OfNat.one_ne_ofNat, if_false]
    exact ensures_readUnsignedByte ended fun b => congrArg (fun b => [b]) (toByte_toInt b).symm
  · simp only [two, OfNat.ofNat_ne_one, if_true, if_false]
    refine ensures_bind_readUnsignedByte ended fun b1 => ?_
    refine ensures_bind_readUnsignedByte ended fun b2 => Reader.Ensures.pure ?_
    have gathered : gather (0#32) 0 [b1, b2] = toInt b1 ||| (toInt b2 <<< 8) := by
      change (0#32 ||| (toInt b1 <<< 0)) ||| (toInt b2 <<< 8) = _
      rw [BitVec.shiftLeft_zero, BitVec.zero_or]
    have spelled := octets_gather (w := 32) [b1, b2] (by simp)
    rw [gathered] at spelled
    rw [toByte_eq_octet, toByte_sshiftRight_eight]
    exact spelled.symm

theorem countOf_lt (qualifier : Octet) : countOf qualifier < 128 := by
  have small : ∀ b : Octet, (toInt b &&& 0x7f).toNat < 128 := by decide +kernel
  exact small qualifier

section Contents

variable {typeCode qualifier causeCode : Octet} {type : ASduType} {bs : List Octet}

/-- The octets behind the cause octet, as the addresses were read from them. -/
private abbrev addressed (settings : ConnectionSettings) (originatorAddress commonAddress : JInt)
    (bs : List Octet) : List Octet :=
  (if settings.cotFieldLength = 2 then [toByte originatorAddress] else []) ++
  ((toByte commonAddress ::
    (if settings.commonAddressFieldLength = 2 then [toByte (commonAddress.sshiftRight 8)] else [])) ++
    bs)

private theorem ReadFrom.of_contents {aSdu : ASdu} {originatorAddress commonAddress : JInt}
    (header : aSdu.HeaderRead typeCode qualifier causeCode)
    (contents : aSdu.ContentsRead settings qualifier bs)
    (originator : aSdu.originatorAddress = originatorAddress)
    (common : aSdu.commonAddress = commonAddress) :
    ReadFrom settings (typeCode :: qualifier :: causeCode ::
      addressed settings originatorAddress commonAddress bs) aSdu := by
  have read := ReadFrom.intro typeCode qualifier causeCode bs aSdu header contents
  rwa [addresses, List.append_assoc, originator, common] at read

private theorem standardized_objects {layout : SetLayout} {objects : List InformationObject}
    {originatorAddress commonAddress : JInt}
    (known : ASduType.typeFor typeCode.toNat = some type) (found : layoutOf type = some layout)
    (rows : Rows (InformationObject.Spells settings.ioaFieldLength
      (layout.setCount (if sequenceBit qualifier then countOf qualifier else 1))) bs objects)
    (number : objects.length = if sequenceBit qualifier then 1 else countOf qualifier) :
    ∃ aSdu, standardized type (sequenceBit qualifier)
        (CauseOfTransmission.causeFor (toInt causeCode &&& 0x3f).toNat)
        (hasMask (toInt causeCode) 0x80) (hasMask (toInt causeCode) 0x40)
        originatorAddress commonAddress objects = .ok aSdu ∧
      ReadFrom settings (typeCode :: qualifier :: causeCode ::
        addressed settings originatorAddress commonAddress bs) aSdu := by
  cases sequence : sequenceBit qualifier with
  | false =>
    refine ⟨_, rfl, ReadFrom.of_contents ⟨known, sequence.symm, rfl, rfl, rfl⟩ ?_ rfl rfl⟩
    refine .objects layout objects found rfl rows number ?_
    simp [sequence, number]
  | true =>
    have sets := rows.forall_mem (P := fun object => object.informationElements.length =
      layout.setCount (countOf qualifier)) fun _ _ spelled => by simpa [sequence] using spelled.count
    rw [sequence] at number
    obtain ⟨object, rfl⟩ := List.length_eq_one_iff.mp number
    refine ⟨_, rfl, ReadFrom.of_contents ⟨known, sequence.symm, rfl, rfl, rfl⟩ ?_ rfl rfl⟩
    refine .objects layout [object] found rfl rows (by simp [sequence]) ?_
    simp [sequence, sets object (by simp)]

private theorem standardized_reserved {objects : List InformationObject}
    {originatorAddress commonAddress : JInt} (low : typeCode.toNat < 128)
    (known : ASduType.typeFor typeCode.toNat = some type) (unknown : layoutOf type = none)
    (rows : Rows (fun _ _ => settings.reservedASduTypeDecoder ≠ none) bs objects)
    (number : objects.length = if sequenceBit qualifier then 1 else countOf qualifier) :
    ∃ aSdu, standardized type (sequenceBit qualifier)
        (CauseOfTransmission.causeFor (toInt causeCode &&& 0x3f).toNat)
        (hasMask (toInt causeCode) 0x80) (hasMask (toInt causeCode) 0x40)
        originatorAddress commonAddress objects = .ok aSdu ∧
      ReadFrom settings (typeCode :: qualifier :: causeCode ::
        addressed settings originatorAddress commonAddress bs) aSdu := by
  have standard : type.getId < 128 := by rwa [ASduType.getId_of_typeFor known]
  have refused (absent : settings.reservedASduTypeDecoder = none) : objects = [] :=
    List.eq_nil_iff_forall_not_mem.mpr fun object member =>
      rows.forall_mem (P := fun _ => settings.reservedASduTypeDecoder ≠ none)
        (fun _ _ given => given) object member absent
  cases sequence : sequenceBit qualifier with
  | false =>
    refine ⟨_, rfl, ReadFrom.of_contents ⟨known, sequence.symm, rfl, rfl, rfl⟩ ?_ rfl rfl⟩
    refine .reserved unknown standard fun absent => ?_
    obtain rfl := refused absent
    rw [sequence] at number
    exact ⟨sequence, number.symm, rfl, rfl⟩
  | true =>
    rw [sequence] at number
    obtain ⟨object, rfl⟩ := List.length_eq_one_iff.mp number
    refine ⟨_, rfl, ReadFrom.of_contents ⟨known, sequence.symm, rfl, rfl, rfl⟩ ?_ rfl rfl⟩
    exact .reserved unknown standard fun absent => by cases refused absent

end Contents

/-- An octet string is decoded behind its type code to an ASDU that was read from it. -/
theorem ensures_decode (settings : ConnectionSettings) (aSduLength : Int) (typeCode : Octet) :
    Reader.Ensures (fun s => decode settings aSduLength (typeCode :: s))
      (fun bs aSdu => ReadFrom settings (typeCode :: bs) aSdu)
      (fun e => settings.reservedASduTypeDecoder = none → typeCode.toNat < 128 → e.Checked) := by
  unfold decode
  refine ensures_behind_octet typeCode ?_
  have code : (toInt typeCode).toNat = typeCode.toNat := by
    rw [toInt, BitVec.toNat_setWidth]
    omega
  rw [code]
  cases known : ASduType.typeFor typeCode.toNat with
  | none => exact Reader.Ensures.throw fun _ _ => rfl
  | some type =>
    refine ensures_bind_readUnsignedByte (fun _ _ => rfl) fun qualifier => ?_
    refine ensures_bind_readUnsignedByte (fun _ _ => rfl) fun causeCode => ?_
    refine (ensures_readOriginatorAddress fun _ _ => rfl).bind ?_
    rintro _ originatorAddress rfl
    refine (ensures_readCommonAddress fun _ _ => rfl).bind ?_
    rintro _ commonAddress rfl
    by_cases low : typeCode.toNat < 128
    · rw [if_pos low]
      cases found : layoutOf type with
      | some layout =>
        refine (Reader.Ensures.times ((InformationObject.ensures_decode _ found
          settings.ioa_range.2).mono (fun _ _ spelled => spelled) fun _ checked _ _ => checked)).bind ?_
        rintro bs objects ⟨rows, number⟩
        obtain ⟨aSdu, built, read⟩ := standardized_objects known found rows number
        refine Reader.Ensures.lift built ?_
        rwa [List.append_nil]
      | none =>
        refine (Reader.Ensures.times ((InformationObject.ensures_decode_unknown _ found
          settings.ioa_range.2).mono (fun _ _ spelled => spelled)
            fun _ checked absent _ => checked absent)).bind ?_
        rintro bs objects ⟨rows, number⟩
        obtain ⟨aSdu, built, read⟩ := standardized_reserved low known found rows number
        refine Reader.Ensures.lift built ?_
        rwa [List.append_nil]
    · rw [if_neg low]
      have high : 128 ≤ type.getId := by
        rw [ASduType.getId_of_typeFor known]
        exact Nat.le_of_not_lt low
      by_cases negative : remainingLength settings aSduLength - 4 < 0
      · simp only [readPrivateInformation, negative, if_true]
        exact Reader.Ensures.throw fun _ standard => absurd standard low
      · simp only [readPrivateInformation, negative, if_false]
        refine (Reader.Ensures.word (R := fun bs bytes => bs = bytes) (fun _ _ => rfl)
          fun _ _ => rfl).bindPure ?_
        rintro bytes _ rfl
        exact ReadFrom.of_contents ⟨known, rfl, rfl, rfl, rfl⟩
          (.privateInformation high ⟨rfl, rfl⟩ rfl) rfl rfl

/-- None of its short floats is NaN. -/
def HasNumbers (aSdu : ASdu) : Prop :=
  ∀ object ∈ aSdu.informationObjects.getD [], object.HasNumbers

instance : DecidablePred HasNumbers := fun aSdu => by unfold HasNumbers; infer_instance

/-- The structure qualifier tells what was read: single sets, any payload, or the sets of
a type whose case loops over them. -/
def KeepsQualifier (aSdu : ASdu) : Prop :=
  aSdu.isSequenceOfElements = false ∨ (∃ id, aSdu.aSduType = .PRIVATE id) ∨
    ∃ set, layoutOf aSdu.aSduType = some (.looped set)

private theorem qualifier_written : ∀ q : Octet,
    (if hasMask (toInt q) 0x80 then toByte ((toInt q &&& 0x7f) ||| 0x80)
      else toByte (toInt q &&& 0x7f)) = q := by
  decide +kernel

private theorem cause_written : ∀ c : Octet,
    (if hasMask (toInt c) 0x80 then
        if hasMask (toInt c) 0x40 then toByte ((toInt c &&& 0x3f) ||| 0xC0)
        else toByte ((toInt c &&& 0x3f) ||| 0x80)
      else if hasMask (toInt c) 0x40 then toByte ((toInt c &&& 0x3f) ||| 0x40)
      else toByte (toInt c &&& 0x3f)) = c := by
  decide +kernel

variable {typeCode qualifier causeCode : Octet} {bs octets : List Octet} {aSdu : ASdu}

namespace HeaderRead

theorem typeOctet (header : aSdu.HeaderRead typeCode qualifier causeCode) :
    BitVec.ofNat 8 aSdu.aSduType.getId = typeCode := by
  rw [ASduType.getId_of_typeFor header.type, BitVec.ofNat_toNat, BitVec.setWidth_eq]

theorem causeWire (header : aSdu.HeaderRead typeCode qualifier causeCode)
    (given : aSdu.causeOfTransmission.isSome) : aSdu.causeWire = [causeCode] := by
  obtain ⟨cause, found⟩ := Option.isSome_iff_exists.mp given
  have identified := CauseOfTransmission.getId_of_causeFor (header.cause.symm.trans found)
  have value : BitVec.ofNat 32 cause.getId = toInt causeCode &&& 0x3f := by
    rw [identified, BitVec.ofNat_toNat, BitVec.setWidth_eq]
  have octet : aSdu.causeOctet cause = causeCode := by
    rw [causeOctet, value, header.test, header.negativeConfirm]
    exact cause_written causeCode
  rw [ASdu.causeWire, found, Option.map_some, octet]
  rfl

theorem qualifierOctet (header : aSdu.HeaderRead typeCode qualifier causeCode)
    (count : aSdu.sequenceLength = toInt qualifier &&& 0x7f) : aSdu.qualifier = qualifier := by
  rw [ASdu.qualifier, header.sequence, count]
  exact qualifier_written qualifier

end HeaderRead

/-- Only a reserved type below 128 reaches the default case of the switch. -/
theorem eq_reserved_of_layout {type : ASduType} (unknown : layoutOf type = none)
    (low : type.getId < 128) : ∃ id, type = .RESERVED id := by
  cases type with
  | RESERVED id => exact ⟨id, rfl⟩
  | PRIVATE id => exact absurd low (Nat.not_lt.mpr id.property.1)
  | _ => cases unknown

namespace ContentsRead

theorem sequenceLength (contents : aSdu.ContentsRead settings qualifier bs)
    (sequence : aSdu.isSequenceOfElements = sequenceBit qualifier)
    (handled : ∀ id, aSdu.aSduType ≠ .RESERVED id) (kept : aSdu.KeepsQualifier) :
    aSdu.sequenceLength = toInt qualifier &&& 0x7f := by
  cases contents with
  | objects layout objects found contents rows number length =>
    have count : (if sequenceBit qualifier then layout.setCount (countOf qualifier)
        else countOf qualifier) = countOf qualifier := by
      rcases kept with single | ⟨id, type⟩ | ⟨set, looped⟩
      · rw [← sequence, single]
        rfl
      · rw [type] at found
        cases found
      · obtain rfl : layout = .looped set := Option.some.inj (found.symm.trans looped)
        exact ite_self _
    rw [length, count, countOf, BitVec.ofNat_toNat, BitVec.setWidth_eq]
  | reserved unknown low refused =>
    obtain ⟨id, type⟩ := eq_reserved_of_layout unknown low
    exact absurd type (handled id)
  | privateInformation high contents length => exact length

theorem contentsWire (contents : aSdu.ContentsRead settings qualifier bs)
    (handled : ∀ id, aSdu.aSduType ≠ .RESERVED id) (numbers : aSdu.HasNumbers) :
    aSdu.contentsWire settings = bs := by
  cases contents with
  | objects layout objects found contents rows number length =>
    rw [HasNumbers, contents] at numbers
    rw [ASdu.contentsWire, contents]
    exact rows.flatMap_eq (fun _ _ spelled => spelled.wire) numbers
  | reserved unknown low refused =>
    obtain ⟨id, type⟩ := eq_reserved_of_layout unknown low
    exact absurd type (handled id)
  | privateInformation high contents length =>
    rw [ASdu.contentsWire, contents.1, contents.2]
    rfl

theorem encodable (contents : aSdu.ContentsRead settings qualifier bs)
    (handled : ∀ id, aSdu.aSduType ≠ .RESERVED id) (given : aSdu.causeOfTransmission.isSome) :
    aSdu.Encodable := by
  refine ⟨given, ?_⟩
  cases contents with
  | objects layout objects found contents rows number length =>
    rw [contents]
    exact rows.forall_mem fun _ _ spelled => spelled.encodable
  | reserved unknown low refused =>
    obtain ⟨id, type⟩ := eq_reserved_of_layout unknown low
    exact absurd type (handled id)
  | privateInformation high contents length =>
    rw [contents.1, contents.2]
    rfl

end ContentsRead

theorem readFrom_of_decode {aSduLength : Int} {rest : List Octet}
    (decoded : decode settings aSduLength octets = .ok (aSdu, rest)) :
    ∃ bs, octets = bs ++ rest ∧ ReadFrom settings bs aSdu := by
  cases octets with
  | nil => cases decoded
  | cons typeCode octets =>
    obtain ⟨bs, rfl, read⟩ := (ensures_decode settings aSduLength typeCode).of_ok decoded
    exact ⟨typeCode :: bs, rfl, read⟩

namespace ReadFrom

theorem encodable (read : ReadFrom settings octets aSdu) (given : aSdu.causeOfTransmission.isSome)
    (handled : ∀ id, aSdu.aSduType ≠ .RESERVED id) : aSdu.Encodable := by
  obtain ⟨typeCode, qualifier, causeCode, bs, _, header, contents⟩ := read
  exact contents.encodable handled given

theorem wire (read : ReadFrom settings octets aSdu) (given : aSdu.causeOfTransmission.isSome)
    (numbers : aSdu.HasNumbers) (handled : ∀ id, aSdu.aSduType ≠ .RESERVED id)
    (kept : aSdu.KeepsQualifier) : aSdu.wire settings = octets := by
  obtain ⟨typeCode, qualifier, causeCode, bs, _, header, contents⟩ := read
  have count := contents.sequenceLength header.sequence handled kept
  rw [ASdu.wire, header.typeOctet, header.qualifierOctet count, header.causeWire given,
    contents.contentsWire handled numbers]
  rfl

end ReadFrom

/-- An octet string that is an ASDU to its last octet is laid down again by the encoder of
the decoded ASDU, wherever it has room. -/
theorem encode_decode {n : Nat} (decoded : decode settings octets.length octets = .ok (aSdu, []))
    (given : aSdu.causeOfTransmission.isSome) (numbers : aSdu.HasNumbers)
    (handled : ∀ id, aSdu.aSduType ≠ .RESERVED id) (kept : aSdu.KeepsQualifier)
    (buffer : Vector Octet n) (i : Nat) (fits : i + octets.length ≤ n) :
    aSdu.encode settings buffer i = .ok (overwrite buffer i octets, octets.length) := by
  obtain ⟨bs, rfl, read⟩ := readFrom_of_decode decoded
  rw [List.append_nil] at fits ⊢
  have spelled := read.wire given numbers handled kept
  have laid := (aSdu.lays_encode settings (read.encodable given handled)).fits buffer i
  rw [spelled] at laid
  exact laid fits

def sampleCounters : List Octet :=
  [0x0f, 0x82, 0xc3, 0x07, 0xff, 0xff, 0x03, 0x02, 0x01, 0x78, 0x56, 0x34, 0x92, 0xb1, 0x00, 0x00,
    0x00, 0x00, 0x1f]

theorem encode_decode_sample :
    ∃ aSdu, decode {} 19 sampleCounters = .ok (aSdu, []) ∧
      aSdu.encode {} (Vector.replicate 255 0) 6 =
        .ok (overwrite (Vector.replicate 255 0) 6 sampleCounters, 19) :=
  ⟨_, rfl, encode_decode (show decode {} sampleCounters.length sampleCounters = .ok (_, []) from rfl)
    rfl (by decide) (fun _ => by simp) (.inr (.inr ⟨_, rfl⟩)) _ 6 (by decide)⟩

end ASdu

end J60870
