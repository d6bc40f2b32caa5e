import J60870.Reencoding

namespace J60870

open Lib

/-- The case reads as many sets as are counted. -/
def SetLayout.Reads (count : Nat) : SetLayout → Prop
  | .looped _ => True
  | .single _ => count = 1
  | .empty => count = 0

theorem SetLayout.setCount_eq_iff (count : Nat) (layout : SetLayout) :
    layout.setCount count = count ↔ layout.Reads count := by
  cases layout with
  | looped set => exact iff_of_true rfl trivial
  | single set => exact eq_comm
  | empty => exact eq_comm

namespace ASdu

/-- As many information objects as the qualifier counts, or one with as many element
sets, and `getSequenceLength()` is the count. -/
def HonoursQualifier (aSdu : ASdu) (qualifier : Octet) : Prop :=
  aSdu.sequenceLength.toNat = countOf qualifier ∧
  ∃ objects, aSdu.informationObjects = some objects ∧
    if sequenceBit qualifier then
      ∃ object, objects = [object] ∧ object.informationElements.length = countOf qualifier
    else objects.length = countOf qualifier

/-- There is no sequence of elements, or the case of the type reads one of this length. -/
def QualifierMet (typeCode qualifier : Octet) : Prop :=
  sequenceBit qualifier = false ∨
  ∃ type layout, ASduType.typeFor typeCode.toNat = some type ∧ layoutOf type = some layout ∧
    layout.Reads (countOf qualifier)

variable {settings : ConnectionSettings} {typeCode qualifier causeCode : Octet} {bs : List Octet}
  {aSdu : ASdu}

private theorem toNat_countOf (qualifier : Octet) :
    (BitVec.ofNat 32 (countOf qualifier)).toNat = countOf qualifier := by
  have small := countOf_lt qualifier
  rw [BitVec.toNat_ofNat]
  omega

theorem ContentsRead.honours_iff (header : aSdu.HeaderRead typeCode qualifier causeCode)
    (contents : aSdu.ContentsRead settings qualifier bs)
    (noDecoder : settings.reservedASduTypeDecoder = none) (standard : typeCode.toNat < 128) :
    aSdu.HonoursQualifier qualifier ↔ QualifierMet typeCode qualifier := by
  cases contents with
  | objects layout objects found contents rows number length =>
    cases sequence : sequenceBit qualifier with
    | false =>
      simp only [sequence, Bool.false_eq_true, if_false] at number length
      refine iff_of_true ⟨by rw [length, toNat_countOf], objects, contents, ?_⟩ (.inl sequence)
      rwa [sequence]
    | true =>
      simp only [sequence, if_true] at number length rows
      obtain ⟨object, rfl⟩ := List.length_eq_one_iff.mp number
      have sets : object.informationElements.length = layout.setCount (countOf qualifier) :=
        rows.forall_mem (fun _ _ spelled => spelled.count) object (List.mem_singleton_self object)
      constructor
      · rintro ⟨_, others, same, held⟩
        rw [sequence, if_pos rfl] at held
        obtain ⟨other, rfl, counted⟩ := held
        obtain rfl : object = other := List.singleton_inj.mp (Option.some.inj (contents.symm.trans same))
        exact .inr ⟨_, layout, header.type, found,
          (layout.setCount_eq_iff _).mp (sets.symm.trans counted)⟩
      · rintro (single | ⟨type, other, known, laid, reads⟩)
        · rw [sequence] at single
          cases single
        · obtain rfl : aSdu.aSduType = type := Option.some.inj (header.type.symm.trans known)
          obtain rfl : layout = other := Option.some.inj (found.symm.trans laid)
          have counted := (layout.setCount_eq_iff _).mpr reads
          refine ⟨by rw [length, counted, toNat_countOf], [object], contents, ?_⟩
          rw [sequence, if_pos rfl]
          exact ⟨object, rfl, sets.trans counted⟩
  | reserved unknown low refused =>
    obtain ⟨single, none, contents, length⟩ := refused noDecoder
    refine iff_of_true ⟨by rw [length, none]; rfl, [], contents, ?_⟩ (.inl single)
    rw [single, none]
    rfl
  | privateInformation high contents length =>
    rw [ASduType.getId_of_typeFor header.type] at high
    omega

/-- Without a decoder for reserved types, an ASDU of a standardized type that is decoded
honours its qualifier exactly if its type reads sequences of that length; every other octet
string is rejected with a checked exception. -/
theorem honours_qualifier_iff (settings : ConnectionSettings)
    (noDecoder : settings.reservedASduTypeDecoder = none) (aSduLength : Int)
    (typeCode qualifier : Octet) (octets : List Octet) (standard : typeCode.toNat < 128) :
    match decode settings aSduLength (typeCode :: qualifier :: octets) with
    | .ok (aSdu, _) => aSdu.HonoursQualifier qualifier ↔ QualifierMet typeCode qualifier
    | .error e => e.Checked := by
  have contract := ensures_decode settings aSduLength typeCode
  cases outcome : decode settings aSduLength (typeCode :: qualifier :: octets) with
  | error e => exact contract.of_error outcome noDecoder standard
  | ok returned =>
    obtain ⟨aSdu, rest⟩ := returned
    obtain ⟨bs, split, read⟩ := contract.of_ok outcome
    obtain ⟨_, other, causeCode, bs, _, header, contents⟩ := read
    obtain rfl : qualifier = other := (List.cons.inj split).1
    exact contents.honours_iff header noDecoder standard

/-- Two single points in a sequence. -/
theorem honours_qualifier_iff_sample :
    ∃ aSdu, decode {} 11 [0x01, 0x82, 0x03, 0x00, 0x01, 0x00, 0x05, 0x00, 0x00, 0x00, 0x01] =
      .ok (aSdu, []) ∧ aSdu.HonoursQualifier 0x82 :=
  have met : QualifierMet 0x01 0x82 := .inr ⟨.M_SP_NA_1, _, rfl, rfl, trivial⟩
  ⟨_, rfl, (show _ ↔ _ from honours_qualifier_iff {} rfl 11 0x01 0x82
    [0x03, 0x00, 0x01, 0x00, 0x05, 0x00, 0x00, 0x00, 0x01] (by decide)).mpr met⟩

/-- Two single commands in a sequence are decoded to one, and the other is left in the stream. -/
theorem not_honours_qualifier :
    ¬ ∀ (settings : ConnectionSettings) (aSduLength : Int) (typeCode qualifier : Octet)
      (octets rest : List Octet) (aSdu : ASdu), settings.reservedASduTypeDecoder = none →
      typeCode.toNat < 128 →
      decode settings aSduLength (typeCode :: qualifier :: octets) = .ok (aSdu, rest) →
      aSdu.HonoursQualifier qualifier := by
  intro honours
  have honoured := honours {} 11 0x2d 0x82 [0x06, 0x00, 0x01, 0x00, 0x05, 0x00, 0x00, 0x01, 0x00]
    [0x00] _ rfl (by decide) rfl
  exact absurd honoured.1 (by decide)

end ASdu

end J60870
