import J60870.StructureQualifier
import J60870.Transmission

/-! Whether the count an ASDU has survives the seven bits it is sent in. The encoder does
not check it: only a buffer that is too short for the contents keeps larger counts away. -/

namespace J60870

open Lib

namespace ASdu

/-- The octets count what the ASDU holds: behind the type stand its SQ bit and the count,
and they are decoded to as many objects, or sets. -/
def CountedBy (settings : ConnectionSettings) (aSdu : ASdu) (count : Nat) (octets : List Octet) : Prop :=
  ∃ typeCode qualifier rest decoded, octets = typeCode :: qualifier :: rest ∧
    sequenceBit qualifier = aSdu.isSequenceOfElements ∧ countOf qualifier = count ∧
    decode settings octets.length octets = .ok (decoded, []) ∧ decoded.HonoursQualifier qualifier

/-- The encoder throws, or the octets it has laid down count what the ASDU holds. -/
def KeepsCount {n : Nat} (settings : ConnectionSettings) (aSdu : ASdu) (count : Nat)
    (buffer : Vector Octet n) (i : Nat) : Prop :=
  ∀ after length, aSdu.encode settings buffer i = .ok (after, length) →
    aSdu.CountedBy settings count (stretch after i length)

variable {settings : ConnectionSettings} {aSdu : ASdu} {layout : SetLayout}
  {objects : List InformationObject} {count : Nat}

/-- The octet the encoder computes has room for the count, or spoils the SQ bit or the
count itself. -/
theorem qualifier_keeps_iff (length : aSdu.sequenceLength = BitVec.ofNat 32 count) :
    sequenceBit aSdu.qualifier = aSdu.isSequenceOfElements ∧ countOf aSdu.qualifier = count ↔
      count ≤ 127 := by
  constructor
  · rintro ⟨_, rfl⟩
    exact Nat.le_of_lt_succ (countOf_lt _)
  · intro few
    have value : aSdu.sequenceLength.toNat = count := by
      rw [length, BitVec.toNat_ofNat]
      omega
    obtain ⟨sequence, read⟩ := aSdu.qualifier_read (by omega)
    exact ⟨sequence, by rw [countOf, read, value]⟩

/-- What is delivered has as many objects, or sets, as were sent. -/
theorem Shape.honours (shape : aSdu.Shape layout objects count) (few : count ≤ 127) :
    (aSdu.delivered settings).HonoursQualifier aSdu.qualifier := by
  obtain ⟨sequence, counts⟩ := (qualifier_keeps_iff shape.length).mpr few
  have number := shape.number
  refine ⟨?_, objects.map (InformationObject.delivered settings.ioaFieldLength), ?_, ?_⟩
  · rw [counts]
    change aSdu.sequenceLength.toNat = count
    rw [shape.length, BitVec.toNat_ofNat]
    omega
  · rw [delivered, shape.contents.1]
    rfl
  · rw [sequence, counts]
    cases bit : aSdu.isSequenceOfElements with
    | false =>
      rw [bit, if_neg Bool.false_ne_true] at number
      rw [if_neg Bool.false_ne_true, List.length_map, number]
    | true =>
      rw [bit, if_pos rfl] at number
      obtain ⟨object, rfl⟩ := List.length_eq_one_iff.mp number
      have sets := shape.counted bit object (List.mem_singleton_self object)
      rw [if_pos rfl]
      exact ⟨_, rfl, by rw [InformationObject.delivered, List.length_map, sets]⟩

theorem Shape.counted_iff (shape : aSdu.Shape layout objects count)
    (given : aSdu.causeOfTransmission.isSome) :
    aSdu.CountedBy settings count (aSdu.wire settings) ↔ count ≤ 127 := by
  constructor
  · rintro ⟨typeCode, qualifier, rest, decoded, spelled, sequence, counts, _⟩
    obtain rfl : aSdu.qualifier = qualifier := (List.cons.inj (List.cons.inj spelled).2).1
    exact (qualifier_keeps_iff shape.length).mp ⟨sequence, counts⟩
  · intro few
    obtain ⟨sequence, counts⟩ := (qualifier_keeps_iff shape.length).mpr few
    have read := shape.yields_decode settings given few (aSdu.wire settings).length []
    rw [List.append_nil] at read
    exact ⟨_, _, _, _, rfl, sequence, counts, read, shape.honours few⟩

def FitsAt (settings : ConnectionSettings) (aSdu : ASdu) (i n : Nat) : Prop :=
  aSdu.causeOfTransmission.isSome ∧ i + (aSdu.wire settings).length ≤ n

instance {i n : Nat} : Decidable (aSdu.FitsAt settings i n) := inferInstanceAs (Decidable (_ ∧ _))

theorem Shape.encode_throws {n : Nat} (shape : aSdu.Shape layout objects count) {i : Nat}
    (unfit : ¬ aSdu.FitsAt settings i n) (buffer : Vector Octet n) :
    ∃ e, aSdu.encode settings buffer i = .error e := by
  by_cases given : aSdu.causeOfTransmission.isSome
  · have full : n < i + (aSdu.wire settings).length :=
      Nat.lt_of_not_le fun fits => unfit ⟨given, fits⟩
    by_cases start : i ≤ n
    · exact (aSdu.lays_encode settings (shape.encodable given)).overflows buffer i start full
    · refine ⟨.arrayIndexOutOfBoundsException, ?_⟩
      rw [encode, Writer.andThen_apply, storeOctet, store_of_le _ buffer i _ (by omega)]
      rfl
  · exact aSdu.refuses_encode settings (fun encodable => given encodable.1) buffer i

theorem Shape.keepsCount_iff {n : Nat} (shape : aSdu.Shape layout objects count)
    (buffer : Vector Octet n) (i : Nat) :
    aSdu.KeepsCount settings count buffer i ↔ count ≤ 127 ∨ ¬ aSdu.FitsAt settings i n := by
  by_cases fits : aSdu.FitsAt settings i n
  · have laid := (aSdu.lays_encode settings (shape.encodable fits.1)).fits buffer i fits.2
    have counted : aSdu.CountedBy settings count (aSdu.wire settings) ↔ count ≤ 127 :=
      shape.counted_iff fits.1
    constructor
    · intro kept
      have same := kept _ _ laid
      rw [stretch_overwrite buffer i _ fits.2] at same
      exact .inl (counted.mp same)
    · rintro (few | unfit) after length encoded
      · rw [laid] at encoded
        obtain ⟨rfl, rfl⟩ := Prod.mk.inj (Except.ok.inj encoded)
        rw [stretch_overwrite buffer i _ fits.2]
        exact counted.mpr few
      · exact absurd fits unfit
  · refine iff_of_true (fun after length encoded => ?_) (.inr fits)
    obtain ⟨e, failed⟩ := shape.encode_throws fits buffer
    rw [failed] at encoded
    cases encoded

end ASdu

namespace APdu

/-- The encoder throws, or the frame it has laid down counts what the ASDU holds. -/
def KeepsCount (settings : ConnectionSettings) (sendSeqNum receiveSeqNum : Nat) (aSdu : ASdu)
    (count : Nat) (buffer : Vector Octet 255) : Prop :=
  ∀ frame, (iFormat sendSeqNum receiveSeqNum aSdu).written settings buffer = .ok frame →
    ∃ qualifier decoded, frame[7]? = some qualifier ∧
      sequenceBit qualifier = aSdu.isSequenceOfElements ∧ countOf qualifier = count ∧
      decode settings frame = .ok (iFormat sendSeqNum receiveSeqNum decoded, []) ∧
      decoded.HonoursQualifier qualifier

variable {settings : ConnectionSettings} {aSdu : ASdu} {layout : SetLayout}
  {objects : List InformationObject} {count sendSeqNum receiveSeqNum : Nat}

theorem keepsCount_iff (shape : aSdu.Shape layout objects count) (send : sendSeqNum < 2 ^ 15)
    (receive : receiveSeqNum < 2 ^ 15) (buffer : Vector Octet 255) :
    KeepsCount settings sendSeqNum receiveSeqNum aSdu count buffer ↔
      count ≤ 127 ∨ ¬ aSdu.FitsAt settings 6 255 := by
  by_cases fits : aSdu.FitsAt settings 6 255
  · have size : (iFormatWire settings sendSeqNum receiveSeqNum aSdu).length =
        6 + (aSdu.wire settings).length := frameWire_length _ _ rfl
    have sent := written_iFormat sendSeqNum receiveSeqNum aSdu buffer (shape.encodable fits.1)
      (size ▸ fits.2)
    have place : (iFormatWire settings sendSeqNum receiveSeqNum aSdu)[7]? = some aSdu.qualifier := rfl
    constructor
    · intro kept
      obtain ⟨qualifier, decoded, found, sequence, counts, _⟩ := kept _ sent
      obtain rfl : aSdu.qualifier = qualifier := Option.some.inj (place.symm.trans found)
      exact .inl ((ASdu.qualifier_keeps_iff shape.length).mp ⟨sequence, counts⟩)
    · rintro (few | unfit) frame written
      · obtain rfl := Except.ok.inj (sent.symm.trans written)
        obtain ⟨sequence, counts⟩ := (ASdu.qualifier_keeps_iff shape.length).mpr few
        have read := yields_iFormatWire sendSeqNum receiveSeqNum aSdu _ send receive (size ▸ fits.2)
          (shape.yields_decode settings fits.1 few _) []
        rw [List.append_nil] at read
        exact ⟨_, _, place, sequence, counts, read, shape.honours few⟩
      · exact absurd fits unfit
  · refine iff_of_true (fun frame written => ?_) (.inr fits)
    obtain ⟨e, failed⟩ := encode_iFormat_throws settings sendSeqNum receiveSeqNum aSdu buffer
      (by decide) fun ok => fits ⟨ok.1.1, ok.2⟩
    rw [APdu.written, failed] at written
    cases written

end APdu

/-- For an ASDU in the shape of its type, both encoders keep the count or throw exactly if
there are at most 127 objects, or sets, or the octets do not fit. -/
theorem counts_kept_iff (settings : ConnectionSettings) (aSdu : ASdu) (layout : SetLayout)
    (objects : List InformationObject) (count : Nat) (shape : aSdu.Shape layout objects count) :
    (∀ (n : Nat) (buffer : Vector Octet n) (i : Nat),
      aSdu.KeepsCount settings count buffer i ↔ count ≤ 127 ∨ ¬ aSdu.FitsAt settings i n) ∧
    ∀ (sendSeqNum receiveSeqNum : Nat) (buffer : Vector Octet 255), sendSeqNum < 2 ^ 15 →
      receiveSeqNum < 2 ^ 15 →
      (APdu.KeepsCount settings sendSeqNum receiveSeqNum aSdu count buffer ↔
        count ≤ 127 ∨ ¬ aSdu.FitsAt settings 6 255) :=
  ⟨fun _ buffer i => shape.keepsCount_iff buffer i,
    fun _ _ buffer send receive => APdu.keepsCount_iff shape send receive buffer⟩

def sampleSinglePoints (count : Nat) : ASdu where
  aSduType := .M_SP_NA_1
  isSequenceOfElements := true
  causeOfTransmission := some .spontaneous
  test := false
  negativeConfirm := false
  originatorAddress := 0
  commonAddress := 1
  informationObjects := some [⟨1, List.replicate count [.ieSinglePointWithQuality 1]⟩]
  privateInformation := none
  sequenceLength := BitVec.ofNat 32 count

private theorem sampleSinglePoints_shape (count : Nat) :
    (sampleSinglePoints count).Shape (.looped [.ieSinglePointWithQuality])
      [⟨1, List.replicate count [.ieSinglePointWithQuality 1]⟩] count where
  found := rfl
  contents := ⟨rfl, rfl⟩
  number := rfl
  sets object member := by
    obtain rfl := List.mem_singleton.mp member
    refine ⟨List.length_replicate, fun row present => ?_⟩
    obtain rfl := List.eq_of_mem_replicate present
    exact ⟨rfl, by decide⟩
  counted _ object member := by
    obtain rfl := List.mem_singleton.mp member
    exact List.length_replicate
  length := rfl

theorem counts_kept_iff_sample :
    APdu.KeepsCount {} 0 0 (sampleSinglePoints 127) 127 (Vector.replicate 255 0) :=
  ((counts_kept_iff {} _ _ _ 127 (sampleSinglePoints_shape 127)).2 0 0 _ (by decide) (by decide)).mpr
    (.inl (Nat.le_refl 127))

/-- 128 single points in a sequence fit into a frame, which says that there are none. -/
theorem not_counts_kept :
    ¬ ∀ (settings : ConnectionSettings) (aSdu : ASdu) (layout : SetLayout)
      (objects : List InformationObject) (count sendSeqNum receiveSeqNum : Nat)
      (buffer : Vector Octet 255), aSdu.Shape layout objects count → sendSeqNum < 2 ^ 15 →
      receiveSeqNum < 2 ^ 15 → APdu.KeepsCount settings sendSeqNum receiveSeqNum aSdu count buffer := by
  intro kept
  have shape := sampleSinglePoints_shape 128
  have counted := kept {} _ _ _ 128 0 0 (Vector.replicate 255 0) shape (by decide) (by decide)
  rcases (APdu.keepsCount_iff shape (by decide) (by decide) _).mp counted with few | unfit
  · exact absurd few (by decide)
  · exact unfit (by decide +kernel)

end J60870
