import J60870.Ie.Wire

namespace J60870

open Lib

def InformationElement.getClass : InformationElement → ElementClass
  | .ieAckFileOrSectionQualifier .. => .ieAckFileOrSectionQualifier
  | .ieBinaryCounterReading .. => .ieBinaryCounterReading
  | .ieBinaryStateInformation .. => .ieBinaryStateInformation
  | .ieCauseOfInitialization .. => .ieCauseOfInitialization
  | .ieChecksum .. => .ieChecksum
  | .ieDoubleCommand .. => .ieDoubleCommand
  | .ieDoublePointWithQuality .. => .ieDoublePointWithQuality
  | .ieFileReadyQualifier .. => .ieFileReadyQualifier
  | .ieFileSegment .. => .ieFileSegment
  | .ieFixedTestBitPattern => .ieFixedTestBitPattern
  | .ieLastSectionOrSegmentQualifier .. => .ieLastSectionOrSegmentQualifier
  | .ieLengthOfFileOrSection .. => .ieLengthOfFileOrSection
  | .ieNameOfFile .. => .ieNameOfFile
  | .ieNameOfSection .. => .ieNameOfSection
  | .ieNormalizedValue .. => .ieNormalizedValue
  | .ieProtectionOutputCircuitInformation .. => .ieProtectionOutputCircuitInformation
  | .ieProtectionQuality .. => .ieProtectionQuality
  | .ieProtectionStartEvent .. => .ieProtectionStartEvent
  | .ieQualifierOfCounterInterrogation .. => .ieQualifierOfCounterInterrogation
  | .ieQualifierOfInterrogation .. => .ieQualifierOfInterrogation
  | .ieQualifierOfParameterActivation .. => .ieQualifierOfParameterActivation
  | .ieQualifierOfParameterOfMeasuredValues .. => .ieQualifierOfParameterOfMeasuredValues
  | .ieQualifierOfResetProcessCommand .. => .ieQualifierOfResetProcessCommand
  | .ieQualifierOfSetPointCommand .. => .ieQualifierOfSetPointCommand
  | .ieQuality .. => .ieQuality
  | .ieRegulatingStepCommand .. => .ieRegulatingStepCommand
  | .ieScaledValue .. => .ieScaledValue
  | .ieSectionReadyQualifier .. => .ieSectionReadyQualifier
  | .ieSelectAndCallQualifier .. => .ieSelectAndCallQualifier
  | .ieShortFloat .. => .ieShortFloat
  | .ieSingleCommand .. => .ieSingleCommand
  | .ieSinglePointWithQuality .. => .ieSinglePointWithQuality
  | .ieSingleProtectionEvent .. => .ieSingleProtectionEvent
  | .ieStatusAndStatusChanges .. => .ieStatusAndStatusChanges
  | .ieStatusOfFile .. => .ieStatusOfFile
  | .ieTestSequenceCounter .. => .ieTestSequenceCounter
  | .ieTime16 .. => .ieTime16
  | .ieTime24 .. => .ieTime24
  | .ieTime56 .. => .ieTime56
  | .ieValueWithTransientState .. => .ieValueWithTransientState

/-- Every field is within the width the element is encoded with, and a short
float is not NaN. -/
def InformationElement.InRange : InformationElement → Prop
  | .ieAckFileOrSectionQualifier action notice | .ieSelectAndCallQualifier action notice =>
    action.toNat < 2 ^ 4 ∧ notice.toNat < 2 ^ 4
  | .ieBinaryCounterReading _ sequenceNumber _ => sequenceNumber.toNat < 2 ^ 5
  | .ieBinaryStateInformation _ | .ieStatusAndStatusChanges _ | .ieFixedTestBitPattern
  | .ieTime16 _ | .ieTime24 _ | .ieTime56 _ => True
  | .ieCauseOfInitialization value _ | .ieFileReadyQualifier value _
  | .ieQualifierOfSetPointCommand value _ | .ieSectionReadyQualifier value _ => value.toNat < 2 ^ 7
  | .ieChecksum value | .ieDoubleCommand value | .ieDoublePointWithQuality value
  | .ieLastSectionOrSegmentQualifier value | .ieNameOfSection value
  | .ieProtectionOutputCircuitInformation value | .ieProtectionQuality value
  | .ieProtectionStartEvent value | .ieQualifierOfInterrogation value
  | .ieQualifierOfParameterActivation value | .ieQualifierOfResetProcessCommand value
  | .ieQuality value | .ieRegulatingStepCommand value | .ieSingleCommand value
  | .ieSinglePointWithQuality value | .ieSingleProtectionEvent value => value.toNat < 2 ^ 8
  | .ieFileSegment segment offset length =>
    InsideSegment segment offset length ∧ length.toNat < 2 ^ 8
  | .ieLengthOfFileOrSection value => value.toNat < 2 ^ 24
  | .ieNameOfFile value | .ieTestSequenceCounter value => value.toNat < 2 ^ 16
  | .ieNormalizedValue value | .ieScaledValue value => -32768 ≤ value.toInt ∧ value.toInt ≤ 32767
  | .ieQualifierOfCounterInterrogation request freeze => request.toNat < 2 ^ 6 ∧ freeze.toNat < 2 ^ 2
  | .ieQualifierOfParameterOfMeasuredValues kindOfParameter _ _ => kindOfParameter.toNat < 2 ^ 6
  | .ieShortFloat value => ¬ value.IsNaN
  | .ieStatusOfFile status _ => status.toNat < 2 ^ 5
  | .ieValueWithTransientState value _ => -64 ≤ value.toInt ∧ value.toInt ≤ 63

instance : DecidablePred InformationElement.InRange := fun e => by
  apply InformationElement.casesOn (motive := fun e => Decidable e.InRange) e <;> intros <;>
    dsimp only [InformationElement.InRange, InsideSegment] <;> infer_instance

/-- The element as the other side holds it: of a file segment the stretch that
was sent, of every other element the element itself. -/
def InformationElement.received : InformationElement → InformationElement
  | .ieFileSegment segment offset length => .ieFileSegment (window segment offset length) 0 length
  | e => e

theorem toInt_toByte (v : JInt) (small : v.toNat < 2 ^ 8) : toInt (toByte v) = v :=
  low_of_lt v 8 small

private theorem yields_octet {f : JInt → InformationElement} {e : InformationElement} (b : Octet)
    (same : f (toInt b) = e) :
    Reader.Yields (do return f (← readUnsignedByte) : InputStream InformationElement) [b] e := by
  rw [← same]
  exact (yields_readUnsignedByte b).bind (Reader.Yields.pure _)

theorem or_reverse (a b c d : JInt) : d ||| c ||| b ||| a = a ||| b ||| c ||| d := by
  ac_rfl

private theorem yields_readInt (v : JInt) : Reader.Yields readInt (octets v 4).reverse v := by
  have gathered : (((0#32 ||| (toInt (octet v 0) <<< 0)) ||| (toInt (octet v 1) <<< 8)) |||
      (toInt (octet v 2) <<< 16)) ||| (toInt (octet v 3) <<< 24) = v :=
    gather_octets v 4 v.isLt
  have assembled : (toInt (octet v 3) <<< 24) ||| (toInt (octet v 2) <<< 16) |||
      (toInt (octet v 1) <<< 8) ||| toInt (octet v 0) = v := by
    rw [BitVec.shiftLeft_zero, BitVec.zero_or] at gathered
    exact (or_reverse ..).trans gathered
  intro rest
  refine Eq.trans ?_ (congrArg (fun v => Except.ok (v, rest)) assembled)
  rfl

private theorem yields_readNormalized (v : JInt) (least : -32768 ≤ v.toInt) (most : v.toInt ≤ 32767) :
    Reader.Yields readNormalized (octets v 2) v := by
  obtain ⟨q, rfl⟩ := exists_signExtend v 16 (by decide) (by omega) (by omega)
  have assembled : toInt (octet (q.signExtend 32) 0) |||
      ((octet (q.signExtend 32) 1).signExtend 32 <<< 8) = q.signExtend 32 := by
    apply BitVec.eq_of_getLsbD_eq
    intro i bound
    simp only [toInt, octet, BitVec.getLsbD_or, BitVec.getLsbD_setWidth, BitVec.getLsbD_shiftLeft,
      BitVec.getLsbD_signExtend, BitVec.getLsbD_extractLsb', BitVec.msb_eq_getLsbD_last, bound]
    by_cases below : i < 8
    · simp [below, bound, show i < 16 by omega]
    · by_cases inside : i < 16
      · have place : 8 + (i - 8) = i := by omega
        simp [below, inside, place, show i - 8 < 8 by omega, show i - 8 < 32 by omega, bound]
      · simp [below, inside, show ¬ i - 8 < 8 by omega, show i - 8 < 32 by omega]
  intro rest
  exact congrArg (fun v => Except.ok (v, rest)) assembled

/-- An octet with three flags above five bits. -/
private def setFlags (first second third : Bool) (v : Octet) : Octet :=
  let v := if first then v ||| 0x20 else v
  let v := if second then v ||| 0x40 else v
  if third then v ||| 0x80 else v

private theorem setFlags_read : ∀ (q : BitVec 5) (first second third : Bool),
    let b := toInt (setFlags first second third (toByte (q.setWidth 32)))
    b &&& 0x1f = q.setWidth 32 ∧ hasMask b 0x20#32 = first ∧ hasMask b 0x40#32 = second ∧
      hasMask b 0x80#32 = third := by
  decide +kernel

private theorem binaryCounterReading_flags (flags : Finset BinaryCounterReadingFlag) (v : Octet) :
    orFlags BinaryCounterReadingFlag.values BinaryCounterReadingFlag.mask flags v =
      setFlags (.carry ∈ flags) (.counterAdjusted ∈ flags) (.invalid ∈ flags) v := by
  simp only [orFlags, BinaryCounterReadingFlag.values, List.foldl_cons, List.foldl_nil, setFlags,
    decide_eq_true_eq]
  rfl

private theorem statusOfFile_flags (flags : Finset StatusOfFileFlag) (status : JInt) :
    withFlags status (masksOf StatusOfFileFlag.values StatusOfFileFlag.mask flags) =
      setFlags (.lastFileOfDirectory ∈ flags) (.nameDefinesDirectory ∈ flags)
        (.transferIsActive ∈ flags) (toByte status) := by
  by_cases first : StatusOfFileFlag.lastFileOfDirectory ∈ flags <;>
  by_cases second : StatusOfFileFlag.nameDefinesDirectory ∈ flags <;>
  by_cases third : StatusOfFileFlag.transferIsActive ∈ flags <;>
  simp [withFlags, masksOf, StatusOfFileFlag.values, setFlags, first, second, third,
    StatusOfFileFlag.mask, toByte]

private theorem binaryCounterReading_flagsFor (flags : Finset BinaryCounterReadingFlag) (b : JInt)
    (carry : hasMask b 0x20#32 = decide (.carry ∈ flags))
    (adjusted : hasMask b 0x40#32 = decide (.counterAdjusted ∈ flags))
    (invalid : hasMask b 0x80#32 = decide (.invalid ∈ flags)) :
    flagsFor BinaryCounterReadingFlag.values BinaryCounterReadingFlag.mask b = flags := by
  apply Finset.ext
  intro flag
  cases flag <;>
    simp [flagsFor, BinaryCounterReadingFlag.values, BinaryCounterReadingFlag.mask, carry, adjusted,
      invalid]

private theorem statusOfFile_flagsFor (flags : Finset StatusOfFileFlag) (b : JInt)
    (last : hasMask b 0x20#32 = decide (.lastFileOfDirectory ∈ flags))
    (directory : hasMask b 0x40#32 = decide (.nameDefinesDirectory ∈ flags))
    (active : hasMask b 0x80#32 = decide (.transferIsActive ∈ flags)) :
    flagsFor StatusOfFileFlag.values StatusOfFileFlag.mask b = flags := by
  apply Finset.ext
  intro flag
  cases flag <;>
    simp [flagsFor, StatusOfFileFlag.values, StatusOfFileFlag.mask, last, directory, active]

private theorem nibbles_read : ∀ action notice : BitVec 4,
    let b := toInt (toByte (action.setWidth 32 ||| (notice.setWidth 32 <<< 4)))
    b &&& 0x0f = action.setWidth 32 ∧ b.sshiftRight 4 &&& 0x0f = notice.setWidth 32 := by
  decide +kernel

private theorem request_read : ∀ (request : BitVec 6) (freeze : BitVec 2),
    let b := toInt (toByte (request.setWidth 32 ||| (freeze.setWidth 32 <<< 6)))
    b &&& 0x3f = request.setWidth 32 ∧ b.sshiftRight 6 &&& 0x03 = freeze.setWidth 32 := by
  decide +kernel

private theorem flagged_read : ∀ (value : BitVec 7) (flag : Bool),
    let b := toInt (withFlags (value.setWidth 32) (if flag then [0x80] else []))
    b &&& 0x7f = value.setWidth 32 ∧ hasMask b 0x80 = flag := by
  decide +kernel

private theorem initialization_read : ∀ (value : BitVec 7) (flag : Bool),
    let b := toInt (if flag then toByte (value.setWidth 32 ||| 0x80) else toByte (value.setWidth 32))
    b &&& 0x7f = value.setWidth 32 ∧ hasMask b 0x80 = flag := by
  decide +kernel

private theorem parameter_read : ∀ (kind : BitVec 6) (change notInOperation : Bool),
    let b := toInt (withFlags (kind.setWidth 32)
      ((if change then [0x40] else []) ++ (if notInOperation then [0x80] else [])))
    b &&& 0x3f = kind.setWidth 32 ∧ hasMask b 0x40 = change ∧ hasMask b 0x80 = notInOperation := by
  decide +kernel

private theorem transient_read : ∀ (value : BitVec 7) (flag : Bool),
    let b := toInt (if flag then toByte (value.signExtend 32 ||| 0x80)
      else toByte (value.signExtend 32 &&& 0x7f))
    (if hasMask b 0x40 then b ||| 0xffffff80 else b &&& 0x3f) = value.signExtend 32 ∧
      hasMask b 0x80 = flag := by
  decide +kernel

private theorem yields_fileSegment {segment : List Octet} {offset length : JInt}
    (inside : InsideSegment segment offset length) (small : length.toNat < 2 ^ 8) :
    Reader.Yields ElementClass.ieFileSegment.decode (toByte length :: window segment offset length)
      (.ieFileSegment (window segment offset length) 0 length) := by
  have size : (window segment offset length).length = length.toNat := by
    rw [window_length inside, BitVec.toInt_eq_toNat_of_lt (by omega)]
    rfl
  have body := (Reader.Yields.word endOfStream (window segment offset length)).map
    fun segment => InformationElement.ieFileSegment segment 0 length
  rw [size] at body
  intro rest
  have head := yields_readUnsignedByte (toByte length) (window segment offset length ++ rest)
  rw [toInt_toByte length small] at head
  change (readUnsignedByte >>= fun length => do
    return InformationElement.ieFileSegment (← readFully length.toNat) 0 length) _ = _
  rw [List.cons_append, Reader.bind_apply]
  simp only [List.cons_append, List.nil_append] at head
  rw [head]
  exact body rest

private theorem yields_testSequenceCounter (v : JInt) (small : v.toNat < 2 ^ 16) :
    Reader.Yields ElementClass.ieTestSequenceCounter.decode (octets v 2)
      (.ieTestSequenceCounter v) := by
  have inside : ¬ (v.toInt < 0 ∨ 65535 < v.toInt) := by
    rw [BitVec.toInt_eq_toNat_of_lt (by omega)]
    omega
  intro rest
  simp only [ElementClass.decode]
  rw [Reader.bind_apply, yields_readOctets v 2 small rest]
  simp [inside]

/-- The decoder of its class reads an element back from its octets. -/
theorem InformationElement.yields_decode (e : InformationElement) (fits : e.InRange) :
    Reader.Yields e.getClass.decode e.wire e.received := by
  cases e with
  | ieAckFileOrSectionQualifier action notice =>
    obtain ⟨a, rfl⟩ := exists_setWidth action 4 fits.1
    obtain ⟨b, rfl⟩ := exists_setWidth notice 4 fits.2
    obtain ⟨low, high⟩ := nibbles_read a b
    exact yields_octet _ (by rw [low, high]; rfl)
  | ieSelectAndCallQualifier action notice =>
    obtain ⟨a, rfl⟩ := exists_setWidth action 4 fits.1
    obtain ⟨b, rfl⟩ := exists_setWidth notice 4 fits.2
    obtain ⟨low, high⟩ := nibbles_read a b
    exact yields_octet _ (by rw [low, high]; rfl)
  | ieBinaryCounterReading counterReading sequenceNumber flags =>
    obtain ⟨q, rfl⟩ := exists_setWidth sequenceNumber 5 fits
    have read := yields_readOctets counterReading 4 counterReading.isLt
    obtain ⟨number, carry, adjusted, invalid⟩ := setFlags_read q (.carry ∈ flags)
      (.counterAdjusted ∈ flags) (.invalid ∈ flags)
    refine read.bind (yields_octet _ ?_)
    rw [binaryCounterReading_flags, number, binaryCounterReading_flagsFor flags _ carry adjusted invalid]
    rfl
  | ieStatusOfFile status flags =>
    obtain ⟨q, rfl⟩ := exists_setWidth status 5 fits
    obtain ⟨number, last, directory, active⟩ := setFlags_read q (.lastFileOfDirectory ∈ flags)
      (.nameDefinesDirectory ∈ flags) (.transferIsActive ∈ flags)
    refine yields_octet _ ?_
    rw [statusOfFile_flags, number, statusOfFile_flagsFor flags _ last directory active]
    rfl
  | ieBinaryStateInformation value =>
    exact (yields_readInt value).map InformationElement.ieBinaryStateInformation
  | ieStatusAndStatusChanges value =>
    exact (yields_readInt value).map InformationElement.ieStatusAndStatusChanges
  | ieCauseOfInitialization value flag =>
    obtain ⟨q, rfl⟩ := exists_setWidth value 7 fits
    obtain ⟨low, high⟩ := initialization_read q flag
    exact yields_octet _ (by rw [low, high]; rfl)
  | ieFileReadyQualifier value flag =>
    obtain ⟨q, rfl⟩ := exists_setWidth value 7 fits
    obtain ⟨low, high⟩ := flagged_read q flag
    exact yields_octet _ (by rw [low, high]; rfl)
  | ieSectionReadyQualifier value flag =>
    obtain ⟨q, rfl⟩ := exists_setWidth value 7 fits
    obtain ⟨low, high⟩ := flagged_read q flag
    exact yields_octet _ (by rw [low, high]; rfl)
  | ieQualifierOfSetPointCommand ql select =>
    obtain ⟨q, rfl⟩ := exists_setWidth ql 7 fits
    obtain ⟨low, high⟩ := flagged_read q select
    exact yields_octet _ (by rw [low, high]; rfl)
  | ieQualifierOfParameterOfMeasuredValues kindOfParameter change notInOperation =>
    obtain ⟨q, rfl⟩ := exists_setWidth kindOfParameter 6 fits
    obtain ⟨kind, changed, out⟩ := parameter_read q change notInOperation
    exact yields_octet _ (by rw [kind, changed, out]; rfl)
  | ieQualifierOfCounterInterrogation request freeze =>
    obtain ⟨a, rfl⟩ := exists_setWidth request 6 fits.1
    obtain ⟨b, rfl⟩ := exists_setWidth freeze 2 fits.2
    obtain ⟨low, high⟩ := request_read a b
    exact yields_octet _ (by rw [low, high]; rfl)
  | ieValueWithTransientState value transientState =>
    obtain ⟨q, rfl⟩ := exists_signExtend value 7 (by decide)
      (by have := fits.1; omega) (by have := fits.2; omega)
    obtain ⟨low, high⟩ := transient_read q transientState
    exact yields_octet _ (by rw [low, high]; rfl)
  | ieFileSegment => exact yields_fileSegment fits.1 fits.2
  | ieFixedTestBitPattern => exact fun _ => rfl
  | ieLengthOfFileOrSection value =>
    exact (yields_readOctets value 3 fits).map InformationElement.ieLengthOfFileOrSection
  | ieNameOfFile value =>
    exact (yields_readOctets value 2 fits).map InformationElement.ieNameOfFile
  | ieTestSequenceCounter value => exact yields_testSequenceCounter value fits
  | ieNormalizedValue value =>
    exact (yields_readNormalized value fits.1 fits.2).map InformationElement.ieNormalizedValue
  | ieScaledValue value =>
    exact (yields_readNormalized value fits.1 fits.2).map InformationElement.ieScaledValue
  | ieShortFloat value =>
    have bits : value.floatToIntBits = value.bits := if_neg fits
    have read := (yields_readOctets value.bits 4 value.bits.isLt).map fun v =>
      InformationElement.ieShortFloat ⟨v⟩
    change Reader.Yields _ (octets value.floatToIntBits 4) _
    rw [bits]
    exact read
  | ieTime16 value => exact (Reader.Yields.vector endOfStream value).map InformationElement.ieTime16
  | ieTime24 value => exact (Reader.Yields.vector endOfStream value).map InformationElement.ieTime24
  | ieTime56 value => exact (Reader.Yields.vector endOfStream value).map InformationElement.ieTime56
  | _ value => exact yields_octet _ (congrArg _ (toInt_toByte value fits))

/-- Every field is within the width the element is encoded with, and a short float may be
anything. -/
def InformationElement.InWidth : InformationElement → Prop
  | .ieShortFloat _ => True
  | e => e.InRange

instance : DecidablePred InformationElement.InWidth := fun e => by
  apply InformationElement.casesOn (motive := fun e => Decidable e.InWidth) e <;> intros <;>
    dsimp only [InformationElement.InWidth, InformationElement.InRange, InsideSegment] <;> infer_instance

/-- The element with every NaN as the one that `floatToIntBits` stands for. -/
def InformationElement.canonical : InformationElement → InformationElement
  | .ieShortFloat value => .ieShortFloat ⟨value.floatToIntBits⟩
  | e => e

theorem JFloat.floatToIntBits_floatToIntBits (f : JFloat) :
    (⟨f.floatToIntBits⟩ : JFloat).floatToIntBits = f.floatToIntBits := by
  by_cases nan : f.IsNaN
  · have bits : f.floatToIntBits = 0x7fc00000 := if_pos nan
    rw [bits]
    rfl
  · have bits : f.floatToIntBits = f.bits := if_neg nan
    rw [bits]
    exact bits

theorem InformationElement.canonical_canonical (e : InformationElement) :
    e.canonical.canonical = e.canonical := by
  cases e with
  | ieShortFloat value =>
    exact congrArg (fun v => InformationElement.ieShortFloat ⟨v⟩) value.floatToIntBits_floatToIntBits
  | _ => rfl

/-- What the other side holds of the element, NaN or not. -/
def InformationElement.delivered (e : InformationElement) : InformationElement := e.received.canonical

theorem InformationElement.InRange.inWidth {e : InformationElement} (fits : e.InRange) : e.InWidth := by
  cases e with
  | ieShortFloat value => trivial
  | _ => exact fits

theorem InformationElement.InWidth.encodable {e : InformationElement} (fits : e.InWidth) :
    e.Encodable := by
  cases e with
  | ieFileSegment => exact fits.1
  | _ => trivial

theorem InformationElement.delivered_of_inRange {e : InformationElement} (fits : e.InRange) :
    e.delivered = e.received := by
  cases e with
  | ieShortFloat value =>
    have bits : value.floatToIntBits = value.bits := if_neg fits
    exact congrArg (fun v => InformationElement.ieShortFloat ⟨v⟩) bits
  | _ => rfl

/-- Only a short float and a file segment may arrive as another element. -/
theorem InformationElement.delivered_eq_self {e : InformationElement}
    (notFloat : e.getClass ≠ .ieShortFloat) (notSegment : e.getClass ≠ .ieFileSegment) :
    e.delivered = e := by
  cases e with
  | ieShortFloat => exact absurd rfl notFloat
  | ieFileSegment => exact absurd rfl notSegment
  | _ => rfl

theorem InformationElement.yields_delivered (e : InformationElement) (fits : e.InWidth) :
    Reader.Yields e.getClass.decode e.wire e.delivered := by
  cases e with
  | ieShortFloat value =>
    exact (yields_readOctets value.floatToIntBits 4 value.floatToIntBits.isLt).map fun v =>
      InformationElement.ieShortFloat ⟨v⟩
  | _ => exact InformationElement.yields_decode _ fits

end J60870
