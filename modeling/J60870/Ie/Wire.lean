import J60870.Ie.InformationElement

/-! The octets each element stands for, and that its encoder lays down exactly
these: contiguously, with their number as return value, or not at all. -/

namespace J60870

open Lib

theorem toByte_sshiftRight_eight (v : JInt) : toByte (v.sshiftRight 8) = octet v 1 :=
  toByte_sshiftRight v 1 (by decide)

theorem toByte_sshiftRight_sixteen (v : JInt) : toByte (v.sshiftRight 16) = octet v 2 :=
  toByte_sshiftRight v 2 (by decide)

theorem toByte_sshiftRight_twentyFour (v : JInt) : toByte (v.sshiftRight 24) = octet v 3 :=
  toByte_sshiftRight v 3 (by decide)

theorem toByte_eq_octet (v : JInt) : toByte v = octet v 0 := setWidth_eq_octet v

def withFlags (value : JInt) (masks : List Octet) : Octet :=
  masks.foldl (· ||| ·) (toByte value)

/-- The stretch of an array that `System.arraycopy` copies. -/
def window (segment : List Octet) (offset length : JInt) : List Octet :=
  (segment.drop offset.toInt.toNat).take length.toInt.toNat

/-- The octets an element stands for. -/
def InformationElement.wire : InformationElement → List Octet
  | .ieAckFileOrSectionQualifier action notice => [toByte (action ||| (notice <<< 4))]
  | .ieBinaryCounterReading counterReading sequenceNumber flags =>
    octets counterReading 4 ++
      [orFlags BinaryCounterReadingFlag.values BinaryCounterReadingFlag.mask flags
        (toByte sequenceNumber)]
  | .ieBinaryStateInformation value | .ieStatusAndStatusChanges value => (octets value 4).reverse
  | .ieCauseOfInitialization value initAfterParameterChange =>
    [if initAfterParameterChange then toByte (value ||| 0x80) else toByte value]
  | .ieChecksum value | .ieDoubleCommand value | .ieDoublePointWithQuality value
  | .ieLastSectionOrSegmentQualifier value | .ieNameOfSection value
  | .ieProtectionOutputCircuitInformation value | .ieProtectionQuality value
  | .ieProtectionStartEvent value | .ieQualifierOfInterrogation value
  | .ieQualifierOfParameterActivation value | .ieQualifierOfResetProcessCommand value
  | .ieQuality value | .ieRegulatingStepCommand value | .ieSingleCommand value
  | .ieSinglePointWithQuality value | .ieSingleProtectionEvent value => [toByte value]
  | .ieFileReadyQualifier value flag | .ieQualifierOfSetPointCommand value flag
  | .ieSectionReadyQualifier value flag => [withFlags value (if flag then [0x80] else [])]
  | .ieFileSegment segment offset length => toByte length :: window segment offset length
  | .ieFixedTestBitPattern => [0x55, 0xaa]
  | .ieLengthOfFileOrSection value => octets value 3
  | .ieNameOfFile value | .ieNormalizedValue value | .ieScaledValue value
  | .ieTestSequenceCounter value => octets value 2
  | .ieQualifierOfCounterInterrogation request freeze => [toByte (request ||| (freeze <<< 6))]
  | .ieQualifierOfParameterOfMeasuredValues kindOfParameter change notInOperation =>
    [withFlags kindOfParameter
      ((if change then [0x40] else []) ++ (if notInOperation then [0x80] else []))]
  | .ieSelectAndCallQualifier action notice => [toByte (action ||| (notice <<< 4))]
  | .ieShortFloat value => octets value.floatToIntBits 4
  | .ieStatusOfFile status flags =>
    [withFlags status (masksOf StatusOfFileFlag.values StatusOfFileFlag.mask flags)]
  | .ieTime16 value => value.toList
  | .ieTime24 value => value.toList
  | .ieTime56 value => value.toList
  | .ieValueWithTransientState value transientState =>
    [if transientState then toByte (value ||| 0x80) else toByte (value &&& 0x7f)]

/-- The stretch to be copied lies inside the array. -/
def InsideSegment (segment : List Octet) (offset length : JInt) : Prop :=
  0 ≤ offset.toInt ∧ 0 ≤ length.toInt ∧ offset.toInt + length.toInt ≤ segment.length

/-- Only a file segment can be impossible to encode whatever the buffer. -/
def InformationElement.Encodable : InformationElement → Prop
  | .ieFileSegment segment offset length => InsideSegment segment offset length
  | _ => True

instance : DecidablePred InformationElement.Encodable := fun e => by
  apply InformationElement.casesOn (motive := fun e => Decidable e.Encodable) e <;> intros <;>
    dsimp only [InformationElement.Encodable, InsideSegment] <;> infer_instance

theorem window_length {segment : List Octet} {offset length : JInt}
    (inside : InsideSegment segment offset length) :
    (window segment offset length).length = length.toInt.toNat := by
  obtain ⟨start, size, bound⟩ := inside
  rw [window, List.length_take, List.length_drop]
  omega

section Lays

variable {n : Nat}

theorem lays_storeOctet (b : Octet) : Lays (storeOctet b : Writer JavaException Octet n) [b] := by
  apply Lays.storing .arrayIndexOutOfBoundsException
  intro buffer i
  simp only [storeOctet, storeAll, bind_assoc]
  rfl

theorem lays_storeBigEndian (value : JInt) :
    Lays (storeBigEndian value : Writer JavaException Octet n) (octets value 4).reverse := by
  apply Lays.storing .arrayIndexOutOfBoundsException
  intro buffer i
  simp only [storeBigEndian, toByte_sshiftRight_eight, toByte_sshiftRight_sixteen,
    toByte_sshiftRight_twentyFour, toByte_eq_octet value]
  have listed : (octets value 4).reverse =
      [octet value 3, octet value 2, octet value 1, octet value 0] := rfl
  simp only [listed, storeAll, bind_assoc]
  rfl

theorem lays_storeTwo (value : JInt) :
    Lays (storeTwo value : Writer JavaException Octet n) (octets value 2) := by
  apply Lays.storing .arrayIndexOutOfBoundsException
  intro buffer i
  simp only [storeTwo, toByte_sshiftRight_eight, toByte_eq_octet value]
  have listed : octets value 2 = [octet value 0, octet value 1] := rfl
  simp only [listed, storeAll, bind_assoc]
  rfl

private theorem foldlM_orInto (buffer : Vector Octet n) (i : Nat) (inside : i < n) (b : Octet)
    (masks : List Octet) :
    masks.foldlM (fun buffer mask => orInto buffer i mask) (buffer.setIfInBounds i b) =
      (.ok (buffer.setIfInBounds i (masks.foldl (· ||| ·) b)) : Except JavaException _) := by
  induction masks generalizing b with
  | nil => rfl
  | cons mask masks ih =>
    have stored : (buffer.setIfInBounds i b)[i] = b := Vector.getElem_setIfInBounds_self inside
    have again : (buffer.setIfInBounds i b).setIfInBounds i (b ||| mask) =
        buffer.setIfInBounds i (b ||| mask) := by
      apply Vector.ext
      intro j bound
      by_cases same : i = j <;> simp [same]
    have one : orInto (buffer.setIfInBounds i b) i mask =
        .ok (buffer.setIfInBounds i (b ||| mask)) := by
      rw [orInto, load, dif_pos inside, stored]
      change store _ _ i (b ||| mask) = _
      rw [store_of_lt _ _ i _ inside, again]
    rw [List.foldlM_cons, one]
    exact ih (b ||| mask)

theorem lays_storeWithFlags (value : JInt) (masks : List Octet) :
    Lays (storeWithFlags value masks : Writer JavaException Octet n) [withFlags value masks] where
  fits buffer i fits := by
    have inside : i < n := fits
    rw [storeWithFlags, store_of_lt _ buffer i _ inside, ok_bind, foldlM_orInto buffer i inside]
    rfl
  overflows buffer i start full := by
    have outside : n ≤ i := by simp at full; omega
    refine ⟨.arrayIndexOutOfBoundsException, ?_⟩
    rw [storeWithFlags, store_of_le _ buffer i _ outside, error_bind]

theorem arraycopy_fits (src : List Octet) (offset length : JInt) (dest : Vector Octet n) (i : Nat)
    (inside : InsideSegment src offset length) (fits : i + length.toInt.toNat ≤ n) :
    arraycopy src offset.toInt dest i length.toInt =
      .ok (overwrite dest i (window src offset length)) := by
  obtain ⟨start, size, bound⟩ := inside
  rw [arraycopy, if_neg (by omega)]
  rfl

theorem lays_storeTime {m : Nat} (value : Vector Octet m) :
    Lays (storeTime value : Writer JavaException Octet n) value.toList where
  fits buffer i fits := by
    rw [Vector.length_toList] at fits
    have all : (value.toList.drop (0 : Int).toNat).take (m : Int).toNat = value.toList := by
      simp
    rw [storeTime, arraycopy, if_neg (by simp; omega), all, Vector.length_toList]
    rfl
  overflows buffer i _ full := by
    rw [Vector.length_toList] at full
    refine ⟨.arrayIndexOutOfBoundsException, ?_⟩
    rw [storeTime, arraycopy, if_pos (by omega)]
    rfl

theorem lays_storeSegment {segment : List Octet} {offset length : JInt}
    (inside : InsideSegment segment offset length) :
    Lays (storeSegment segment offset length : Writer JavaException Octet n)
      (toByte length :: window segment offset length) where
  fits buffer i fits := by
    rw [List.length_cons, window_length inside] at fits
    rw [storeSegment, store_of_lt _ buffer i _ (by omega), ok_bind,
      arraycopy_fits _ _ _ _ _ inside (by omega), ok_bind, List.length_cons, window_length inside]
    rfl
  overflows buffer i start full := by
    rw [List.length_cons, window_length inside] at full
    refine ⟨.arrayIndexOutOfBoundsException, ?_⟩
    rw [storeSegment]
    by_cases room : i < n
    · have short : n < (i + 1 : Nat) + length.toInt := by
        obtain ⟨_, size, _⟩ := inside
        omega
      rw [store_of_lt _ buffer i _ room, ok_bind, arraycopy, if_pos (.inr (.inr (.inr short))),
        error_bind]
    · rw [store_of_le _ buffer i _ (by omega), error_bind]

/-- Every encoder lays down the octets of its element. -/
theorem InformationElement.lays_encode (e : InformationElement) (encodable : e.Encodable) :
    Lays (encode (n := n) e) e.wire := by
  cases e with
  | ieBinaryCounterReading counterReading sequenceNumber flags =>
    apply Lays.storing .bufferOverflowException
    intro buffer i
    simp only [encode, wire, toByte_sshiftRight_eight, toByte_sshiftRight_sixteen,
      toByte_sshiftRight_twentyFour]
    have listed : octets counterReading 4 = [octet counterReading 0, octet counterReading 1,
      octet counterReading 2, octet counterReading 3] := rfl
    simp only [listed, List.cons_append, List.nil_append, storeAll, bind_assoc]
    rw [toByte_eq_octet counterReading]
    rfl
  | ieLengthOfFileOrSection value =>
    apply Lays.storing .arrayIndexOutOfBoundsException
    intro buffer i
    have listed : octets value 3 = [octet value 0, octet value 1, octet value 2] := rfl
    simp only [encode, wire, toByte_sshiftRight_eight, toByte_sshiftRight_sixteen,
      toByte_eq_octet value, listed, storeAll, bind_assoc]
    rfl
  | ieShortFloat value =>
    apply Lays.storing .arrayIndexOutOfBoundsException
    intro buffer i
    have listed (v : JInt) : octets v 4 = [octet v 0, octet v 1, octet v 2, octet v 3] := rfl
    simp only [encode, wire, toByte_sshiftRight_eight, toByte_sshiftRight_sixteen,
      toByte_sshiftRight_twentyFour, toByte_eq_octet value.floatToIntBits, listed, storeAll,
      bind_assoc]
    rfl
  | ieFixedTestBitPattern =>
    apply Lays.storing .arrayIndexOutOfBoundsException
    intro buffer i
    simp only [encode, wire, storeAll, bind_assoc]
    rfl
  | ieFileSegment segment offset length => exact lays_storeSegment encodable
  | ieBinaryStateInformation value | ieStatusAndStatusChanges value => exact lays_storeBigEndian value
  | ieNameOfFile value | ieNormalizedValue value | ieScaledValue value
  | ieTestSequenceCounter value => exact lays_storeTwo value
  | ieTime16 value => exact lays_storeTime value
  | ieTime24 value => exact lays_storeTime value
  | ieTime56 value => exact lays_storeTime value
  | ieFileReadyQualifier | ieQualifierOfSetPointCommand | ieSectionReadyQualifier
  | ieQualifierOfParameterOfMeasuredValues | ieStatusOfFile => exact lays_storeWithFlags _ _
  | ieCauseOfInitialization _ flag | ieValueWithTransientState _ flag =>
    cases flag <;> exact lays_storeOctet _
  | _ => exact lays_storeOctet _

/-- A file segment with a stretch outside its array is never encoded. -/
theorem InformationElement.refuses_encode (e : InformationElement) (impossible : ¬ e.Encodable) :
    Refuses (encode (n := n) e) := by
  intro buffer i
  cases e with
  | ieFileSegment segment offset length =>
    refine ⟨.arrayIndexOutOfBoundsException, ?_⟩
    change storeSegment segment offset length buffer i = _
    rw [storeSegment]
    by_cases inside : i < n
    · have outside : offset.toInt < 0 ∨ length.toInt < 0 ∨
          segment.length < offset.toInt + length.toInt := by
        simp only [Encodable, InsideSegment] at impossible
        omega
      rw [store_of_lt _ buffer i _ inside, ok_bind, arraycopy, if_pos (by omega), error_bind]
    · rw [store_of_le _ buffer i _ (by omega), error_bind]
  | _ => exact absurd trivial impossible

end Lays

end J60870
