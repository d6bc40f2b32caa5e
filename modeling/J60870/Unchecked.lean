import J60870.APdu

namespace J60870

open Lib

def Unchecked {α : Type} (x : Except JavaException α) : Prop :=
  ∀ e, x = .error e → e.isIOException = false

namespace Unchecked

variable {α β : Type} {n : Nat}

theorem ok (a : α) : Unchecked (.ok a) := fun _ same => by cases same

theorem error {e : JavaException} (unchecked : e.isIOException = false) :
    Unchecked (.error e : Except JavaException α) := fun _ same => by
  cases same
  exact unchecked

theorem bind {x : Except JavaException α} {f : α → Except JavaException β} (first : Unchecked x)
    (second : ∀ a, Unchecked (f a)) : Unchecked (x >>= f) := by
  cases failed : x with
  | ok a => exact second a
  | error e => exact error (first e failed)

theorem store {e : JavaException} (unchecked : e.isIOException = false) (buffer : Vector Octet n)
    (i : Nat) (b : Octet) : Unchecked (store e buffer i b) := by
  rw [Lib.store]
  split
  · exact ok _
  · exact error unchecked

theorem storeAll {e : JavaException} (unchecked : e.isIOException = false) (buffer : Vector Octet n)
    (i : Nat) (bs : List Octet) : Unchecked (storeAll e buffer i bs) := by
  induction bs generalizing buffer i with
  | nil => exact ok _
  | cons b bs ih => exact (store unchecked buffer i b).bind fun buffer => ih buffer (i + 1)

theorem put (buffer : Vector Octet n) (i : Nat) (bs : List Octet) :
    Unchecked (APdu.put buffer i bs) :=
  storeAll rfl buffer i bs

theorem arraycopy (src : List Octet) (srcPos : Int) (buffer : Vector Octet n) (i : Nat) (length : Int) :
    Unchecked (arraycopy src srcPos buffer i length) := by
  rw [J60870.arraycopy]
  split
  · exact error rfl
  · exact ok _

private theorem orInto (buffer : Vector Octet n) (i : Nat) (mask : Octet) :
    Unchecked (orInto buffer i mask) := by
  have loaded : Unchecked (load .arrayIndexOutOfBoundsException buffer i) := by
    rw [load]
    split
    · exact ok _
    · exact error rfl
  exact loaded.bind fun b => store rfl buffer i (b ||| mask)

private theorem orAllInto (buffer : Vector Octet n) (i : Nat) (masks : List Octet) :
    Unchecked (masks.foldlM (fun buffer mask => J60870.orInto buffer i mask) buffer) := by
  induction masks generalizing buffer with
  | nil => exact ok _
  | cons mask masks ih =>
    rw [List.foldlM_cons]
    exact (orInto buffer i mask).bind ih

section Writers

variable {v w : Writer JavaException Octet n}

theorem andThen (first : ∀ buffer i, Unchecked (v buffer i)) (second : ∀ buffer i, Unchecked (w buffer i))
    (buffer : Vector Octet n) (i : Nat) : Unchecked (v.andThen w buffer i) :=
  (first buffer i).bind fun _ => (second _ _).bind fun _ => ok _

theorem inOrder {writers : List (Writer JavaException Octet n)}
    (each : ∀ w ∈ writers, ∀ buffer i, Unchecked (w buffer i)) (buffer : Vector Octet n) (i : Nat) :
    Unchecked (Writer.inOrder writers buffer i) := by
  induction writers generalizing buffer i with
  | nil => exact ok _
  | cons w writers ih =>
    exact andThen (each w (by simp)) (ih fun other member => each other (by simp [member])) buffer i

end Writers

private theorem storing {e : JavaException} (unchecked : e.isIOException = false)
    {buffer : Vector Octet n} {i : Nat} {b : Octet} {f : Vector Octet n → Except JavaException β}
    (rest : ∀ buffer, Unchecked (f buffer)) : Unchecked (Lib.store e buffer i b >>= f) :=
  (store unchecked buffer i b).bind rest

section Elements

variable (buffer : Vector Octet n) (i : Nat)

private theorem storeOctet (b : Octet) : Unchecked (storeOctet b buffer i) :=
  storing rfl fun _ => ok _

private theorem storeBigEndian (value : JInt) : Unchecked (storeBigEndian value buffer i) :=
  storing rfl fun _ => storing rfl fun _ => storing rfl fun _ => storing rfl fun _ => ok _

private theorem storeTwo (value : JInt) : Unchecked (storeTwo value buffer i) :=
  storing rfl fun _ => storing rfl fun _ => ok _

private theorem storeWithFlags (value : JInt) (masks : List Octet) :
    Unchecked (storeWithFlags value masks buffer i) :=
  storing rfl fun buffer => (orAllInto buffer i masks).bind fun _ => ok _

private theorem storeTime {m : Nat} (value : Vector Octet m) : Unchecked (storeTime value buffer i) :=
  (arraycopy _ _ _ _ _).bind fun _ => ok _

private theorem storeSegment (segment : List Octet) (offset length : JInt) :
    Unchecked (storeSegment segment offset length buffer i) :=
  storing rfl fun _ => (arraycopy _ _ _ _ _).bind fun _ => ok _

theorem encodeElement (e : InformationElement) : Unchecked (e.encode buffer i) := by
  cases e with
  | ieBinaryCounterReading =>
    exact storing rfl fun _ => storing rfl fun _ => storing rfl fun _ => storing rfl fun _ =>
      storing rfl fun _ => ok _
  | ieShortFloat =>
    exact storing rfl fun _ => storing rfl fun _ => storing rfl fun _ => storing rfl fun _ => ok _
  | ieLengthOfFileOrSection => exact storing rfl fun _ => storing rfl fun _ => storing rfl fun _ => ok _
  | ieFixedTestBitPattern => exact storing rfl fun _ => storing rfl fun _ => ok _
  | ieFileSegment => exact storeSegment buffer i _ _ _
  | ieBinaryStateInformation value | ieStatusAndStatusChanges value => exact storeBigEndian buffer i value
  | ieNameOfFile value | ieNormalizedValue value | ieScaledValue value
  | ieTestSequenceCounter value => exact storeTwo buffer i value
  | ieTime16 value => exact storeTime buffer i value
  | ieTime24 value => exact storeTime buffer i value
  | ieTime56 value => exact storeTime buffer i value
  | ieFileReadyQualifier | ieQualifierOfSetPointCommand | ieSectionReadyQualifier
  | ieQualifierOfParameterOfMeasuredValues | ieStatusOfFile => exact storeWithFlags buffer i _ _
  | ieCauseOfInitialization _ flag | ieValueWithTransientState _ flag =>
    cases flag <;> exact storeOctet buffer i _
  | _ => exact storeOctet buffer i _

end Elements

private theorem encodeObject (object : InformationObject) (ioaFieldLength : Nat) :
    ∀ (buffer : Vector Octet n) (i : Nat), Unchecked (object.encode ioaFieldLength buffer i) := by
  apply andThen
  · apply inOrder
    intro w member buffer i
    rcases List.mem_cons.mp member with rfl | member
    · exact storeOctet buffer i _
    · split at member
      · rcases List.mem_cons.mp member with rfl | member
        · exact storeOctet buffer i _
        · split at member
          · rcases List.mem_singleton.mp member with rfl
            exact storeOctet buffer i _
          · cases member
      · cases member
  · apply inOrder
    intro w member buffer i
    obtain ⟨e, _, rfl⟩ := List.mem_map.mp member
    exact encodeElement buffer i e

theorem encodeASdu (settings : ConnectionSettings) (aSdu : ASdu) :
    ∀ (buffer : Vector Octet n) (i : Nat), Unchecked (aSdu.encode settings buffer i) := by
  have octet (b : Octet) (buffer : Vector Octet n) (i : Nat) : Unchecked (J60870.storeOctet b buffer i) :=
    storeOctet buffer i b
  apply andThen (octet _)
  apply andThen (octet _)
  apply andThen
  · intro buffer i
    cases cause : aSdu.causeOfTransmission <;> simp only [ASdu.encodeCause, cause]
    case none => exact error rfl
    case some => exact octet _ buffer i
  apply andThen
  · apply inOrder
    intro w member
    obtain ⟨b, _, rfl⟩ := List.mem_map.mp member
    exact octet b
  · intro buffer i
    cases contents : aSdu.informationObjects <;> simp only [ASdu.encodeContents, contents]
    case some objects =>
      apply inOrder
      intro w member
      obtain ⟨object, _, rfl⟩ := List.mem_map.mp member
      exact encodeObject object settings.ioaFieldLength
    case none =>
      cases aSdu.privateInformation with
      | some bytes => exact (arraycopy _ _ _ _ _).bind fun _ => ok _
      | none => exact error rfl

/-- The encoder of a frame throws runtime exceptions only. -/
theorem encode (settings : ConnectionSettings) (aPdu : APdu) (buffer : Vector Octet n) :
    Unchecked (aPdu.encode settings buffer) := by
  have unnumbered (buffer : Vector Octet n) (controlField1 : Octet) :
      Unchecked (APdu.putUnnumbered buffer controlField1) :=
    (put buffer 2 _).bind fun buffer => (put buffer 3 _).bind fun _ => ok _
  have fields (buffer : Vector Octet n) : Unchecked (aPdu.encodeFields settings buffer) := by
    rw [APdu.encodeFields]
    split
    case h_1 =>
      refine (put buffer 2 _).bind fun buffer => (put buffer 4 _).bind fun buffer => ?_
      split
      · exact (encodeASdu settings _ buffer 6).bind fun _ => ok _
      · exact error rfl
    case h_6 => exact (put buffer 2 _).bind fun buffer => (put buffer 4 _).bind fun _ => ok _
    case h_7 => exact ok _
    case h_8 => exact ok _
    all_goals exact unnumbered buffer _
  exact (put buffer 0 _).bind fun buffer => (fields buffer).bind fun _ => (put _ 1 _).bind fun _ => ok _

end Unchecked

end J60870
