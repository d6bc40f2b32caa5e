import J60870.Decoded
import J60870.Ie.Constructors
import J60870.Lib.SignedWord

namespace J60870

open Lib

namespace InformationElement

/-- Of one class, with the same getter values. -/
structure SameGetters (e other : InformationElement) : Prop where
  getClass : e.getClass = other.getClass
  getters : e.getters = other.getters

/-- The octets the element is encoded to are decoded to an element with its getter values. -/
def Arrives (e : InformationElement) : Prop :=
  ∃ octets, (∀ n, Lays (encode (n := n) e) octets) ∧
    ∃ received rest, e.getClass.decode octets = .ok (received, rest) ∧ received.SameGetters e

variable {e : InformationElement}

/-- An element within its width that arrives as it is. -/
theorem InWidth.arrives (fits : e.InWidth) (same : e.delivered = e) : e.Arrives := by
  have read := e.yields_delivered fits []
  rw [List.append_nil, same] at read
  exact ⟨e.wire, fun n => e.lays_encode fits.encodable, e, [], read, rfl, rfl⟩

theorem Arrives.received (arrives : e.Arrives) : e.Encodable ∧
    ∃ received rest, e.getClass.decode e.wire = .ok (received, rest) ∧ received.InWidth ∧
      received.getters = e.getters := by
  obtain ⟨octets, lays, received, rest, read, same⟩ := arrives
  have encodable : e.Encodable := by
    by_contra impossible
    have written := (lays octets.length).fits (Vector.replicate octets.length 0) 0 (by omega)
    obtain ⟨_, refused⟩ := e.refuses_encode impossible (Vector.replicate octets.length 0) 0
    cases written.symm.trans refused
  have wire : octets = e.wire := (lays (octets.length + e.wire.length)).unique (e.lays_encode encodable)
    (Vector.replicate _ 0) (by omega) (by omega)
  rw [wire] at read
  have held := (ElementClass.ensures_holds e.getClass).of_ok read
  exact ⟨encodable, received, rest, read, held.choose_spec.2.inWidth, same.getters⟩

end InformationElement

namespace ConstructorCall

/-- The constructor rejects its arguments, or what it builds arrives. -/
def Faithful (call : ConstructorCall) : Prop :=
  (∃ message, call.construct = .error (.illegalArgumentException message)) ∨
    ∃ e, call.construct = .ok e ∧ e.Arrives

/-- The arguments fit into the octets, where the constructor does not see to it. Of a file segment
the whole array is sent. -/
def Fits : ConstructorCall → Prop
  | ieAckFileOrSectionQualifier action notice | ieSelectAndCallQualifier action notice =>
    action.toNat < 2 ^ 4 ∧ notice.toNat < 2 ^ 4
  | ieBinaryCounterReading _ sequenceNumber _ => sequenceNumber.toNat < 2 ^ 5
  | ieChecksum value | ieLastSectionOrSegmentQualifier value | ieNameOfSection value
  | ieQualifierOfInterrogation value | ieQualifierOfParameterActivation value
  | ieQualifierOfResetProcessCommand value => value.toNat < 2 ^ 8
  | ieFileReadyQualifier value _ | ieSectionReadyQualifier value _
  | ieQualifierOfSetPointCommand value _ => value.toNat < 2 ^ 7
  | ieFileSegment segment offset length =>
    offset = 0 ∧ length.toNat = segment.length ∧ segment.length < 2 ^ 8
  | ieLengthOfFileOrSection value => value.toNat < 2 ^ 24
  | ieNameOfFile value => value.toNat < 2 ^ 16
  | ieQualifierOfCounterInterrogation request freeze => request.toNat < 2 ^ 6 ∧ freeze.toNat < 2 ^ 2
  | ieQualifierOfParameterOfMeasuredValues kindOfParameter _ _ => kindOfParameter.toNat < 2 ^ 6
  | ieStatusOfFile status _ => status.toNat < 2 ^ 5
  | _ => True

theorem checkRange_cases (value : JInt) (lower upper : Int) (message : String) :
    checkRange value lower upper message = .error (.illegalArgumentException message) ∨
      checkRange value lower upper message = .ok () ∧ lower ≤ value.toInt ∧ value.toInt ≤ upper := by
  by_cases outside : value.toInt < lower ∨ upper < value.toInt
  · exact .inl (if_pos outside)
  · exact .inr ⟨if_neg outside, by omega, by omega⟩

private theorem faithful_of_checked {α : Type} {call : ConstructorCall} {check : Except JavaException α}
    {build : α → InformationElement} (constructed : call.construct = build <$> check)
    (checked : (∃ message, check = .error (.illegalArgumentException message)) ∨
      ∃ a, check = .ok a ∧ (build a).InWidth) (same : ∀ a, (build a).delivered = build a) :
    call.Faithful := by
  rcases checked with ⟨message, rejected⟩ | ⟨a, passed, fits⟩
  · exact .inl ⟨message, by rw [constructed, rejected]; rfl⟩
  · exact .inr ⟨build a, by rw [constructed, passed]; rfl, fits.arrives (same a)⟩

private theorem faithful_of_range {call : ConstructorCall} {e : InformationElement} {value : JInt}
    {lower upper : Int} {message : String}
    (constructed : call.construct = (fun _ => e) <$> checkRange value lower upper message)
    (fits : lower ≤ value.toInt → value.toInt ≤ upper → e.InWidth) (same : e.delivered = e) :
    call.Faithful := by
  refine faithful_of_checked constructed ?_ fun _ => same
  rcases checkRange_cases value lower upper message with rejected | ⟨passed, least, most⟩
  · exact .inl ⟨message, rejected⟩
  · exact .inr ⟨(), passed, fits least most⟩

private theorem faithful_of_normalized {call : ConstructorCall} {value : JInt}
    {f : JInt → InformationElement} (constructed : call.construct = f <$> normalizedValue value)
    (fits : ∀ v : JInt, -32768 ≤ v.toInt → v.toInt ≤ 32767 → (f v).InWidth)
    (same : ∀ v, (f v).delivered = f v) : call.Faithful := by
  refine faithful_of_checked constructed ?_ same
  rcases checkRange_cases value (-32768) 32767 "Value has to be in the range -32768..32767" with
    rejected | ⟨passed, least, most⟩
  · exact .inl ⟨_, by rw [normalizedValue, rejected]; rfl⟩
  · exact .inr ⟨value, by rw [normalizedValue, passed]; rfl, fits value least most⟩

private theorem faithful_of_built {call : ConstructorCall} {e : InformationElement}
    (constructed : call.construct = .ok e) (fits : e.InWidth) (same : e.delivered = e) : call.Faithful :=
  .inr ⟨e, constructed, fits.arrives same⟩

private theorem toNat_of_range {value : JInt} (upper : Nat) (least : 0 ≤ value.toInt)
    (most : value.toInt ≤ upper) : value.toNat ≤ upper := by
  have nonneg := (nonneg_of_toInt least).toInt
  omega

private theorem command_octet : ∀ (qualifier : BitVec 5) (select : Bool) (state : BitVec 2),
    ((if select then qualifier.setWidth 32 <<< 2 ||| (0x80 : JInt) else qualifier.setWidth 32 <<< 2) |||
      state.setWidth 32).toNat < 2 ^ 8 := by
  decide +kernel

private theorem faithful_of_command {call : ConstructorCall} {qualifier : JInt} {select : Bool}
    (state : BitVec 2) {f : JInt → InformationElement}
    (constructed : call.construct =
      (fun value => f (value ||| state.setWidth 32)) <$> qualifierOfCommand qualifier select)
    (octet : ∀ v : JInt, v.toNat < 2 ^ 8 → (f v).InWidth) (same : ∀ v, (f v).delivered = f v) :
    call.Faithful := by
  refine faithful_of_checked constructed ?_ fun _ => same _
  rcases checkRange_cases qualifier 0 31 s!"Qualifier is out of bound: {qualifier.toInt}" with
    rejected | ⟨passed, least, most⟩
  · exact .inl ⟨_, by rw [qualifierOfCommand, rejected]; rfl⟩
  · have small := toNat_of_range 31 least most
    obtain ⟨q, rfl⟩ := exists_setWidth qualifier 5 (by omega)
    exact .inr ⟨_, by rw [qualifierOfCommand, passed]; rfl, octet _ (command_octet q select state)⟩

theorem faithful_of_fits (call : ConstructorCall) (fits : call.Fits) : call.Faithful := by
  cases call with
  | ieCauseOfInitialization value flag =>
    refine faithful_of_range rfl (fun least most => ?_) rfl
    have small := toNat_of_range 127 least most
    exact Nat.lt_succ_of_le small
  | ieTestSequenceCounter value =>
    refine faithful_of_range rfl (fun least most => ?_) rfl
    have small := toNat_of_range 65535 least most
    exact Nat.lt_succ_of_le small
  | ieValueWithTransientState value transientState =>
    refine faithful_of_range rfl (fun least most => ?_) rfl
    exact ⟨least, most⟩
  | ieNormalizedValue value =>
    have constructed : (ieNormalizedValue value).construct = .ieNormalizedValue <$> normalizedValue value := rfl
    exact faithful_of_normalized constructed (fun _ least most => ⟨least, most⟩) fun _ => rfl
  | ieScaledValue value =>
    have constructed : (ieScaledValue value).construct = .ieScaledValue <$> normalizedValue value := rfl
    exact faithful_of_normalized constructed (fun _ least most => ⟨least, most⟩) fun _ => rfl
  | ieDoubleCommand commandState qualifier select =>
    cases commandState with
    | notPermittedA => exact faithful_of_command 0 rfl (fun _ small => small) fun _ => rfl
    | off => exact faithful_of_command 1 rfl (fun _ small => small) fun _ => rfl
    | on => exact faithful_of_command 2 rfl (fun _ small => small) fun _ => rfl
    | notPermittedB => exact faithful_of_command 3 rfl (fun _ small => small) fun _ => rfl
  | ieRegulatingStepCommand commandState qualifier select =>
    cases commandState with
    | notPermittedA => exact faithful_of_command 0 rfl (fun _ small => small) fun _ => rfl
    | nextStepLower => exact faithful_of_command 1 rfl (fun _ small => small) fun _ => rfl
    | nextStepHigher => exact faithful_of_command 2 rfl (fun _ small => small) fun _ => rfl
    | notPermittedB => exact faithful_of_command 3 rfl (fun _ small => small) fun _ => rfl
  | ieSingleCommand commandStateOn qualifier select =>
    cases commandStateOn with
    | false =>
      have constructed : (ieSingleCommand false qualifier select).construct =
          (fun value => .ieSingleCommand (value ||| (0 : BitVec 2).setWidth 32)) <$>
            qualifierOfCommand qualifier select := by
        have zero (value : JInt) : value ||| (0 : BitVec 2).setWidth 32 = value := BitVec.or_zero
        simp only [zero]
        rfl
      exact faithful_of_command 0 constructed (fun _ small => small) fun _ => rfl
    | true => exact faithful_of_command 1 rfl (fun _ small => small) fun _ => rfl
  | ieFileSegment segment offset length =>
    obtain ⟨rfl, size, small⟩ := fits
    obtain ⟨inside, whole⟩ := @whole_segment segment length (by omega) size.symm
    refine faithful_of_built rfl ⟨inside, by omega⟩ ?_
    exact congrArg (fun segment => InformationElement.ieFileSegment segment 0 length) whole
  | ieBinaryStateInformation value | ieStatusAndStatusChanges value => exact faithful_of_built rfl trivial rfl
  | ieTime16 value | ieTime24 value => exact faithful_of_built rfl trivial rfl
  | _ => exact faithful_of_built rfl fits rfl

private theorem int_of_same {e received : InformationElement} (getter : Getter) {v w : JInt}
    (same : received.getters = e.getters) (left : received.getters.lookup getter = some (.int v))
    (right : e.getters.lookup getter = some (.int w)) : v = w := by
  rw [same, right] at left
  exact (GetterValue.int.inj (Option.some.inj left)).symm

private theorem whole_of_arrives {segment : List Octet} {offset length : JInt}
    (arrives : (InformationElement.ieFileSegment segment offset length).Arrives) :
    offset = 0 ∧ length.toNat = segment.length ∧ segment.length < 2 ^ 8 := by
  obtain ⟨⟨start, size, bound⟩, received, rest, read, _, same⟩ := arrives.received
  change (readFully (toInt (toByte length)).toNat >>= fun taken =>
    pure (InformationElement.ieFileSegment taken 0 (toInt (toByte length)))) (window segment offset length) =
      _ at read
  obtain ⟨taken, left, fully, built⟩ := Reader.bind_eq_ok.mp read
  cases built
  have all : taken = segment := by
    injection same with first
    injection first with _ bytes
    exact GetterValue.bytes.inj bytes
  have octet : (toInt (toByte length)).toNat = length.toNat % 256 := by
    rw [toInt, toByte, BitVec.toNat_setWidth, BitVec.toNat_setWidth]
    omega
  have announced : taken.length = length.toNat % 256 := by
    rw [← octet]
    have sized : Reader.Ensures (readFully (toInt (toByte length)).toNat)
        (fun _ bytes => bytes.length = (toInt (toByte length)).toNat) fun _ => True :=
      Reader.Ensures.word (fun _ size => size) trivial
    exact (sized.of_ok fully).choose_spec.2
  rw [all] at announced
  have lengthValue := (nonneg_of_toInt size).toInt
  have offsetValue := (nonneg_of_toInt start).toInt
  refine ⟨BitVec.eq_of_toInt_eq ?_, ?_, ?_⟩
  · have zero : (0 : JInt).toInt = 0 := rfl
    omega
  · omega
  · omega

/-- From the getter values of what arrived the arguments are known to fit. -/
theorem fits_of_arrives {call : ConstructorCall} {e : InformationElement}
    (constructed : call.construct = .ok e) (arrives : e.Arrives) : call.Fits := by
  obtain ⟨encodable, received, rest, read, held, same⟩ := arrives.received
  cases call with
  | ieChecksum value | ieLastSectionOrSegmentQualifier value | ieNameOfSection value
  | ieQualifierOfInterrogation value | ieQualifierOfParameterActivation value
  | ieQualifierOfResetProcessCommand value | ieFileReadyQualifier value | ieSectionReadyQualifier value
  | ieLengthOfFileOrSection value | ieNameOfFile value =>
    cases constructed
    cases read
    rwa [int_of_same .getValue same rfl rfl] at held
  | ieAckFileOrSectionQualifier action notice | ieSelectAndCallQualifier action notice
  | ieQualifierOfCounterInterrogation request freeze =>
    cases constructed
    cases read
    rwa [int_of_same .getRequest same rfl rfl, int_of_same .getFreeze same rfl rfl] at held
  | ieQualifierOfSetPointCommand ql select =>
    cases constructed
    cases read
    rwa [int_of_same .getQl same rfl rfl] at held
  | ieQualifierOfParameterOfMeasuredValues kindOfParameter change notInOperation =>
    cases constructed
    cases read
    rwa [int_of_same .getKindOfParameter same rfl rfl] at held
  | ieBinaryCounterReading counterReading sequenceNumber flags =>
    cases constructed
    cases read
    rwa [int_of_same .getSequenceNumber same rfl rfl] at held
  | ieStatusOfFile status flags =>
    cases constructed
    cases read
    rwa [int_of_same .getStatus same rfl rfl] at held
  | ieFileSegment segment offset length =>
    cases constructed
    exact whole_of_arrives arrives
  | _ => trivial

private theorem fits_of_rejected {call : ConstructorCall} {exception : JavaException}
    (rejected : call.construct = .error exception) : call.Fits := by
  cases call with
  | ieCauseOfInitialization | ieDoubleCommand | ieRegulatingStepCommand | ieSingleCommand
  | ieNormalizedValue | ieScaledValue | ieTestSequenceCounter | ieValueWithTransientState
  | ieBinaryStateInformation | ieStatusAndStatusChanges | ieTime16 | ieTime24 => trivial
  | _ => cases rejected

/-- The arguments are rejected or arrive exactly where they fit. -/
theorem faithful_iff (call : ConstructorCall) : call.Faithful ↔ call.Fits := by
  constructor
  · rintro (⟨message, rejected⟩ | ⟨e, constructed, arrives⟩)
    · exact fits_of_rejected rejected
    · exact fits_of_arrives constructed arrives
  · exact call.faithful_of_fits

/-- The qualifier 128 that is to be executed is received as the selection of qualifier 0. -/
theorem not_faithful : ¬ ∀ call : ConstructorCall, call.Faithful := by
  intro faithful
  rcases faithful (ieQualifierOfSetPointCommand 128 false) with ⟨message, rejected⟩ | ⟨e, built, arrives⟩
  · cases rejected
  · exact absurd (fits_of_arrives built arrives) (by decide : ¬ (128 : JInt).toNat < 2 ^ 7)

end ConstructorCall

end J60870
