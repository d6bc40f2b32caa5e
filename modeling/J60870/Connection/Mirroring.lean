import J60870.Connection.Sending
import J60870.Decoded

namespace J60870

open Lib Method

/-- The object with every NaN as the one that `floatToIntBits` stands for. -/
def InformationObject.canonical (object : InformationObject) : InformationObject :=
  ⟨object.informationObjectAddress,
    object.informationElements.map fun row => row.map InformationElement.canonical⟩

def ASdu.size (settings : ConnectionSettings) (aSdu : ASdu) : Nat :=
  3 + (aSdu.addresses settings).length + (aSdu.contentsWire settings).length

namespace Connection

variable (settings : ConnectionSettings)

/-- `cotFrom`, which throws on `null`. -/
def cotFrom (aSdu : ASdu) : Except JavaException CauseOfTransmission :=
  match aSdu.causeOfTransmission with
  | none => throw .nullPointerException
  | some .activation => return .activationCon
  | some .deactivation => return .deactivationCon
  | some cot => return cot

def broadcastAddress : JInt := if settings.commonAddressFieldLength = 2 then 65535 else 255

def setCommonAddress (stationAddress commonAddress : JInt) : JInt :=
  if commonAddress = broadcastAddress settings then stationAddress else commonAddress

/-- The ASDU of `sendActDect`. Without objects the constructor throws. -/
def mirrorOf (aSdu : ASdu) (stationAddress : JInt) (cot : CauseOfTransmission)
    (isNegativeConfirm : Bool) : Except JavaException ASdu :=
  match aSdu.informationObjects with
  | none => throw .nullPointerException
  | some informationObjects =>
    ASdu.standardized aSdu.aSduType aSdu.isSequenceOfElements (some cot) aSdu.test isNegativeConfirm
      aSdu.originatorAddress (setCommonAddress settings stationAddress aSdu.commonAddress)
      informationObjects

/-- `sendActDect`, behind the wait for the window. -/
def sendActDect (aSdu : ASdu) (stationAddress : JInt) (cot : CauseOfTransmission)
    (isNegativeConfirm : Bool) : Body Unit :=
  match mirrorOf settings aSdu stationAddress cot isNegativeConfirm with
  | .ok mirror => send settings mirror
  | .error e => throw e

def sendConfirmation (aSdu : ASdu) (stationAddress : JInt) (isNegativeConfirm : Bool) : Body Unit :=
  match cotFrom aSdu with
  | .ok cot => sendActDect settings aSdu stationAddress cot isNegativeConfirm
  | .error e => throw e

def sendActivationTermination (aSdu : ASdu) (stationAddress : JInt) : Body Unit :=
  sendActDect settings aSdu stationAddress .activationTermination aSdu.negativeConfirm

/-- The answer repeats the ASDU, up to the payload of a NaN, and comes from the station if the
ASDU was broadcast. -/
structure Repeats (aSdu : ASdu) (stationAddress : JInt) (answer : ASdu) : Prop where
  aSduType : answer.aSduType = aSdu.aSduType
  isSequenceOfElements : answer.isSequenceOfElements = aSdu.isSequenceOfElements
  sequenceLength : answer.sequenceLength = aSdu.sequenceLength
  test : answer.test = aSdu.test
  originatorAddress : answer.originatorAddress = aSdu.originatorAddress
  informationObjects : answer.informationObjects.map (List.map InformationObject.canonical) =
    aSdu.informationObjects.map (List.map InformationObject.canonical)
  privateInformation : answer.privateInformation = aSdu.privateInformation
  commonAddress : answer.commonAddress =
    if aSdu.commonAddress = broadcastAddress settings then stationAddress else aSdu.commonAddress

/-- The octets are decoded, to the last one, to an I frame that repeats the ASDU, with a cause
and a P/N bit as they should be. -/
def IsAnswer (aSdu : ASdu) (stationAddress : JInt) (header : Option CauseOfTransmission → Bool → Prop)
    (octets : List Octet) : Prop :=
  ∃ sendSeqNum receiveSeqNum answer,
    APdu.decode settings octets = .ok (.iFormat sendSeqNum receiveSeqNum answer, []) ∧
    Repeats settings aSdu stationAddress answer ∧ header answer.causeOfTransmission answer.negativeConfirm

/-- The cause and the P/N bit of a confirmation. -/
def Confirms (aSdu : ASdu) (isNegativeConfirm : Bool) (cause : Option CauseOfTransmission)
    (negativeConfirm : Bool) : Prop :=
  (aSdu.causeOfTransmission = some .activation → cause = some .activationCon) ∧
  (aSdu.causeOfTransmission = some .deactivation → cause = some .deactivationCon) ∧
  negativeConfirm = isNegativeConfirm

def Terminates (cause : Option CauseOfTransmission) (_ : Bool) : Prop :=
  cause = some .activationTermination

/-- The ASDU has objects, its octets fit into a frame, and the station's address fits if it is
needed. -/
structure CanBeAnswered (aSdu : ASdu) (stationAddress : JInt) : Prop where
  standardized : ∀ id, aSdu.aSduType ≠ .PRIVATE id
  short : aSdu.size settings ≤ 249
  station : aSdu.commonAddress = broadcastAddress settings →
    stationAddress.toNat < 2 ^ (8 * settings.commonAddressFieldLength)

section Answers

variable {settings : ConnectionSettings} {aSdu : ASdu} {stationAddress : JInt}
  {cot : CauseOfTransmission} {isNegativeConfirm : Bool}

/-- The ASDU with the header of its answer. -/
def answered (settings : ConnectionSettings) (aSdu : ASdu) (stationAddress : JInt)
    (cot : CauseOfTransmission) (isNegativeConfirm : Bool) : ASdu :=
  { aSdu with
    causeOfTransmission := some cot
    negativeConfirm := isNegativeConfirm
    commonAddress := setCommonAddress settings stationAddress aSdu.commonAddress }

variable {layout : SetLayout} {objects : List InformationObject} {count : Nat}

private theorem mirrorOf_shape (shape : aSdu.Shape layout objects count) :
    mirrorOf settings aSdu stationAddress cot isNegativeConfirm =
      .ok (answered settings aSdu stationAddress cot isNegativeConfirm) := by
  obtain ⟨held, none⟩ := shape.contents
  have number := shape.number
  have length := shape.length
  rw [mirrorOf, held, answered]
  cases sequence : aSdu.isSequenceOfElements with
  | false =>
    rw [sequence, if_neg Bool.false_ne_true] at number
    simp [ASdu.standardized, held, none, number, length, pure, Except.pure]
  | true =>
    rw [sequence, if_pos rfl] at number
    obtain ⟨object, rfl⟩ := List.length_eq_one_iff.mp number
    have sets := shape.counted sequence object (List.mem_singleton_self object)
    simp [ASdu.standardized, held, none, sets, length, pure, Except.pure]

private theorem answered_shape (shape : aSdu.Shape layout objects count) :
    (answered settings aSdu stationAddress cot isNegativeConfirm).Shape layout objects count :=
  ⟨shape.found, shape.contents, shape.number, shape.sets, shape.counted, shape.length⟩

private theorem answered_wire_length :
    ((answered settings aSdu stationAddress cot isNegativeConfirm).wire settings).length =
      aSdu.size settings := by
  simp only [ASdu.wire, ASdu.causeWire, answered, ASdu.size, ASdu.addresses, ASdu.contentsWire,
    Option.map_some, Option.toList_some, List.length_append, List.length_cons, List.length_nil]
  rcases settings.cot_range with one | two <;>
    rcases settings.commonAddress_range with short | long <;>
    simp [*] <;> omega

private theorem delivered_canonical
    (addresses : ∀ object ∈ objects,
      object.informationObjectAddress.toNat < 2 ^ (8 * settings.ioaFieldLength))
    (received : ∀ object ∈ objects, ∀ row ∈ object.informationElements, ∀ e ∈ row, e.received = e) :
    (objects.map (InformationObject.delivered settings.ioaFieldLength)).map InformationObject.canonical =
      objects.map InformationObject.canonical := by
  -- Objects as the decoder returns them are delivered up to the payload of a NaN.
  rw [List.map_map]
  refine List.map_congr_left fun object member => ?_
  have rows : ((object.informationElements.map fun row => row.map InformationElement.delivered).map
      fun row => row.map InformationElement.canonical) =
      object.informationElements.map fun row => row.map InformationElement.canonical := by
    rw [List.map_map]
    refine List.map_congr_left fun row present => ?_
    rw [Function.comp_apply, List.map_map]
    refine List.map_congr_left fun e inside => ?_
    rw [Function.comp_apply, InformationElement.delivered, received object member row present e inside,
      InformationElement.canonical_canonical]
  rw [Function.comp_apply, InformationObject.delivered, InformationObject.canonical, rows,
    low_of_lt _ _ (addresses object member), InformationObject.canonical]

private theorem repeats_iff (held : aSdu.Held settings)
    (addresses : ∀ object ∈ objects,
      object.informationObjectAddress.toNat < 2 ^ (8 * settings.ioaFieldLength))
    (received : ∀ object ∈ objects, ∀ row ∈ object.informationElements, ∀ e ∈ row, e.received = e)
    (shape : aSdu.Shape layout objects count) :
    Repeats settings aSdu stationAddress
        ((answered settings aSdu stationAddress cot isNegativeConfirm).delivered settings) ↔
      (aSdu.commonAddress = broadcastAddress settings →
        stationAddress.toNat < 2 ^ (8 * settings.commonAddressFieldLength)) := by
  have originator : (if settings.cotFieldLength = 2 then low aSdu.originatorAddress 8 else (-1 : JInt)) =
      aSdu.originatorAddress := by
    have known := held.originatorAddress
    by_cases two : settings.cotFieldLength = 2
    · rw [if_pos two] at known ⊢
      exact low_of_lt _ _ known
    · rw [if_neg two] at known ⊢
      exact known.symm
  have objectsSame : (((answered settings aSdu stationAddress cot isNegativeConfirm).delivered
      settings).informationObjects).map (List.map InformationObject.canonical) =
      aSdu.informationObjects.map (List.map InformationObject.canonical) := by
    rw [shape.contents.1]
    simp only [ASdu.delivered, answered, shape.contents.1, Option.map_some]
    exact congrArg some (delivered_canonical addresses received)
  have common : low (setCommonAddress settings stationAddress aSdu.commonAddress)
        (8 * settings.commonAddressFieldLength) =
      (if aSdu.commonAddress = broadcastAddress settings then stationAddress else aSdu.commonAddress) ↔
      (aSdu.commonAddress = broadcastAddress settings →
        stationAddress.toNat < 2 ^ (8 * settings.commonAddressFieldLength)) := by
    by_cases broadcast : aSdu.commonAddress = broadcastAddress settings
    · simp only [setCommonAddress, broadcast, if_true, true_implies]
      exact low_eq_self_iff _ _
    · simp only [setCommonAddress, broadcast, if_false, false_implies, iff_true]
      exact low_of_lt _ _ held.commonAddress
  constructor
  · intro repeats
    exact common.mp repeats.commonAddress
  · intro fits
    exact ⟨rfl, rfl, rfl, rfl, originator, objectsSame, rfl, common.mpr fits⟩

variable {c : Connection}

/-- An answer goes out and repeats the ASDU exactly if the ASDU can be answered. -/
theorem sendActDect_iff (isOpen : c.closed = false) (isStarted : c.stopped = false) (sound : c.Sound)
    (counting : Counting settings c) (held : aSdu.Held settings)
    (handled : ∀ id, aSdu.aSduType ≠ .RESERVED id)
    (header : Option CauseOfTransmission → Bool → Prop) :
    EmitsIFrame settings c (sendActDect settings aSdu stationAddress cot isNegativeConfirm)
        (IsAnswer settings aSdu stationAddress header) ↔
      CanBeAnswered settings aSdu stationAddress ∧ header (some cot) isNegativeConfirm := by
  cases held.contents with
  | objects layout objects count shape few addresses received =>
    have standardized (id) : aSdu.aSduType ≠ .PRIVATE id := by
      intro type
      have found := shape.found
      rw [type] at found
      cases found
    have sameShape : (answered settings aSdu stationAddress cot isNegativeConfirm).Shape layout objects
        count := answered_shape shape
    have length : ((answered settings aSdu stationAddress cot isNegativeConfirm).wire settings).length =
        aSdu.size settings := answered_wire_length
    rw [sendActDect, mirrorOf_shape shape]
    by_cases short : aSdu.size settings ≤ 249
    · have fits : (answered settings aSdu stationAddress cot isNegativeConfirm).Fits settings :=
        ⟨sameShape.encodable rfl, by omega⟩
      have decoded := APdu.yields_iFormat c.sendSequenceNumber c.receiveSequenceNumber _
        counting.send_lt counting.receive_lt (length ▸ short)
        (sameShape.yields_decode settings rfl few _) []
      rw [List.append_nil] at decoded
      rw [emitsIFrame_send_iff isOpen isStarted sound fits]
      have same : Repeats settings aSdu stationAddress
          ((answered settings aSdu stationAddress cot isNegativeConfirm).delivered settings) ↔ _ :=
        repeats_iff held addresses received shape
      constructor
      · rintro ⟨sendSeqNum, receiveSeqNum, answer, read, repeats, right⟩
        have frames := (Prod.mk.inj (Except.ok.inj (decoded.symm.trans read))).1
        obtain rfl := Option.some.inj (APdu.mk.inj frames).2.2.2
        exact ⟨⟨standardized, short, same.mp repeats⟩, right⟩
      · rintro ⟨can, right⟩
        exact ⟨_, _, _, decoded, same.mpr can.station, right⟩
    · have unfit : ¬ (answered settings aSdu stationAddress cot isNegativeConfirm).Fits settings :=
        fun fits => short (by have whole := fits.2; omega)
      exact iff_of_false (not_emitsIFrame_of_unfit isOpen isStarted sound unfit _)
        fun can => short can.1.short
  | reserved unknown low =>
    obtain ⟨id, type⟩ := ASdu.eq_reserved_of_layout unknown low
    exact absurd type (handled id)
  | privateInformation high none =>
    obtain ⟨id, type⟩ := aSdu.aSduType.getId_ge_iff.mp high
    refine iff_of_false (fun emitted => ?_) fun can => can.1.standardized id type
    rw [sendActDect, mirrorOf, none] at emitted
    exact emitted

end Answers

/-- Of every ASDU the decoder returns, on an open, started connection without I/O errors: a
confirmation goes out and repeats it exactly if its cause is defined, it has objects, it is
short enough and the station's address fits where it was broadcast; and a termination likewise,
whatever its cause. -/
theorem answers_repeat_iff {settings : ConnectionSettings} {server : Bool} {actions : List Action}
    {ioFails : Nat → Bool} {now : Nat} {c : Connection}
    (reached : Run (Step settings server) (started settings ioFails now) actions c)
    (isOpen : c.closed = false) (isStarted : c.stopped = false) (sound : c.Sound)
    {aSduLength : Int} {octets rest : List Octet} {aSdu : ASdu}
    (decoded : ASdu.decode settings aSduLength octets = .ok (aSdu, rest))
    (handled : ∀ id, aSdu.aSduType ≠ .RESERVED id) (stationAddress : JInt) (isNegativeConfirm : Bool) :
    (EmitsIFrame settings c (sendConfirmation settings aSdu stationAddress isNegativeConfirm)
        (IsAnswer settings aSdu stationAddress (Confirms aSdu isNegativeConfirm)) ↔
      aSdu.causeOfTransmission.isSome ∧ CanBeAnswered settings aSdu stationAddress) ∧
    (EmitsIFrame settings c (sendActivationTermination settings aSdu stationAddress)
        (IsAnswer settings aSdu stationAddress Terminates) ↔
      CanBeAnswered settings aSdu stationAddress) := by
  have counting := (Bounded.of_run reached).toCounting
  obtain ⟨_, _, held⟩ := (ASdu.ensures_held aSduLength).of_ok decoded
  constructor
  · cases cause : aSdu.causeOfTransmission with
    | none =>
      refine iff_of_false (fun emitted => ?_) fun given => Bool.false_ne_true given.1
      rw [sendConfirmation, cotFrom, cause] at emitted
      exact emitted
    | some cot =>
      obtain ⟨answer, found, confirms⟩ : ∃ answer, cotFrom aSdu = .ok answer ∧
          Confirms aSdu isNegativeConfirm (some answer) isNegativeConfirm := by
        simp only [cotFrom, Confirms, cause]
        cases cot <;> exact ⟨_, rfl, by simp⟩
      rw [sendConfirmation, found]
      simp only [sendActDect_iff isOpen isStarted sound counting held handled, confirms, and_true,
        Option.isSome_some, true_and]
  · rw [sendActivationTermination, sendActDect_iff isOpen isStarted sound counting held handled]
    exact and_iff_left rfl

def sampleActivation : List Octet := [0x2d, 0x01, 0x06, 0x00, 0x01, 0x00, 0x05, 0x00, 0x00, 0x01]

def samplePrivateType : List Octet := [0xc8, 0x01, 0x06, 0x00, 0x01, 0x00, 0xff]

def sampleUndefinedCause : List Octet := [0x2d, 0x01, 0x00, 0x00, 0x01, 0x00, 0x05, 0x00, 0x00, 0x01]

theorem answers_repeat_iff_sample :
    ∃ aSdu, ASdu.decode {} 10 sampleActivation = .ok (aSdu, []) ∧
      EmitsIFrame {} (sampleState false sampleStart) (sendConfirmation {} aSdu 7 false)
        (IsAnswer {} aSdu 7 (Confirms aSdu false)) ∧
      EmitsIFrame {} (sampleState false sampleStart) (sendActivationTermination {} aSdu 7)
        (IsAnswer {} aSdu 7 Terminates) := by
  obtain ⟨aSdu, decoded, type, cause, size, address⟩ : ∃ aSdu,
      ASdu.decode {} 10 sampleActivation = .ok (aSdu, []) ∧ aSdu.aSduType = .C_SC_NA_1 ∧
      aSdu.causeOfTransmission.isSome ∧ aSdu.size {} ≤ 249 ∧ aSdu.commonAddress = 1 :=
    ⟨_, rfl, rfl, rfl, by decide +kernel, by decide⟩
  have answers := answers_repeat_iff (run_of_runActions rfl : Run (Step {} false)
    (started {} (fun _ => false) 0) sampleStart (sampleState false sampleStart)) rfl rfl (fun _ _ => rfl)
    decoded (fun id reserved => by rw [type] at reserved; cases reserved) 7 false
  have can : CanBeAnswered {} aSdu 7 := by
    refine ⟨fun id isPrivate => ?_, size, fun _ => by decide⟩
    rw [type] at isPrivate
    cases isPrivate
  exact ⟨aSdu, decoded, answers.1.mpr ⟨cause, can⟩, answers.2.mpr can⟩

/-- Neither call survives an ASDU of a private type, nor a confirmation an undefined cause. -/
theorem not_answers_repeat :
    ∃ c payload undefined, Run (Step {} false) (started {} (fun _ => false) 0) sampleStart c ∧
      c.IsOpen ∧ c.stopped = false ∧ c.Sound ∧
      ASdu.decode {} 7 samplePrivateType = .ok (payload, []) ∧
      ASdu.decode {} 10 sampleUndefinedCause = .ok (undefined, []) ∧
      (sendConfirmation {} payload 7 false).thrown c = some .nullPointerException ∧
      (sendActivationTermination {} payload 7).thrown c = some .nullPointerException ∧
      (sendConfirmation {} undefined 7 false).thrown c = some .nullPointerException ∧
      ¬ EmitsIFrame {} c (sendConfirmation {} payload 7 false)
        (IsAnswer {} payload 7 (Confirms payload false)) :=
  ⟨sampleState false sampleStart, _, _, run_of_runActions rfl, ⟨rfl, rfl⟩, rfl, fun _ _ => rfl, rfl, rfl,
    rfl, rfl, rfl, fun emitted => emitted⟩

end Connection

end J60870
