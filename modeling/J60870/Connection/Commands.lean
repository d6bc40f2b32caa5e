import J60870.Connection.Sending
import J60870.RoundTrip

namespace J60870

open Lib Method

/-- The elements of a class. -/
abbrev ElementClass.Element (c : ElementClass) : Type := { e : InformationElement // e.getClass = c }

@[simp]
theorem ElementClass.Element.getClass {c : ElementClass} (e : c.Element) : e.1.getClass = c := e.2

/-- How a type is decoded whose objects have one set of these classes, or none. -/
def SetLayout.ofSet : List ElementClass → SetLayout
  | [] => .empty
  | set => .single set

/-- What one of the methods sends: the elements are those that its type is decoded with. -/
structure Command where
  typeId : ASduType
  cot : Option CauseOfTransmission
  commonAddress : JInt
  informationObjectAddress : JInt
  elements : List InformationElement
  decoded : layoutOf typeId = some (.ofSet (elements.map InformationElement.getClass))

namespace Command

open ElementClass

/-- `new ASdu(typeId, false, cot, false, false, originatorAddress, commonAddress, new
InformationObject(informationObjectAddress, elements))`, but for the originator address, which the
methods all take from the connection. -/
def of (typeId : ASduType) (cot : Option CauseOfTransmission) (commonAddress informationObjectAddress : JInt)
    (elements : List InformationElement)
    (decoded : layoutOf typeId = some (.ofSet (elements.map InformationElement.getClass)) := by
      simp [layoutOf, SetLayout.ofSet]) : Command :=
  ⟨typeId, cot, commonAddress, informationObjectAddress, elements, decoded⟩

section Methods

variable (commonAddress : JInt) (cot : Option CauseOfTransmission) (informationObjectAddress : JInt)

def singleCommand (singleCommand : ieSingleCommand.Element) : Command :=
  .of .C_SC_NA_1 cot commonAddress informationObjectAddress [singleCommand.1]

def singleCommandWithTimeTag (singleCommand : ieSingleCommand.Element) (timeTag : ieTime56.Element)
    : Command :=
  .of .C_SC_TA_1 cot commonAddress informationObjectAddress [singleCommand.1, timeTag.1]

def doubleCommand (doubleCommand : ieDoubleCommand.Element) : Command :=
  .of .C_DC_NA_1 cot commonAddress informationObjectAddress [doubleCommand.1]

def doubleCommandWithTimeTag (doubleCommand : ieDoubleCommand.Element) (timeTag : ieTime56.Element)
    : Command :=
  .of .C_DC_TA_1 cot commonAddress informationObjectAddress [doubleCommand.1, timeTag.1]

def regulatingStepCommand (regulatingStepCommand : ieRegulatingStepCommand.Element) : Command :=
  .of .C_RC_NA_1 cot commonAddress informationObjectAddress [regulatingStepCommand.1]

def regulatingStepCommandWithTimeTag (regulatingStepCommand : ieRegulatingStepCommand.Element)
    (timeTag : ieTime56.Element) : Command :=
  .of .C_RC_TA_1 cot commonAddress informationObjectAddress [regulatingStepCommand.1, timeTag.1]

def setNormalizedValueCommand (normalizedValue : ieNormalizedValue.Element)
    (qualifier : ieQualifierOfSetPointCommand.Element) : Command :=
  .of .C_SE_NA_1 cot commonAddress informationObjectAddress [normalizedValue.1, qualifier.1]

def setNormalizedValueCommandWithTimeTag (normalizedValue : ieNormalizedValue.Element)
    (qualifier : ieQualifierOfSetPointCommand.Element) (timeTag : ieTime56.Element) : Command :=
  .of .C_SE_TA_1 cot commonAddress informationObjectAddress [normalizedValue.1, qualifier.1, timeTag.1]

def setScaledValueCommand (scaledValue : ieScaledValue.Element)
    (qualifier : ieQualifierOfSetPointCommand.Element) : Command :=
  .of .C_SE_NB_1 cot commonAddress informationObjectAddress [scaledValue.1, qualifier.1]

def setScaledValueCommandWithTimeTag (scaledValue : ieScaledValue.Element)
    (qualifier : ieQualifierOfSetPointCommand.Element) (timeTag : ieTime56.Element) : Command :=
  .of .C_SE_TB_1 cot commonAddress informationObjectAddress [scaledValue.1, qualifier.1, timeTag.1]

def setShortFloatCommand (floatVal : ieShortFloat.Element)
    (qualifier : ieQualifierOfSetPointCommand.Element) : Command :=
  .of .C_SE_NC_1 cot commonAddress informationObjectAddress [floatVal.1, qualifier.1]

def setShortFloatCommandWithTimeTag (shortFloat : ieShortFloat.Element)
    (qualifier : ieQualifierOfSetPointCommand.Element) (timeTag : ieTime56.Element) : Command :=
  .of .C_SE_TC_1 cot commonAddress informationObjectAddress [shortFloat.1, qualifier.1, timeTag.1]

def bitStringCommand (binaryStateInformation : ieBinaryStateInformation.Element) : Command :=
  .of .C_BO_NA_1 cot commonAddress informationObjectAddress [binaryStateInformation.1]

def bitStringCommandWithTimeTag (binaryStateInformation : ieBinaryStateInformation.Element)
    (timeTag : ieTime56.Element) : Command :=
  .of .C_BO_TA_1 cot commonAddress informationObjectAddress [binaryStateInformation.1, timeTag.1]

def interrogation (qualifier : ieQualifierOfInterrogation.Element) : Command :=
  .of .C_IC_NA_1 cot commonAddress 0 [qualifier.1]

def counterInterrogation (qualifier : ieQualifierOfCounterInterrogation.Element) : Command :=
  .of .C_CI_NA_1 cot commonAddress 0 [qualifier.1]

def readCommand : Command :=
  .of .C_RD_NA_1 (some .request) commonAddress informationObjectAddress []

def synchronizeClocks (time : ieTime56.Element) : Command :=
  .of .C_CS_NA_1 (some .activation) commonAddress 0 [time.1]

def testCommand : Command :=
  .of .C_TS_NA_1 (some .activation) commonAddress 0 [.ieFixedTestBitPattern] rfl

def resetProcessCommand (qualifier : ieQualifierOfResetProcessCommand.Element) : Command :=
  .of .C_RP_NA_1 (some .activation) commonAddress 0 [qualifier.1]

def delayAcquisitionCommand (time : ieTime16.Element) : Command :=
  .of .C_CD_NA_1 cot commonAddress 0 [time.1]

def testCommandWithTimeTag (testSequenceCounter : ieTestSequenceCounter.Element) (time : ieTime56.Element)
    : Command :=
  .of .C_TS_TA_1 (some .activation) commonAddress 0 [testSequenceCounter.1, time.1]

def parameterNormalizedValueCommand (normalizedValue : ieNormalizedValue.Element)
    (qualifier : ieQualifierOfParameterOfMeasuredValues.Element) : Command :=
  .of .P_ME_NA_1 (some .activation) commonAddress informationObjectAddress
    [normalizedValue.1, qualifier.1]

def parameterScaledValueCommand (scaledValue : ieScaledValue.Element)
    (qualifier : ieQualifierOfParameterOfMeasuredValues.Element) : Command :=
  .of .P_ME_NB_1 (some .activation) commonAddress informationObjectAddress [scaledValue.1, qualifier.1]

def parameterShortFloatCommand (shortFloat : ieShortFloat.Element)
    (qualifier : ieQualifierOfParameterOfMeasuredValues.Element) : Command :=
  .of .P_ME_NC_1 (some .activation) commonAddress informationObjectAddress [shortFloat.1, qualifier.1]

def parameterActivation (qualifier : ieQualifierOfParameterActivation.Element) : Command :=
  .of .P_AC_NA_1 cot commonAddress informationObjectAddress [qualifier.1]

def fileReady (nameOfFile : ieNameOfFile.Element) (lengthOfFile : ieLengthOfFileOrSection.Element)
    (qualifier : ieFileReadyQualifier.Element) : Command :=
  .of .F_FR_NA_1 (some .fileTransfer) commonAddress informationObjectAddress
    [nameOfFile.1, lengthOfFile.1, qualifier.1]

def sectionReady (nameOfFile : ieNameOfFile.Element) (nameOfSection : ieNameOfSection.Element)
    (lengthOfSection : ieLengthOfFileOrSection.Element) (qualifier : ieSectionReadyQualifier.Element)
    : Command :=
  .of .F_SR_NA_1 (some .fileTransfer) commonAddress informationObjectAddress
    [nameOfFile.1, nameOfSection.1, lengthOfSection.1, qualifier.1]

def callOrSelectFiles (nameOfFile : ieNameOfFile.Element) (nameOfSection : ieNameOfSection.Element)
    (qualifier : ieSelectAndCallQualifier.Element) : Command :=
  .of .F_SC_NA_1 cot commonAddress informationObjectAddress [nameOfFile.1, nameOfSection.1, qualifier.1]

def lastSectionOrSegment (nameOfFile : ieNameOfFile.Element) (nameOfSection : ieNameOfSection.Element)
    (qualifier : ieLastSectionOrSegmentQualifier.Element) (checksum : ieChecksum.Element) : Command :=
  .of .F_LS_NA_1 (some .fileTransfer) commonAddress informationObjectAddress
    [nameOfFile.1, nameOfSection.1, qualifier.1, checksum.1]

def ackFileOrSection (nameOfFile : ieNameOfFile.Element) (nameOfSection : ieNameOfSection.Element)
    (qualifier : ieAckFileOrSectionQualifier.Element) : Command :=
  .of .F_AF_NA_1 (some .fileTransfer) commonAddress informationObjectAddress
    [nameOfFile.1, nameOfSection.1, qualifier.1]

def sendSegment (nameOfFile : ieNameOfFile.Element) (nameOfSection : ieNameOfSection.Element)
    (segment : ieFileSegment.Element) : Command :=
  .of .F_SG_NA_1 (some .fileTransfer) commonAddress informationObjectAddress
    [nameOfFile.1, nameOfSection.1, segment.1]

def queryLog (nameOfFile : ieNameOfFile.Element) (rangeStartTime rangeEndTime : ieTime56.Element)
    : Command :=
  .of .F_SC_NB_1 (some .fileTransfer) commonAddress informationObjectAddress
    [nameOfFile.1, rangeStartTime.1, rangeEndTime.1]

end Methods

def aSdu (originatorAddress : JInt) (command : Command) : ASdu :=
  ⟨command.typeId, false, command.cot, false, false, originatorAddress, command.commonAddress,
    some [⟨command.informationObjectAddress, [command.elements]⟩], none, 1⟩

theorem standardized_aSdu (originatorAddress : JInt) (command : Command) :
    ASdu.standardized command.typeId false command.cot false false originatorAddress command.commonAddress
      [⟨command.informationObjectAddress, [command.elements]⟩] = .ok (command.aSdu originatorAddress) :=
  rfl

def sentBy (settings : ConnectionSettings) (originatorAddress : JInt) (command : Command) :
    Connection.Body Unit :=
  Connection.send settings (command.aSdu originatorAddress)

/-- What a method is called with is in range. -/
structure InRange (settings : ConnectionSettings) (command : Command) : Prop where
  cot : command.cot.isSome
  commonAddress : command.commonAddress.toNat < 2 ^ (8 * settings.commonAddressFieldLength)
  informationObjectAddress : command.informationObjectAddress.toNat < 2 ^ (8 * settings.ioaFieldLength)
  elements : ∀ e ∈ command.elements, e.InRange

/-- The sets the type is decoded with: none if there is nothing in it, where the constructor has one. -/
def sets (command : Command) : List (List InformationElement) :=
  if command.elements = [] then [] else [command.elements]

/-- The ASDU with the sets that its type is decoded with. -/
def standard (originatorAddress : JInt) (command : Command) : ASdu :=
  { command.aSdu originatorAddress with
    informationObjects := some [⟨command.informationObjectAddress, command.sets⟩] }

variable {settings : ConnectionSettings} {command : Command} {originatorAddress : JInt}

theorem standard_eq_aSdu (elements : command.elements ≠ []) :
    command.standard originatorAddress = command.aSdu originatorAddress := by
  rw [standard, sets, if_neg elements]
  rfl

theorem wire_standard : (command.standard originatorAddress).wire settings =
    (command.aSdu originatorAddress).wire settings := by
  have flat : command.sets.flatten = command.elements := by
    rw [sets]
    split <;> simp [*]
  have contents : (command.standard originatorAddress).contentsWire settings =
      (command.aSdu originatorAddress).contentsWire settings := by
    simp [ASdu.contentsWire, standard, aSdu, InformationObject.wire, flat]
  rw [ASdu.wire, ASdu.wire, contents]
  rfl

theorem InRange.wellShaped (inRange : command.InRange settings) (originator : originatorAddress.toNat < 2 ^ 8) :
    (command.standard originatorAddress).WellShaped settings := by
  refine ⟨inRange.cot, fun _ => originator, inRange.commonAddress, ?_⟩
  refine .objects _ _ command.decoded rfl ⟨rfl, rfl⟩ rfl (by simp) ?_
  rw [List.forall_mem_singleton]
  refine ⟨inRange.informationObjectAddress, ?_⟩
  by_cases none : command.elements = []
  · simp [sets, none, SetLayout.ofSet, InformationObject.SetsFit]
  · obtain ⟨e, others, found⟩ := List.exists_cons_of_ne_nil none
    have fits : InformationObject.SetFits (command.elements.map InformationElement.getClass) command.elements :=
      ⟨rfl, inRange.elements⟩
    rw [found] at fits
    simp only [sets, found, reduceCtorEq, if_false]
    exact ⟨_, rfl, fits⟩

theorem wire_length_le {e : InformationElement} (short : e.getClass ≠ .ieFileSegment) : e.wire.length ≤ 7 := by
  cases e <;> simp_all [InformationElement.wire, InformationElement.getClass, octets]

theorem elements_length_le (command : Command) : command.elements.length ≤ 4 := by
  have decoded := command.decoded
  generalize sets : command.elements.map InformationElement.getClass = classes at decoded
  have length : command.elements.length = classes.length := by
    rw [← sets, List.length_map]
  rw [length]
  generalize command.typeId = type at decoded
  rcases classes with _ | ⟨a, _ | ⟨b, _ | ⟨c, _ | ⟨d, _ | ⟨e, others⟩⟩⟩⟩⟩ <;> simp
  cases type <;> simp [layoutOf, SetLayout.ofSet] at decoded

/-- Without a file segment an ASDU is far from the limit. -/
theorem wire_length_of_no_segment (none : ∀ e ∈ command.elements, e.getClass ≠ .ieFileSegment) :
    ((command.aSdu originatorAddress).wire settings).length ≤ 249 := by
  have each : ∀ elements : List InformationElement, (∀ e ∈ elements, e.getClass ≠ .ieFileSegment) →
      (elements.flatMap InformationElement.wire).length ≤ 7 * elements.length := by
    intro elements none
    induction elements with
    | nil => exact Nat.le_refl _
    | cons e others ih =>
      have first := wire_length_le (none e (by simp))
      have rest := ih fun e member => none e (by simp [member])
      rw [List.flatMap_cons, List.length_append, List.length_cons]
      omega
  have elements := each command.elements none
  have few := command.elements_length_le
  have ioa := settings.ioa_range
  have addresses : ((command.aSdu originatorAddress).addresses settings).length ≤ 3 := by
    rw [ASdu.addresses]
    split <;> split <;> simp
  have cause : (command.aSdu originatorAddress).causeWire.length ≤ 1 := by
    rw [ASdu.causeWire]
    cases (command.aSdu originatorAddress).causeOfTransmission <;> simp
  have object : ((command.aSdu originatorAddress).contentsWire settings).length ≤ 31 := by
    simp only [ASdu.contentsWire, aSdu, List.flatMap_cons, List.flatMap_nil, List.append_nil,
      InformationObject.wire, List.flatten_cons, List.flatten_nil, List.length_append, octets, List.length_map,
      List.length_range]
    omega
  simp only [ASdu.wire, List.length_append, List.length_singleton]
  omega

/-- The octets are decoded, to the last one, to an I frame with this ASDU. -/
def DecodedTo (settings : ConnectionSettings) (aSdu : ASdu) (octets : List Octet) : Prop :=
  ∃ sendSeqNum receiveSeqNum,
    APdu.decode settings octets = .ok (.iFormat sendSeqNum receiveSeqNum aSdu, [])

/-- On an open, started connection without I/O errors every method that is called with values in
range sends one I frame, and the other side decodes the ASDU with the sets of its type, exactly if the
ASDU has at most 249 octets: which all have but long file segments. -/
theorem arrives_iff {server : Bool} {actions : List Connection.Action} {ioFails : Nat → Bool} {now : Nat}
    {c : Connection}
    (reached : Run (Connection.Step settings server) (.started settings ioFails now) actions c)
    (isOpen : c.closed = false) (isStarted : c.stopped = false) (sound : c.Sound)
    (inRange : command.InRange settings) (originator : originatorAddress.toNat < 2 ^ 8) :
    (Connection.EmitsIFrame settings c (command.sentBy settings originatorAddress)
        (DecodedTo settings ((command.standard originatorAddress).received settings)) ↔
      ((command.aSdu originatorAddress).wire settings).length ≤ 249) ∧
    ((∀ e ∈ command.elements, e.getClass ≠ .ieFileSegment) →
      ((command.aSdu originatorAddress).wire settings).length ≤ 249) := by
  refine ⟨?_, wire_length_of_no_segment⟩
  have bounded := Connection.Bounded.of_run reached
  have shaped := inRange.wellShaped originator
  have encodable : (command.aSdu originatorAddress).Encodable := by
    refine ⟨inRange.cot, List.forall_mem_singleton.mpr fun e member => ?_⟩
    rw [List.flatten_singleton] at member
    exact (inRange.elements e member).inWidth.encodable
  rw [sentBy]
  constructor
  · intro emitted
    by_contra long
    refine Connection.not_emitsIFrame_of_unfit isOpen isStarted sound ?_ _ emitted
    rintro ⟨-, fits⟩
    omega
  · intro short
    have fits : (command.aSdu originatorAddress).Fits settings := ⟨encodable, by omega⟩
    rw [Connection.emitsIFrame_send_iff isOpen isStarted sound fits]
    have yields := ASdu.yields_decode shaped
    rw [wire_standard] at yields
    have read := APdu.yields_iFormat c.sendSequenceNumber c.receiveSequenceNumber _ bounded.send_lt
      bounded.receive_lt short yields []
    rw [List.append_nil] at read
    exact ⟨_, _, read⟩

def sampleSetPoint : Command :=
  setScaledValueCommandWithTimeTag 1 (some .activation) 5000 ⟨.ieScaledValue (-5), rfl⟩
    ⟨.ieQualifierOfSetPointCommand 0 true, rfl⟩ ⟨.ieTime56 (Vector.replicate 7 0), rfl⟩

theorem arrives_iff_sample :
    Connection.EmitsIFrame {} (Connection.sampleState false Connection.sampleStart)
      (sampleSetPoint.sentBy {} 0) (DecodedTo {} ((sampleSetPoint.standard 0).received {})) := by
  have inRange : sampleSetPoint.InRange {} :=
    ⟨rfl, by decide, by decide, by simp only [sampleSetPoint, setScaledValueCommandWithTimeTag, of]; decide⟩
  have arrives := arrives_iff (Connection.run_of_runActions rfl : Run (Connection.Step {} false)
    (Connection.started {} (fun _ => false) 0) Connection.sampleStart
    (Connection.sampleState false Connection.sampleStart)) rfl rfl (fun _ _ => rfl) inRange
    (show (0 : JInt).toNat < 2 ^ 8 by decide)
  exact arrives.1.mpr (arrives.2 (by decide))

end Command

end J60870
