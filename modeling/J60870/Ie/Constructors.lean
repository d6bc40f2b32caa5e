import J60870.Ie.Time

namespace J60870

/-- `IeDoubleCommand.DoubleCommandState` -/
inductive DoubleCommandState
  | notPermittedA | off | on | notPermittedB
  deriving DecidableEq, Repr

def DoubleCommandState.values : List DoubleCommandState := [.notPermittedA, .off, .on, .notPermittedB]

def DoubleCommandState.getId : DoubleCommandState → JInt
  | .notPermittedA => 0 | .off => 1 | .on => 2 | .notPermittedB => 3

def DoubleCommandState.getInstance (id : JInt) : Option DoubleCommandState :=
  values.find? fun state => state.getId == id

/-- `IeRegulatingStepCommand.StepCommandState` -/
inductive StepCommandState
  | notPermittedA | nextStepLower | nextStepHigher | notPermittedB
  deriving DecidableEq, Repr

def StepCommandState.values : List StepCommandState :=
  [.notPermittedA, .nextStepLower, .nextStepHigher, .notPermittedB]

def StepCommandState.getId : StepCommandState → JInt
  | .notPermittedA => 0 | .nextStepLower => 1 | .nextStepHigher => 2 | .notPermittedB => 3

def StepCommandState.getInstance (id : JInt) : Option StepCommandState :=
  values.find? fun state => state.getId == id

/-- A call of a public constructor with integer arguments. -/
inductive ConstructorCall
  | ieAckFileOrSectionQualifier (action notice : JInt)
  | ieBinaryCounterReading (counterReading sequenceNumber : JInt)
      (flags : Finset BinaryCounterReadingFlag)
  | ieBinaryStateInformation (value : JInt)
  | ieCauseOfInitialization (value : JInt) (initAfterParameterChange : Bool)
  | ieChecksum (value : JInt)
  | ieDoubleCommand (commandState : DoubleCommandState) (qualifier : JInt) (select : Bool)
  | ieFileReadyQualifier (value : JInt) (negativeConfirm : Bool)
  | ieFileSegment (segment : List Octet) (offset length : JInt)
  | ieLastSectionOrSegmentQualifier (value : JInt)
  | ieLengthOfFileOrSection (value : JInt)
  | ieNameOfFile (value : JInt)
  | ieNameOfSection (value : JInt)
  | ieNormalizedValue (value : JInt)
  | ieQualifierOfCounterInterrogation (request freeze : JInt)
  | ieQualifierOfInterrogation (value : JInt)
  | ieQualifierOfParameterActivation (value : JInt)
  | ieQualifierOfParameterOfMeasuredValues (kindOfParameter : JInt) (change notInOperation : Bool)
  | ieQualifierOfResetProcessCommand (value : JInt)
  | ieQualifierOfSetPointCommand (ql : JInt) (select : Bool)
  | ieRegulatingStepCommand (commandState : StepCommandState) (qualifier : JInt) (select : Bool)
  | ieScaledValue (value : JInt)
  | ieSectionReadyQualifier (value : JInt) (sectionNotReady : Bool)
  | ieSelectAndCallQualifier (action notice : JInt)
  | ieSingleCommand (commandStateOn : Bool) (qualifier : JInt) (select : Bool)
  | ieStatusAndStatusChanges (value : JInt)
  | ieStatusOfFile (status : JInt) (flags : Finset StatusOfFileFlag)
  | ieTestSequenceCounter (value : JInt)
  | ieTime16 (timeInMs : JInt)
  | ieTime24 (timeInMs : JInt)
  | ieValueWithTransientState (value : JInt) (transientState : Bool)
  deriving DecidableEq

/-- The check of the constructors that have one. -/
def checkRange (value : JInt) (lower upper : Int) (message : String) : Except JavaException Unit :=
  if value.toInt < lower ∨ upper < value.toInt then throw (.illegalArgumentException message)
  else pure ()

/-- The constructor of `IeAbstractQualifierOfCommand`. -/
def qualifierOfCommand (qualifier : JInt) (select : Bool) : Except JavaException JInt := do
  checkRange qualifier 0 31 s!"Qualifier is out of bound: {qualifier.toInt}"
  let value := qualifier <<< 2
  return if select then value ||| 0x80 else value

/-- The constructor of `IeNormalizedValue` and `IeScaledValue`. -/
def normalizedValue (value : JInt) : Except JavaException JInt := do
  checkRange value (-32768) 32767 "Value has to be in the range -32768..32767"
  return value

namespace ConstructorCall

def construct : ConstructorCall → Except JavaException InformationElement
  | ieAckFileOrSectionQualifier action notice => return .ieAckFileOrSectionQualifier action notice
  | ieBinaryCounterReading counterReading sequenceNumber flags =>
    return .ieBinaryCounterReading counterReading sequenceNumber flags
  | ieBinaryStateInformation value => return .ieBinaryStateInformation value
  | ieCauseOfInitialization value initAfterParameterChange => do
    checkRange value 0 127 "Value has to be in the range 0..127"
    return .ieCauseOfInitialization value initAfterParameterChange
  | ieChecksum value => return .ieChecksum value
  | ieDoubleCommand commandState qualifier select =>
    return .ieDoubleCommand ((← qualifierOfCommand qualifier select) ||| commandState.getId)
  | ieFileReadyQualifier value negativeConfirm => return .ieFileReadyQualifier value negativeConfirm
  | ieFileSegment segment offset length => return .ieFileSegment segment offset length
  | ieLastSectionOrSegmentQualifier value => return .ieLastSectionOrSegmentQualifier value
  | ieLengthOfFileOrSection value => return .ieLengthOfFileOrSection value
  | ieNameOfFile value => return .ieNameOfFile value
  | ieNameOfSection value => return .ieNameOfSection value
  | ieNormalizedValue value => return .ieNormalizedValue (← normalizedValue value)
  | ieQualifierOfCounterInterrogation request freeze =>
    return .ieQualifierOfCounterInterrogation request freeze
  | ieQualifierOfInterrogation value => return .ieQualifierOfInterrogation value
  | ieQualifierOfParameterActivation value => return .ieQualifierOfParameterActivation value
  | ieQualifierOfParameterOfMeasuredValues kindOfParameter change notInOperation =>
    return .ieQualifierOfParameterOfMeasuredValues kindOfParameter change notInOperation
  | ieQualifierOfResetProcessCommand value => return .ieQualifierOfResetProcessCommand value
  | ieQualifierOfSetPointCommand ql select => return .ieQualifierOfSetPointCommand ql select
  | ieRegulatingStepCommand commandState qualifier select =>
    return .ieRegulatingStepCommand ((← qualifierOfCommand qualifier select) ||| commandState.getId)
  | ieScaledValue value => return .ieScaledValue (← normalizedValue value)
  | ieSectionReadyQualifier value sectionNotReady =>
    return .ieSectionReadyQualifier value sectionNotReady
  | ieSelectAndCallQualifier action notice => return .ieSelectAndCallQualifier action notice
  | ieSingleCommand commandStateOn qualifier select => do
    let value ← qualifierOfCommand qualifier select
    return .ieSingleCommand (if commandStateOn then value ||| 0x01 else value)
  | ieStatusAndStatusChanges value => return .ieStatusAndStatusChanges value
  | ieStatusOfFile status flags => return .ieStatusOfFile status flags
  | ieTestSequenceCounter value => do
    checkRange value 0 65535 "Value has to be in the range 0..65535"
    return .ieTestSequenceCounter value
  | ieTime16 timeInMs => return .ieTime16 (IeTime16.ofTimeInMs timeInMs)
  | ieTime24 timeInMs => return .ieTime24 (IeTime24.ofTimeInMs timeInMs)
  | ieValueWithTransientState value transientState => do
    checkRange value (-64) 63 "Value has to be in the range -64..63"
    return .ieValueWithTransientState value transientState

end ConstructorCall

/-- The getters of these classes, by name; some take a position. -/
inductive Getter
  | getBinaryState (position : Nat) | getCommandState | getCounterReading | getFlags | getFreeze
  | getKindOfParameter | getQl | getQualifier | getRequest | getSegment | getSequenceNumber | getStatus
  | getStatusAt (position : Nat) | getTimeInMs | getTransientState | getUnnormalizedValue | getValue
  | getValueAsByteArray | hasStatusChanged (position : Nat) | isChange | isCommandStateOn
  | isInitAfterParameterChange | isNegativeConfirm | isNotInOperation | isSectionNotReady | isSelect
  deriving DecidableEq, Repr

inductive GetterValue
  | int (value : JInt)
  | boolean (value : Bool)
  | bytes (value : List Octet)
  | counterReadingFlags (value : Finset BinaryCounterReadingFlag)
  | statusOfFileFlags (value : Finset StatusOfFileFlag)
  | doubleCommandState (value : Option DoubleCommandState)
  | stepCommandState (value : Option StepCommandState)
  deriving DecidableEq

/-- `((value >> shift) & 0x01) == 0x01`, where Java takes the shift modulo 32. -/
def bitAt (value : JInt) (shift : Int) : Bool := hasMask (value.sshiftRight (shift % 32).toNat) 0x01

/-- The getters of `IeAbstractQualifierOfCommand`. -/
def commandGetters (value : JInt) : List (Getter × GetterValue) :=
  [(.isSelect, .boolean (hasMask value 0x80)),
    (.getQualifier, .int (value.sshiftRight 2 &&& 0x1f))]

/-- What the getters of an element return, for every position where they take one. Of the classes
without a constructor of integers nothing is asked. -/
def InformationElement.getters : InformationElement → List (Getter × GetterValue)
  | .ieAckFileOrSectionQualifier action notice | .ieSelectAndCallQualifier action notice =>
    [(.getRequest, .int action), (.getFreeze, .int notice)]
  | .ieBinaryCounterReading counterReading sequenceNumber flags =>
    [(.getCounterReading, .int counterReading), (.getSequenceNumber, .int sequenceNumber),
      (.getFlags, .counterReadingFlags flags)]
  | .ieBinaryStateInformation value =>
    [(.getValue, .int value),
      (.getValueAsByteArray, .bytes [toByte (value.sshiftRight 24), toByte (value.sshiftRight 16),
        toByte (value.sshiftRight 8), toByte value])] ++
      (List.range 32).map fun i => (.getBinaryState (i + 1), .boolean (bitAt value i))
  | .ieCauseOfInitialization value initAfterParameterChange =>
    [(.getValue, .int value), (.isInitAfterParameterChange, .boolean initAfterParameterChange)]
  | .ieChecksum value | .ieLastSectionOrSegmentQualifier value | .ieLengthOfFileOrSection value
  | .ieNameOfFile value | .ieNameOfSection value | .ieQualifierOfInterrogation value
  | .ieQualifierOfParameterActivation value | .ieQualifierOfResetProcessCommand value
  | .ieTestSequenceCounter value => [(.getValue, .int value)]
  | .ieDoubleCommand value =>
    (.getCommandState, .doubleCommandState (DoubleCommandState.getInstance (value &&& 0x03))) ::
      commandGetters value
  | .ieFileReadyQualifier value negativeConfirm =>
    [(.getValue, .int value), (.isNegativeConfirm, .boolean negativeConfirm)]
  | .ieFileSegment segment _ _ => [(.getSegment, .bytes segment)]
  | .ieNormalizedValue value | .ieScaledValue value => [(.getUnnormalizedValue, .int value)]
  | .ieQualifierOfCounterInterrogation request freeze =>
    [(.getRequest, .int request), (.getFreeze, .int freeze)]
  | .ieQualifierOfParameterOfMeasuredValues kindOfParameter change notInOperation =>
    [(.getKindOfParameter, .int kindOfParameter), (.isChange, .boolean change),
      (.isNotInOperation, .boolean notInOperation)]
  | .ieQualifierOfSetPointCommand ql select => [(.getQl, .int ql), (.isSelect, .boolean select)]
  | .ieRegulatingStepCommand value =>
    (.getCommandState, .stepCommandState (StepCommandState.getInstance (value &&& 0x03))) ::
      commandGetters value
  | .ieSectionReadyQualifier value sectionNotReady =>
    [(.getValue, .int value), (.isSectionNotReady, .boolean sectionNotReady)]
  | .ieSingleCommand value =>
    (.isCommandStateOn, .boolean (hasMask value 0x01)) :: commandGetters value
  | .ieStatusAndStatusChanges value =>
    (.getValue, .int value) ::
      ((List.range 16).map fun i => (.getStatusAt (i + 1), .boolean (bitAt value (i + 1 - 17)))) ++
      (List.range 16).map fun i => (.hasStatusChanged (i + 1), .boolean (bitAt value i))
  | .ieStatusOfFile status flags => [(.getStatus, .int status), (.getFlags, .statusOfFileFlags flags)]
  | .ieTime16 value => [(.getTimeInMs, .int (IeTime16.getTimeInMs value))]
  | .ieTime24 value => [(.getTimeInMs, .int (IeTime24.getTimeInMs value))]
  | .ieValueWithTransientState value transientState =>
    [(.getValue, .int value), (.getTransientState, .boolean transientState)]
  | _ => []

end J60870
