import J60870.Java
import Mathlib.Data.Finset.Dedup

/-! The information elements of the package `ie`: the fields each class keeps,
how it is encoded into a buffer and how it is decoded from a stream. -/

namespace J60870

open Lib

/-- `IeBinaryCounterReading.Flag` -/
inductive BinaryCounterReadingFlag
  | carry | counterAdjusted | invalid
  deriving DecidableEq, Repr

def BinaryCounterReadingFlag.values : List BinaryCounterReadingFlag :=
  [.carry, .counterAdjusted, .invalid]

def BinaryCounterReadingFlag.mask : BinaryCounterReadingFlag → JInt
  | .carry => 0x20 | .counterAdjusted => 0x40 | .invalid => 0x80

/-- `IeStatusOfFile.Flag` -/
inductive StatusOfFileFlag
  | lastFileOfDirectory | nameDefinesDirectory | transferIsActive
  deriving DecidableEq, Repr

def StatusOfFileFlag.values : List StatusOfFileFlag :=
  [.lastFileOfDirectory, .nameDefinesDirectory, .transferIsActive]

def StatusOfFileFlag.mask : StatusOfFileFlag → JInt
  | .lastFileOfDirectory => 0x20 | .nameDefinesDirectory => 0x40 | .transferIsActive => 0x80

/-- `flagsFor` of both enumerations: the flags whose mask is set. -/
def flagsFor {F : Type} [DecidableEq F] (values : List F) (mask : F → JInt) (b : JInt) : Finset F :=
  (values.filter fun flag => hasMask b (mask flag)).toFinset

/-- `for (Flag flag : flags) v |= flag.mask`, in the order of the enumeration. -/
def orFlags {F : Type} [DecidableEq F] (values : List F) (mask : F → JInt) (flags : Finset F)
    (v : Octet) : Octet :=
  values.foldl (fun v flag => if flag ∈ flags then v ||| toByte (mask flag) else v) v

/-- A `float` by its bit pattern, the argument of `Float.intBitsToFloat`. -/
structure JFloat where
  bits : JInt
  deriving DecidableEq, Repr

def JFloat.IsNaN (f : JFloat) : Prop :=
  f.bits &&& 0x7f800000 = 0x7f800000 ∧ f.bits &&& 0x007fffff ≠ 0

instance : DecidablePred JFloat.IsNaN := fun f => by unfold JFloat.IsNaN; infer_instance

/-- `Float.floatToIntBits`: every NaN becomes the canonical one. -/
def JFloat.floatToIntBits (f : JFloat) : JInt := if f.IsNaN then 0x7fc00000 else f.bits

/-- The elements with the fields their classes keep. The classes that keep the
received octet in one `int value` do so here. -/
inductive InformationElement
  | ieAckFileOrSectionQualifier (action notice : JInt)
  | ieBinaryCounterReading (counterReading sequenceNumber : JInt)
      (flags : Finset BinaryCounterReadingFlag)
  | ieBinaryStateInformation (value : JInt)
  | ieCauseOfInitialization (value : JInt) (initAfterParameterChange : Bool)
  | ieChecksum (value : JInt)
  | ieDoubleCommand (value : JInt)
  | ieDoublePointWithQuality (value : JInt)
  | ieFileReadyQualifier (value : JInt) (negativeConfirm : Bool)
  | ieFileSegment (segment : List Octet) (offset length : JInt)
  | ieFixedTestBitPattern
  | ieLastSectionOrSegmentQualifier (value : JInt)
  | ieLengthOfFileOrSection (value : JInt)
  | ieNameOfFile (value : JInt)
  | ieNameOfSection (value : JInt)
  | ieNormalizedValue (value : JInt)
  | ieProtectionOutputCircuitInformation (value : JInt)
  | ieProtectionQuality (value : JInt)
  | ieProtectionStartEvent (value : JInt)
  | ieQualifierOfCounterInterrogation (request freeze : JInt)
  | ieQualifierOfInterrogation (value : JInt)
  | ieQualifierOfParameterActivation (value : JInt)
  | ieQualifierOfParameterOfMeasuredValues (kindOfParameter : JInt) (change notInOperation : Bool)
  | ieQualifierOfResetProcessCommand (value : JInt)
  | ieQualifierOfSetPointCommand (ql : JInt) (select : Bool)
  | ieQuality (value : JInt)
  | ieRegulatingStepCommand (value : JInt)
  | ieScaledValue (value : JInt)
  | ieSectionReadyQualifier (value : JInt) (sectionNotReady : Bool)
  | ieSelectAndCallQualifier (action notice : JInt)
  | ieShortFloat (value : JFloat)
  | ieSingleCommand (value : JInt)
  | ieSinglePointWithQuality (value : JInt)
  | ieSingleProtectionEvent (value : JInt)
  | ieStatusAndStatusChanges (value : JInt)
  | ieStatusOfFile (status : JInt) (flags : Finset StatusOfFileFlag)
  | ieTestSequenceCounter (value : JInt)
  | ieTime16 (value : Vector Octet 2)
  | ieTime24 (value : Vector Octet 3)
  | ieTime56 (value : Vector Octet 7)
  | ieValueWithTransientState (value : JInt) (transientState : Bool)
  deriving DecidableEq

/-- The classes of information elements. -/
inductive ElementClass
  | ieAckFileOrSectionQualifier | ieBinaryCounterReading | ieBinaryStateInformation
  | ieCauseOfInitialization | ieChecksum | ieDoubleCommand | ieDoublePointWithQuality
  | ieFileReadyQualifier | ieFileSegment | ieFixedTestBitPattern | ieLastSectionOrSegmentQualifier
  | ieLengthOfFileOrSection | ieNameOfFile | ieNameOfSection | ieNormalizedValue
  | ieProtectionOutputCircuitInformation | ieProtectionQuality | ieProtectionStartEvent
  | ieQualifierOfCounterInterrogation | ieQualifierOfInterrogation
  | ieQualifierOfParameterActivation | ieQualifierOfParameterOfMeasuredValues
  | ieQualifierOfResetProcessCommand | ieQualifierOfSetPointCommand | ieQuality
  | ieRegulatingStepCommand | ieScaledValue | ieSectionReadyQualifier | ieSelectAndCallQualifier
  | ieShortFloat | ieSingleCommand | ieSinglePointWithQuality | ieSingleProtectionEvent
  | ieStatusAndStatusChanges | ieStatusOfFile | ieTestSequenceCounter | ieTime16 | ieTime24
  | ieTime56 | ieValueWithTransientState
  deriving DecidableEq, Repr

section Encode

variable {n : Nat}

/-- `buffer[i] = b; return 1;` -/
def storeOctet (b : Octet) : Writer JavaException Octet n := fun buffer i => do
  let buffer ← store .arrayIndexOutOfBoundsException buffer i b
  return (buffer, 1)

/-- `buffer[i] |= mask` -/
def orInto (buffer : Vector Octet n) (i : Nat) (mask : Octet) :
    Except JavaException (Vector Octet n) := do
  let b ← load .arrayIndexOutOfBoundsException buffer i
  store .arrayIndexOutOfBoundsException buffer i (b ||| mask)

/-- `System.arraycopy(src, srcPos, dest, destPos, length)` -/
def arraycopy (src : List Octet) (srcPos : Int) (dest : Vector Octet n) (destPos : Nat)
    (length : Int) : Except JavaException (Vector Octet n) :=
  if srcPos < 0 ∨ length < 0 ∨ src.length < srcPos + length ∨ n < destPos + length then
    .error .arrayIndexOutOfBoundsException
  else .ok (overwrite dest destPos ((src.drop srcPos.toNat).take length.toNat))

/-- A value in the low bits and flags above it, each set by `buffer[i] |= mask`. -/
def storeWithFlags (value : JInt) (masks : List Octet) : Writer JavaException Octet n :=
  fun buffer i => do
    let buffer ← store .arrayIndexOutOfBoundsException buffer i (toByte value)
    let buffer ← masks.foldlM (fun buffer mask => orInto buffer i mask) buffer
    return (buffer, 1)

/-- `value` most significant octet first, as `ieBinaryStateInformation` and
`ieStatusAndStatusChanges` write it. -/
def storeBigEndian (value : JInt) : Writer JavaException Octet n := fun buffer i => do
  let buffer ← store .arrayIndexOutOfBoundsException buffer i (toByte (value.sshiftRight 24))
  let buffer ← store .arrayIndexOutOfBoundsException buffer (i + 1) (toByte (value.sshiftRight 16))
  let buffer ← store .arrayIndexOutOfBoundsException buffer (i + 2) (toByte (value.sshiftRight 8))
  let buffer ← store .arrayIndexOutOfBoundsException buffer (i + 3) (toByte value)
  return (buffer, 4)

/-- The two low octets of `value`, least significant first. -/
def storeTwo (value : JInt) : Writer JavaException Octet n := fun buffer i => do
  let buffer ← store .arrayIndexOutOfBoundsException buffer i (toByte value)
  let buffer ← store .arrayIndexOutOfBoundsException buffer (i + 1) (toByte (value.sshiftRight 8))
  return (buffer, 2)

/-- The octets a time element keeps, copied as they are. -/
def storeTime {m : Nat} (value : Vector Octet m) : Writer JavaException Octet n := fun buffer i => do
  let buffer ← arraycopy value.toList 0 buffer i m
  return (buffer, m)

/-- The length octet and a stretch of the array. -/
def storeSegment (segment : List Octet) (offset length : JInt) : Writer JavaException Octet n :=
  fun buffer i => do
    let buffer ← store .arrayIndexOutOfBoundsException buffer i (toByte length)
    let buffer ← arraycopy segment offset.toInt buffer (i + 1) length.toInt
    return (buffer, length.toInt.toNat + 1)

/-- The masks of the flags in a set, in the order of the enumeration. -/
def masksOf {F : Type} [DecidableEq F] (values : List F) (mask : F → JInt) (flags : Finset F) :
    List Octet :=
  (values.filter fun flag => flag ∈ flags).map fun flag => toByte (mask flag)

def InformationElement.encode : InformationElement → Writer JavaException Octet n
  | .ieAckFileOrSectionQualifier action notice => storeOctet (toByte (action ||| (notice <<< 4)))
  | .ieBinaryCounterReading counterReading sequenceNumber flags => fun buffer i => do
    -- a little-endian ByteBuffer over the rest of the array: putInt, then put
    let buffer ← store .bufferOverflowException buffer i (toByte counterReading)
    let buffer ← store .bufferOverflowException buffer (i + 1) (toByte (counterReading.sshiftRight 8))
    let buffer ← store .bufferOverflowException buffer (i + 2) (toByte (counterReading.sshiftRight 16))
    let buffer ← store .bufferOverflowException buffer (i + 3) (toByte (counterReading.sshiftRight 24))
    let seq := orFlags BinaryCounterReadingFlag.values BinaryCounterReadingFlag.mask flags
      (toByte sequenceNumber)
    let buffer ← store .bufferOverflowException buffer (i + 4) seq
    return (buffer, 5)
  | .ieBinaryStateInformation value => storeBigEndian value
  | .ieCauseOfInitialization value initAfterParameterChange =>
    if initAfterParameterChange then storeOctet (toByte (value ||| 0x80)) else storeOctet (toByte value)
  | .ieChecksum value => storeOctet (toByte value)
  | .ieDoubleCommand value => storeOctet (toByte value)
  | .ieDoublePointWithQuality value => storeOctet (toByte value)
  | .ieFileReadyQualifier value negativeConfirm =>
    storeWithFlags value (if negativeConfirm then [0x80] else [])
  | .ieFileSegment segment offset length => storeSegment segment offset length
  | .ieFixedTestBitPattern => fun buffer i => do
    let buffer ← store .arrayIndexOutOfBoundsException buffer i 0x55
    let buffer ← store .arrayIndexOutOfBoundsException buffer (i + 1) 0xaa
    return (buffer, 2)
  | .ieLastSectionOrSegmentQualifier value => storeOctet (toByte value)
  | .ieLengthOfFileOrSection value => fun buffer i => do
    let buffer ← store .arrayIndexOutOfBoundsException buffer i (toByte value)
    let buffer ← store .arrayIndexOutOfBoundsException buffer (i + 1) (toByte (value.sshiftRight 8))
    let buffer ← store .arrayIndexOutOfBoundsException buffer (i + 2) (toByte (value.sshiftRight 16))
    return (buffer, 3)
  | .ieNameOfFile value => storeTwo value
  | .ieNameOfSection value => storeOctet (toByte value)
  | .ieNormalizedValue value => storeTwo value
  | .ieProtectionOutputCircuitInformation value => storeOctet (toByte value)
  | .ieProtectionQuality value => storeOctet (toByte value)
  | .ieProtectionStartEvent value => storeOctet (toByte value)
  | .ieQualifierOfCounterInterrogation request freeze =>
    storeOctet (toByte (request ||| (freeze <<< 6)))
  | .ieQualifierOfInterrogation value => storeOctet (toByte value)
  | .ieQualifierOfParameterActivation value => storeOctet (toByte value)
  | .ieQualifierOfParameterOfMeasuredValues kindOfParameter change notInOperation =>
    storeWithFlags kindOfParameter
      ((if change then [0x40] else []) ++ (if notInOperation then [0x80] else []))
  | .ieQualifierOfResetProcessCommand value => storeOctet (toByte value)
  | .ieQualifierOfSetPointCommand ql select => storeWithFlags ql (if select then [0x80] else [])
  | .ieQuality value => storeOctet (toByte value)
  | .ieRegulatingStepCommand value => storeOctet (toByte value)
  | .ieScaledValue value => storeTwo value
  | .ieSectionReadyQualifier value sectionNotReady =>
    storeWithFlags value (if sectionNotReady then [0x80] else [])
  | .ieSelectAndCallQualifier action notice => storeOctet (toByte (action ||| (notice <<< 4)))
  | .ieShortFloat value => fun buffer i => do
    let tempVal := value.floatToIntBits
    let buffer ← store .arrayIndexOutOfBoundsException buffer i (toByte tempVal)
    let buffer ← store .arrayIndexOutOfBoundsException buffer (i + 1) (toByte (tempVal.sshiftRight 8))
    let buffer ← store .arrayIndexOutOfBoundsException buffer (i + 2) (toByte (tempVal.sshiftRight 16))
    let buffer ← store .arrayIndexOutOfBoundsException buffer (i + 3) (toByte (tempVal.sshiftRight 24))
    return (buffer, 4)
  | .ieSingleCommand value => storeOctet (toByte value)
  | .ieSinglePointWithQuality value => storeOctet (toByte value)
  | .ieSingleProtectionEvent value => storeOctet (toByte value)
  | .ieStatusAndStatusChanges value => storeBigEndian value
  | .ieStatusOfFile status flags =>
    storeWithFlags status (masksOf StatusOfFileFlag.values StatusOfFileFlag.mask flags)
  | .ieTestSequenceCounter value => storeTwo value
  | .ieTime16 value => storeTime value
  | .ieTime24 value => storeTime value
  | .ieTime56 value => storeTime value
  | .ieValueWithTransientState value transientState =>
    if transientState then storeOctet (toByte (value ||| 0x80))
    else storeOctet (toByte (value &&& 0x7f))

end Encode

section Decode

def readInt : InputStream JInt := do
  let b1 ← readUnsignedByte
  let b2 ← readUnsignedByte
  let b3 ← readUnsignedByte
  let b4 ← readUnsignedByte
  return (b1 <<< 24) ||| (b2 <<< 16) ||| (b3 <<< 8) ||| b4

def readTime (m : Nat) : InputStream (Vector Octet m) := Reader.vector endOfStream m

/-- The value `IeNormalizedValue` and `IeScaledValue` read: the second octet is
sign extended. -/
def readNormalized : InputStream JInt := do
  let b1 ← readByte
  let b2 ← readByte
  return toInt b1 ||| ((b2.signExtend 32) <<< 8)

/-- The constructor `new Ie...(is)`, or the static method `Ie....decode(is)`, of
each class. -/
def ElementClass.decode : ElementClass → InputStream InformationElement
  | .ieAckFileOrSectionQualifier => do
    let b1 ← readUnsignedByte
    return .ieAckFileOrSectionQualifier (b1 &&& 0x0f) (b1.sshiftRight 4 &&& 0x0f)
  | .ieBinaryCounterReading => do
    let counterReading ← readOctets 4
    let b0 ← readUnsignedByte
    return .ieBinaryCounterReading counterReading (b0 &&& 0x1f)
      (flagsFor BinaryCounterReadingFlag.values BinaryCounterReadingFlag.mask b0)
  | .ieBinaryStateInformation => return .ieBinaryStateInformation (← readInt)
  | .ieCauseOfInitialization => do
    let b1 ← readUnsignedByte
    return .ieCauseOfInitialization (b1 &&& 0x7f) (hasMask b1 0x80)
  | .ieChecksum => return .ieChecksum (← readUnsignedByte)
  | .ieDoubleCommand => return .ieDoubleCommand (← readUnsignedByte)
  | .ieDoublePointWithQuality => return .ieDoublePointWithQuality (← readUnsignedByte)
  | .ieFileReadyQualifier => do
    let b1 ← readUnsignedByte
    return .ieFileReadyQualifier (b1 &&& 0x7f) (hasMask b1 0x80)
  | .ieFileSegment => do
    let length ← readUnsignedByte
    let segment ← readFully length.toNat
    return .ieFileSegment segment 0 length
  | .ieFixedTestBitPattern => do
    let first ← readUnsignedByte
    -- the second octet is read only behind a correct first one
    if first ≠ 0x55 then
      throw (.iOException "Incorrect bit pattern in Fixed Test Bit Pattern.")
    let second ← readUnsignedByte
    if second ≠ 0xaa then
      throw (.iOException "Incorrect bit pattern in Fixed Test Bit Pattern.")
    return .ieFixedTestBitPattern
  | .ieLastSectionOrSegmentQualifier => return .ieLastSectionOrSegmentQualifier (← readUnsignedByte)
  | .ieLengthOfFileOrSection => return .ieLengthOfFileOrSection (← readOctets 3)
  | .ieNameOfFile => return .ieNameOfFile (← readOctets 2)
  | .ieNameOfSection => return .ieNameOfSection (← readUnsignedByte)
  | .ieNormalizedValue => return .ieNormalizedValue (← readNormalized)
  | .ieProtectionOutputCircuitInformation =>
    return .ieProtectionOutputCircuitInformation (← readUnsignedByte)
  | .ieProtectionQuality => return .ieProtectionQuality (← readUnsignedByte)
  | .ieProtectionStartEvent => return .ieProtectionStartEvent (← readUnsignedByte)
  | .ieQualifierOfCounterInterrogation => do
    let b1 ← readUnsignedByte
    return .ieQualifierOfCounterInterrogation (b1 &&& 0x3f) (b1.sshiftRight 6 &&& 0x03)
  | .ieQualifierOfInterrogation => return .ieQualifierOfInterrogation (← readUnsignedByte)
  | .ieQualifierOfParameterActivation => return .ieQualifierOfParameterActivation (← readUnsignedByte)
  | .ieQualifierOfParameterOfMeasuredValues => do
    let b1 ← readUnsignedByte
    return .ieQualifierOfParameterOfMeasuredValues (b1 &&& 0x3f) (hasMask b1 0x40) (hasMask b1 0x80)
  | .ieQualifierOfResetProcessCommand => return .ieQualifierOfResetProcessCommand (← readUnsignedByte)
  | .ieQualifierOfSetPointCommand => do
    let b1 ← readUnsignedByte
    return .ieQualifierOfSetPointCommand (b1 &&& 0x7f) (hasMask b1 0x80)
  | .ieQuality => return .ieQuality (← readUnsignedByte)
  | .ieRegulatingStepCommand => return .ieRegulatingStepCommand (← readUnsignedByte)
  | .ieScaledValue => return .ieScaledValue (← readNormalized)
  | .ieSectionReadyQualifier => do
    let b1 ← readUnsignedByte
    return .ieSectionReadyQualifier (b1 &&& 0x7f) (hasMask b1 0x80)
  | .ieSelectAndCallQualifier => do
    let b1 ← readUnsignedByte
    return .ieSelectAndCallQualifier (b1 &&& 0x0f) (b1.sshiftRight 4 &&& 0x0f)
  | .ieShortFloat => return .ieShortFloat ⟨← readOctets 4⟩
  | .ieSingleCommand => return .ieSingleCommand (← readUnsignedByte)
  | .ieSinglePointWithQuality => return .ieSinglePointWithQuality (← readUnsignedByte)
  | .ieSingleProtectionEvent => return .ieSingleProtectionEvent (← readUnsignedByte)
  | .ieStatusAndStatusChanges => return .ieStatusAndStatusChanges (← readInt)
  | .ieStatusOfFile => do
    let b1 ← readUnsignedByte
    return .ieStatusOfFile (b1 &&& 0x1f)
      (flagsFor StatusOfFileFlag.values StatusOfFileFlag.mask b1)
  | .ieTestSequenceCounter => do
    let value ← readOctets 2
    if value.toInt < 0 ∨ 65535 < value.toInt then
      throw (.illegalArgumentException "Value has to be in the range 0..65535")
    return .ieTestSequenceCounter value
  | .ieTime16 => return .ieTime16 (← readTime 2)
  | .ieTime24 => return .ieTime24 (← readTime 3)
  | .ieTime56 => return .ieTime56 (← readTime 7)
  | .ieValueWithTransientState => do
    let b1 ← readUnsignedByte
    let value := if hasMask b1 0x40 then b1 ||| 0xffffff80 else b1 &&& 0x3f
    return .ieValueWithTransientState value (hasMask b1 0x80)

end Decode

end J60870
