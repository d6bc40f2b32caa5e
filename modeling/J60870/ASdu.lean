import J60870.CauseOfTransmission
import J60870.Settings

namespace J60870

open Lib

/-- The application service data unit. A missing cause or content is Java's
`null`. -/
structure ASdu where
  aSduType : ASduType
  isSequenceOfElements : Bool
  causeOfTransmission : Option CauseOfTransmission
  test : Bool
  negativeConfirm : Bool
  originatorAddress : JInt
  commonAddress : JInt
  informationObjects : Option (List InformationObject)
  privateInformation : Option (List Octet)
  sequenceLength : JInt
  deriving DecidableEq

namespace ASdu

/-- The constructor for standardized ASDUs. -/
def standardized (typeId : ASduType) (isSequenceOfElements : Bool)
    (causeOfTransmission : Option CauseOfTransmission) (test negativeConfirm : Bool)
    (originatorAddress commonAddress : JInt) (informationObjects : List InformationObject) :
    Except JavaException ASdu := do
  let sequenceLength ←
    if isSequenceOfElements then
      match informationObjects with
      | first :: _ => pure first.informationElements.length
      | [] => throw .arrayIndexOutOfBoundsException
    else pure informationObjects.length
  return ⟨typeId, isSequenceOfElements, causeOfTransmission, test, negativeConfirm,
    originatorAddress, commonAddress, some informationObjects, none, BitVec.ofNat 32 sequenceLength⟩

/-- The constructor for ASDUs of the private types. -/
def ofPrivate (typeId : ASduType) (isSequenceOfElements : Bool) (sequenceLength : JInt)
    (causeOfTransmission : Option CauseOfTransmission) (test negativeConfirm : Bool)
    (originatorAddress commonAddress : JInt) (privateInformation : List Octet) : ASdu :=
  ⟨typeId, isSequenceOfElements, causeOfTransmission, test, negativeConfirm, originatorAddress,
    commonAddress, none, some privateInformation, sequenceLength⟩

section Decode

variable (settings : ConnectionSettings)

/-- The originator address, −1 where the cause field has one octet. -/
def readOriginatorAddress : InputStream JInt :=
  if settings.cotFieldLength = 2 then readUnsignedByte else return -1

def readCommonAddress : InputStream JInt :=
  if settings.commonAddressFieldLength = 1 then readUnsignedByte
  else return (← readUnsignedByte) ||| ((← readUnsignedByte) <<< 8)

def readPrivateInformation (length : Int) : InputStream (List Octet) :=
  if length < 0 then throw .negativeArraySizeException else readFully length.toNat

/-- What the decrements leave of the ASDU length once the addresses are read. -/
def remainingLength (aSduLength : Int) : Int :=
  let aSduLength := if settings.cotFieldLength = 2 then aSduLength - 1 else aSduLength
  if settings.commonAddressFieldLength = 1 then aSduLength else aSduLength - 1

def decode (aSduLength : Int) : InputStream ASdu := do
  let typeIdCode ← readUnsignedByte
  match ASduType.typeFor typeIdCode.toNat with
  | none => throw (.iOException s!"Unknown Type Identification: {typeIdCode.toNat}")
  | some typeId =>
    let currentByte ← readUnsignedByte
    let isSequenceOfElements := hasMask currentByte 0x80
    let sequenceLength := currentByte &&& 0x7f
    let numberOfSequenceElements := if isSequenceOfElements then sequenceLength.toNat else 1
    let numberOfInformationObjects := if isSequenceOfElements then 1 else sequenceLength.toNat
    let currentByte ← readUnsignedByte
    let causeOfTransmission := CauseOfTransmission.causeFor (currentByte &&& 0x3f).toNat
    let test := hasMask currentByte 0x80
    let negativeConfirm := hasMask currentByte 0x40
    let originatorAddress ← readOriginatorAddress settings
    let commonAddress ← readCommonAddress settings
    if typeIdCode.toNat < 128 then
      let informationObjects ← Reader.times numberOfInformationObjects <|
        InformationObject.decode typeId numberOfSequenceElements settings.ioaFieldLength
          settings.reservedASduTypeDecoder
      liftM <| standardized typeId isSequenceOfElements causeOfTransmission test negativeConfirm
        originatorAddress commonAddress informationObjects
    else
      let privateInformation ← readPrivateInformation (remainingLength settings aSduLength - 4)
      return ofPrivate typeId isSequenceOfElements sequenceLength causeOfTransmission test
        negativeConfirm originatorAddress commonAddress privateInformation

end Decode

section Encode

variable {n : Nat} (aSdu : ASdu) (settings : ConnectionSettings)

/-- The second octet: the sequence length, with the SQ bit. -/
def qualifier : Octet :=
  if aSdu.isSequenceOfElements then toByte (aSdu.sequenceLength ||| 0x80)
  else toByte aSdu.sequenceLength

/-- The cause octet, with the test and the P/N bit. -/
def causeOctet (cause : CauseOfTransmission) : Octet :=
  let id := BitVec.ofNat 32 cause.getId
  if aSdu.test then
    if aSdu.negativeConfirm then toByte (id ||| 0xC0) else toByte (id ||| 0x80)
  else
    if aSdu.negativeConfirm then toByte (id ||| 0x40) else toByte id

/-- The octets behind the cause octet and before the contents. -/
def addresses : List Octet :=
  (if settings.cotFieldLength = 2 then [toByte aSdu.originatorAddress] else []) ++
  (toByte aSdu.commonAddress ::
    (if settings.commonAddressFieldLength = 2 then [toByte (aSdu.commonAddress.sshiftRight 8)] else []))

def encodeCause : Writer JavaException Octet n :=
  match aSdu.causeOfTransmission with
  | some cause => storeOctet (aSdu.causeOctet cause)
  | none => fun _ _ => throw .nullPointerException

def encodeContents : Writer JavaException Octet n :=
  match aSdu.informationObjects with
  | some objects => Writer.inOrder (objects.map fun object => object.encode settings.ioaFieldLength)
  | none =>
    match aSdu.privateInformation with
    | some bytes => fun buffer i => do
      let buffer ← arraycopy bytes 0 buffer i bytes.length
      return (buffer, bytes.length)
    | none => fun _ _ => throw .nullPointerException

def encode : Writer JavaException Octet n :=
  (storeOctet (BitVec.ofNat 8 aSdu.aSduType.getId)).andThen <|
  (storeOctet aSdu.qualifier).andThen <|
  aSdu.encodeCause.andThen <|
  (Writer.inOrder ((aSdu.addresses settings).map storeOctet)).andThen <|
  aSdu.encodeContents settings

def causeWire : List Octet := (aSdu.causeOfTransmission.map aSdu.causeOctet).toList

def contentsWire : List Octet :=
  match aSdu.informationObjects with
  | some objects => objects.flatMap fun object => object.wire settings.ioaFieldLength
  | none => aSdu.privateInformation.getD []

/-- The octets an ASDU stands for. -/
def wire : List Octet :=
  [BitVec.ofNat 8 aSdu.aSduType.getId] ++ ([aSdu.qualifier] ++ (aSdu.causeWire ++
    (aSdu.addresses settings ++ aSdu.contentsWire settings)))

/-- There is a cause, there are contents, and each of these can be encoded. -/
def Encodable : Prop :=
  aSdu.causeOfTransmission.isSome ∧
  match aSdu.informationObjects with
  | some objects => ∀ object ∈ objects, object.Encodable
  | none => aSdu.privateInformation.isSome

instance : DecidablePred Encodable := fun aSdu => by unfold Encodable; split <;> infer_instance

theorem lays_encodeCause (given : aSdu.causeOfTransmission.isSome) :
    Lays (aSdu.encodeCause (n := n)) aSdu.causeWire := by
  obtain ⟨cause, found⟩ := Option.isSome_iff_exists.mp given
  simp only [encodeCause, causeWire, found]
  exact lays_storeOctet _

private theorem lays_bytes (bytes : List Octet) :
    Lays (fun buffer i => do
      let buffer ← arraycopy bytes 0 buffer i bytes.length
      return (buffer, bytes.length) : Writer JavaException Octet n) bytes where
  fits buffer i fits := by
    have all : (bytes.drop (0 : Int).toNat).take (bytes.length : Int).toNat = bytes := by simp
    rw [arraycopy, if_neg (by omega), all]
    rfl
  overflows buffer i _ full :=
    ⟨.arrayIndexOutOfBoundsException, by rw [arraycopy, if_pos (by omega)]; rfl⟩

theorem lays_encodeContents (encodable : aSdu.Encodable) :
    Lays (aSdu.encodeContents settings (n := n)) (aSdu.contentsWire settings) := by
  obtain ⟨_, inside⟩ := encodable
  simp only [encodeContents, contentsWire]
  cases contents : aSdu.informationObjects with
  | some objects =>
    simp only [contents] at inside
    exact Lays.inOrder fun object member => object.lays_encode settings.ioaFieldLength
      settings.ioa_range.1 settings.ioa_range.2 (inside object member)
  | none =>
    simp only [contents] at inside
    obtain ⟨bytes, found⟩ := Option.isSome_iff_exists.mp inside
    simp only [found]
    exact lays_bytes bytes

theorem lays_encode (encodable : aSdu.Encodable) :
    Lays (aSdu.encode settings (n := n)) (aSdu.wire settings) := by
  have addresses : Lays (Writer.inOrder ((aSdu.addresses settings).map storeOctet) (n := n))
      ((aSdu.addresses settings).flatMap fun b => [b]) :=
    Lays.inOrder fun b _ => lays_storeOctet b
  rw [List.flatMap_singleton'] at addresses
  exact (lays_storeOctet _).andThen <| (lays_storeOctet _).andThen <|
    (aSdu.lays_encodeCause encodable.1).andThen <|
    addresses.andThen (aSdu.lays_encodeContents settings encodable)

/-- Without a cause, without contents, or with an element that cannot be encoded,
no buffer is long enough. -/
theorem refuses_encode (impossible : ¬ aSdu.Encodable) :
    Refuses (aSdu.encode settings (n := n)) := by
  refine Refuses.andThen_right _ (Refuses.andThen_right _ ?_)
  by_cases given : aSdu.causeOfTransmission.isSome
  · refine Refuses.andThen_right _ (Refuses.andThen_right _ ?_)
    have inside : ¬ (match aSdu.informationObjects with
        | some objects => ∀ object ∈ objects, object.Encodable
        | none => aSdu.privateInformation.isSome) := fun inside => impossible ⟨given, inside⟩
    unfold encodeContents
    cases contents : aSdu.informationObjects with
    | some objects =>
      simp only [contents, not_forall] at inside
      obtain ⟨object, member, refused⟩ := inside
      exact Refuses.inOrder (List.mem_map_of_mem member)
        (object.refuses_encode settings.ioaFieldLength refused)
    | none =>
      simp only [contents, Option.not_isSome_iff_eq_none] at inside
      simp only [inside]
      exact fun _ _ => ⟨_, rfl⟩
  · rw [Option.not_isSome_iff_eq_none] at given
    refine Refuses.andThen_left ?_ _
    simp only [encodeCause, given]
    exact fun _ _ => ⟨_, rfl⟩

end Encode

end ASdu

end J60870
