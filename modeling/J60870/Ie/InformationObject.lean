import J60870.ASduType
import J60870.Ie.RoundTrip

/-! Information objects: an address and sets of information elements. The switch
of `InformationObject.decode` over the types is the table `layoutOf`. -/

namespace J60870

open Lib

structure InformationObject where
  informationObjectAddress : JInt
  informationElements : List (List InformationElement)
  deriving DecidableEq

/-- How a case of the switch reads the element sets. -/
inductive SetLayout
  /-- one set for each of the `numberOfSequenceElements` turns of a loop -/
  | looped (set : List ElementClass)
  /-- one set, whatever `numberOfSequenceElements` says -/
  | single (set : List ElementClass)
  /-- no set at all -/
  | empty
  deriving DecidableEq, Repr

/-- The cases of the switch, `none` for the default case. -/
def layoutOf : ASduType → Option SetLayout
  | .M_SP_NA_1 => some (.looped [.ieSinglePointWithQuality])
  | .M_SP_TA_1 => some (.single [.ieSinglePointWithQuality, .ieTime24])
  | .M_DP_NA_1 => some (.looped [.ieDoublePointWithQuality])
  | .M_DP_TA_1 => some (.single [.ieDoublePointWithQuality, .ieTime24])
  | .M_ST_NA_1 => some (.looped [.ieValueWithTransientState, .ieQuality])
  | .M_ST_TA_1 => some (.single [.ieValueWithTransientState, .ieQuality, .ieTime24])
  | .M_BO_NA_1 => some (.looped [.ieBinaryStateInformation, .ieQuality])
  | .M_BO_TA_1 => some (.single [.ieBinaryStateInformation, .ieQuality, .ieTime24])
  | .M_ME_NA_1 => some (.looped [.ieNormalizedValue, .ieQuality])
  | .M_ME_TA_1 => some (.single [.ieNormalizedValue, .ieQuality, .ieTime24])
  | .M_ME_NB_1 => some (.looped [.ieScaledValue, .ieQuality])
  | .M_ME_TB_1 => some (.single [.ieScaledValue, .ieQuality, .ieTime24])
  | .M_ME_NC_1 => some (.looped [.ieShortFloat, .ieQuality])
  | .M_ME_TC_1 => some (.single [.ieShortFloat, .ieQuality, .ieTime24])
  | .M_IT_NA_1 => some (.looped [.ieBinaryCounterReading])
  | .M_IT_TA_1 => some (.single [.ieBinaryCounterReading, .ieTime24])
  | .M_EP_TA_1 => some (.single [.ieSingleProtectionEvent, .ieTime16, .ieTime24])
  | .M_EP_TB_1 => some (.single [.ieProtectionStartEvent, .ieProtectionQuality, .ieTime16, .ieTime24])
  | .M_EP_TC_1 => some (.single
      [.ieProtectionOutputCircuitInformation, .ieProtectionQuality, .ieTime16, .ieTime24])
  | .M_PS_NA_1 => some (.looped [.ieStatusAndStatusChanges, .ieQuality])
  | .M_ME_ND_1 => some (.looped [.ieNormalizedValue])
  | .M_SP_TB_1 => some (.single [.ieSinglePointWithQuality, .ieTime56])
  | .M_DP_TB_1 => some (.single [.ieDoublePointWithQuality, .ieTime56])
  | .M_ST_TB_1 => some (.single [.ieValueWithTransientState, .ieQuality, .ieTime56])
  | .M_BO_TB_1 => some (.single [.ieBinaryStateInformation, .ieQuality, .ieTime56])
  | .M_ME_TD_1 => some (.single [.ieNormalizedValue, .ieQuality, .ieTime56])
  | .M_ME_TE_1 => some (.single [.ieScaledValue, .ieQuality, .ieTime56])
  | .M_ME_TF_1 => some (.single [.ieShortFloat, .ieQuality, .ieTime56])
  | .M_IT_TB_1 => some (.single [.ieBinaryCounterReading, .ieTime56])
  | .M_EP_TD_1 => some (.single [.ieSingleProtectionEvent, .ieTime16, .ieTime56])
  | .M_EP_TE_1 => some (.single [.ieProtectionStartEvent, .ieProtectionQuality, .ieTime16, .ieTime56])
  | .M_EP_TF_1 => some (.single
      [.ieProtectionOutputCircuitInformation, .ieProtectionQuality, .ieTime16, .ieTime56])
  | .C_SC_NA_1 => some (.single [.ieSingleCommand])
  | .C_DC_NA_1 => some (.single [.ieDoubleCommand])
  | .C_RC_NA_1 => some (.single [.ieRegulatingStepCommand])
  | .C_SE_NA_1 => some (.single [.ieNormalizedValue, .ieQualifierOfSetPointCommand])
  | .C_SE_NB_1 => some (.single [.ieScaledValue, .ieQualifierOfSetPointCommand])
  | .C_SE_NC_1 => some (.single [.ieShortFloat, .ieQualifierOfSetPointCommand])
  | .C_BO_NA_1 => some (.single [.ieBinaryStateInformation])
  | .C_SC_TA_1 => some (.single [.ieSingleCommand, .ieTime56])
  | .C_DC_TA_1 => some (.single [.ieDoubleCommand, .ieTime56])
  | .C_RC_TA_1 => some (.single [.ieRegulatingStepCommand, .ieTime56])
  | .C_SE_TA_1 => some (.single [.ieNormalizedValue, .ieQualifierOfSetPointCommand, .ieTime56])
  | .C_SE_TB_1 => some (.single [.ieScaledValue, .ieQualifierOfSetPointCommand, .ieTime56])
  | .C_SE_TC_1 => some (.single [.ieShortFloat, .ieQualifierOfSetPointCommand, .ieTime56])
  | .C_BO_TA_1 => some (.single [.ieBinaryStateInformation, .ieTime56])
  | .M_EI_NA_1 => some (.single [.ieCauseOfInitialization])
  | .C_IC_NA_1 => some (.single [.ieQualifierOfInterrogation])
  | .C_CI_NA_1 => some (.single [.ieQualifierOfCounterInterrogation])
  | .C_RD_NA_1 => some .empty
  | .C_CS_NA_1 => some (.single [.ieTime56])
  | .C_TS_NA_1 => some (.single [.ieFixedTestBitPattern])
  | .C_RP_NA_1 => some (.single [.ieQualifierOfResetProcessCommand])
  | .C_CD_NA_1 => some (.single [.ieTime16])
  | .C_TS_TA_1 => some (.single [.ieTestSequenceCounter, .ieTime56])
  | .P_ME_NA_1 => some (.single [.ieNormalizedValue, .ieQualifierOfParameterOfMeasuredValues])
  | .P_ME_NB_1 => some (.single [.ieScaledValue, .ieQualifierOfParameterOfMeasuredValues])
  | .P_ME_NC_1 => some (.single [.ieShortFloat, .ieQualifierOfParameterOfMeasuredValues])
  | .P_AC_NA_1 => some (.single [.ieQualifierOfParameterActivation])
  | .F_FR_NA_1 => some (.single [.ieNameOfFile, .ieLengthOfFileOrSection, .ieFileReadyQualifier])
  | .F_SR_NA_1 => some (.single
      [.ieNameOfFile, .ieNameOfSection, .ieLengthOfFileOrSection, .ieSectionReadyQualifier])
  | .F_SC_NA_1 => some (.single [.ieNameOfFile, .ieNameOfSection, .ieSelectAndCallQualifier])
  | .F_LS_NA_1 => some (.single
      [.ieNameOfFile, .ieNameOfSection, .ieLastSectionOrSegmentQualifier, .ieChecksum])
  | .F_AF_NA_1 => some (.single [.ieNameOfFile, .ieNameOfSection, .ieAckFileOrSectionQualifier])
  | .F_SG_NA_1 => some (.single [.ieNameOfFile, .ieNameOfSection, .ieFileSegment])
  | .F_DR_TA_1 => some (.looped [.ieNameOfFile, .ieLengthOfFileOrSection, .ieStatusOfFile, .ieTime56])
  | .F_SC_NB_1 => some (.single [.ieNameOfFile, .ieTime56, .ieTime56])
  | .RESERVED _ | .PRIVATE _ => none

/-- The name of the enumerators that reach the default case. -/
def ASduType.defaultName : ASduType → String
  | .RESERVED id => s!"RESERVED_{id.val}"
  | .PRIVATE id => s!"PRIVATE_{id.val}"
  | _ => ""

/-- The interface the user implements for reserved types. All its decoder can do
to the stream is to read on in it. -/
structure ReservedASduTypeDecoder where
  getSupportedTypes : List ASduType
  decode : ASduType → InputStream InformationObject
  forward : ∀ type s object rest, decode type s = .ok (object, rest) →
    ∃ n, n ≤ s.length ∧ rest = s.drop n

def decodeSet (set : List ElementClass) : InputStream (List InformationElement) :=
  set.mapM ElementClass.decode

/-- The element sets of an object, as its case of the switch reads them. -/
def SetLayout.decode (numberOfSequenceElements : Nat) :
    SetLayout → InputStream (List (List InformationElement))
  | .looped set => Reader.times numberOfSequenceElements (decodeSet set)
  | .single set => return [← decodeSet set]
  | .empty => return []

namespace InformationObject

def decode (aSduType : ASduType) (numberOfSequenceElements ioaFieldLength : Nat)
    (reservedASduTypeDecoder : Option ReservedASduTypeDecoder) : InputStream InformationObject := do
  let informationObjectAddress ← readOctets ioaFieldLength
  match layoutOf aSduType with
  | some layout => return ⟨informationObjectAddress, ← layout.decode numberOfSequenceElements⟩
  | none =>
    match reservedASduTypeDecoder with
    | some decoder =>
      if aSduType.getId ≤ 127 ∧ aSduType ∈ decoder.getSupportedTypes then
        -- the address read above goes nowhere
        decoder.decode aSduType
      else throw (unknownType aSduType)
    | none => throw (unknownType aSduType)
where
  unknownType (aSduType : ASduType) : JavaException :=
    .iOException ("Unable to parse Information Object because of unknown Type Identification: " ++
      aSduType.defaultName)

section Encode

variable {n : Nat}

/-- The address octets, as many as the field length asks for. -/
def storeAddress (address : JInt) (ioaFieldLength : Nat) : Writer JavaException Octet n :=
  let third := if 2 < ioaFieldLength then [storeOctet (toByte (address.sshiftRight 16))] else []
  let others := if 1 < ioaFieldLength then
    storeOctet (toByte (address.sshiftRight 8)) :: third else []
  Writer.inOrder (storeOctet (toByte address) :: others)

def encode (object : InformationObject) (ioaFieldLength : Nat) : Writer JavaException Octet n :=
  (storeAddress object.informationObjectAddress ioaFieldLength).andThen
    (Writer.inOrder (object.informationElements.flatten.map InformationElement.encode))

def wire (object : InformationObject) (ioaFieldLength : Nat) : List Octet :=
  octets object.informationObjectAddress ioaFieldLength ++
    object.informationElements.flatten.flatMap InformationElement.wire

def Encodable (object : InformationObject) : Prop :=
  ∀ e ∈ object.informationElements.flatten, e.Encodable

instance : DecidablePred Encodable := fun object => by unfold Encodable; infer_instance

theorem lays_storeAddress (address : JInt) (ioaFieldLength : Nat) (least : 1 ≤ ioaFieldLength)
    (most : ioaFieldLength ≤ 3) :
    Lays (storeAddress address ioaFieldLength : Writer JavaException Octet n)
      (octets address ioaFieldLength) := by
  have first : Lays (n := n) (storeOctet (toByte address)) [octet address 0] := by
    rw [← toByte_eq_octet]
    exact lays_storeOctet _
  have second : Lays (n := n) (storeOctet (toByte (address.sshiftRight 8))) [octet address 1] := by
    rw [← toByte_sshiftRight_eight]
    exact lays_storeOctet _
  have third : Lays (n := n) (storeOctet (toByte (address.sshiftRight 16))) [octet address 2] := by
    rw [← toByte_sshiftRight_sixteen]
    exact lays_storeOctet _
  obtain rfl | rfl | rfl : ioaFieldLength = 1 ∨ ioaFieldLength = 2 ∨ ioaFieldLength = 3 := by omega
  · exact first.andThen .nil
  · exact first.andThen (second.andThen .nil)
  · exact first.andThen (second.andThen (third.andThen .nil))

theorem lays_encode (object : InformationObject) (ioaFieldLength : Nat)
    (least : 1 ≤ ioaFieldLength) (most : ioaFieldLength ≤ 3) (encodable : object.Encodable) :
    Lays (encode (n := n) object ioaFieldLength) (object.wire ioaFieldLength) :=
  (lays_storeAddress _ _ least most).andThen <|
    Lays.inOrder fun e member => e.lays_encode (encodable e member)

theorem refuses_encode (object : InformationObject) (ioaFieldLength : Nat)
    (impossible : ¬ object.Encodable) : Refuses (encode (n := n) object ioaFieldLength) := by
  simp only [Encodable, not_forall] at impossible
  obtain ⟨e, member, refused⟩ := impossible
  exact Refuses.andThen_right _
    (Refuses.inOrder (List.mem_map_of_mem member) (e.refuses_encode refused))

end Encode

/-- A set with the classes the type asks for, all fields in range. -/
def SetFits (set : List ElementClass) (row : List InformationElement) : Prop :=
  row.map InformationElement.getClass = set ∧ ∀ e ∈ row, e.InRange

/-- The sets of an object are those its layout reads for the given number of
sequence elements. -/
def SetsFit (numberOfSequenceElements : Nat) (sets : List (List InformationElement)) :
    SetLayout → Prop
  | .looped set => sets.length = numberOfSequenceElements ∧ ∀ row ∈ sets, SetFits set row
  | .single set => ∃ row, sets = [row] ∧ SetFits set row
  | .empty => sets = []

/-- A set with the classes the type asks for, all fields in width. -/
def SetWithin (set : List ElementClass) (row : List InformationElement) : Prop :=
  row.map InformationElement.getClass = set ∧ ∀ e ∈ row, e.InWidth

def SetsWithin (numberOfSequenceElements : Nat) (sets : List (List InformationElement)) :
    SetLayout → Prop
  | .looped set => sets.length = numberOfSequenceElements ∧ ∀ row ∈ sets, SetWithin set row
  | .single set => ∃ row, sets = [row] ∧ SetWithin set row
  | .empty => sets = []

def receivedSet (row : List InformationElement) : List InformationElement :=
  row.map InformationElement.received

/-- The object as the other side holds it. -/
def received (object : InformationObject) : InformationObject :=
  ⟨object.informationObjectAddress, object.informationElements.map receivedSet⟩

/-- The object as the other side holds it, in range or not: the low octets of its address,
and its floats without their payload. -/
def delivered (ioaFieldLength : Nat) (object : InformationObject) : InformationObject :=
  ⟨low object.informationObjectAddress (8 * ioaFieldLength),
    object.informationElements.map fun row => row.map InformationElement.delivered⟩

theorem yields_decodeSet {set : List ElementClass} {row : List InformationElement}
    (within : SetWithin set row) :
    Reader.Yields (decodeSet set) (row.flatMap InformationElement.wire)
      (row.map InformationElement.delivered) := by
  rw [← within.1]
  exact Reader.Yields.mapM fun e member => e.yields_delivered (within.2 e member)

private theorem flatMap_flatten (sets : List (List InformationElement)) :
    sets.flatten.flatMap InformationElement.wire =
      sets.flatMap fun row => row.flatMap InformationElement.wire := by
  induction sets with
  | nil => rfl
  | cons row sets ih => rw [List.flatten_cons, List.flatMap_append, List.flatMap_cons, ih]

theorem yields_sets {numberOfSequenceElements : Nat} {sets : List (List InformationElement)}
    {layout : SetLayout} (within : SetsWithin numberOfSequenceElements sets layout) :
    Reader.Yields (layout.decode numberOfSequenceElements)
      (sets.flatten.flatMap InformationElement.wire)
      (sets.map fun row => row.map InformationElement.delivered) := by
  cases layout with
  | looped set =>
    obtain ⟨rfl, rows⟩ := within
    have read := Reader.Yields.times fun row member => yields_decodeSet (rows row member)
    rwa [flatMap_flatten]
  | single set =>
    obtain ⟨row, rfl, within⟩ := within
    have read := (yields_decodeSet within).map fun row => [row]
    simpa [SetLayout.decode] using read
  | empty =>
    obtain rfl := within
    exact Reader.Yields.pure []

/-- The decoder reads an object of the type's layout, consuming exactly its octets. -/
theorem yields_decode {aSduType : ASduType} {layout : SetLayout} {object : InformationObject}
    {numberOfSequenceElements : Nat} (ioaFieldLength : Nat) (reserved : Option ReservedASduTypeDecoder)
    (found : layoutOf aSduType = some layout)
    (within : SetsWithin numberOfSequenceElements object.informationElements layout) :
    Reader.Yields (decode aSduType numberOfSequenceElements ioaFieldLength reserved)
      (object.wire ioaFieldLength) (object.delivered ioaFieldLength) := by
  refine (yields_readOctets_low _ _).bind ?_
  simp only [found]
  exact (yields_sets within).map fun sets =>
    (⟨low object.informationObjectAddress (8 * ioaFieldLength), sets⟩ : InformationObject)

section InRange

variable {numberOfSequenceElements : Nat} {sets : List (List InformationElement)} {layout : SetLayout}

theorem SetFits.within {set : List ElementClass} {row : List InformationElement}
    (fits : SetFits set row) : SetWithin set row :=
  ⟨fits.1, fun e member => (fits.2 e member).inWidth⟩

theorem SetsFit.within (fits : SetsFit numberOfSequenceElements sets layout) :
    SetsWithin numberOfSequenceElements sets layout := by
  cases layout with
  | looped set => exact ⟨fits.1, fun row member => (fits.2 row member).within⟩
  | single set =>
    obtain ⟨row, rfl, fits⟩ := fits
    exact ⟨row, rfl, fits.within⟩
  | empty => exact fits

theorem SetsFit.inRange (fits : SetsFit numberOfSequenceElements sets layout) :
    ∀ row ∈ sets, ∀ e ∈ row, e.InRange := by
  intro row present
  cases layout with
  | looped set => exact (fits.2 row present).2
  | single set =>
    obtain ⟨only, rfl, fits⟩ := fits
    obtain rfl := List.mem_singleton.mp present
    exact fits.2
  | empty =>
    obtain rfl := fits
    cases present

theorem SetsWithin.encodable (within : SetsWithin numberOfSequenceElements sets layout) :
    ∀ e ∈ sets.flatten, e.Encodable := by
  intro e member
  obtain ⟨row, present, inside⟩ := List.mem_flatten.mp member
  cases layout with
  | looped set => exact ((within.2 row present).2 e inside).encodable
  | single set =>
    obtain ⟨only, rfl, within⟩ := within
    obtain rfl := List.mem_singleton.mp present
    exact (within.2 e inside).encodable
  | empty =>
    obtain rfl := within
    cases present

theorem delivered_eq_received {object : InformationObject} {ioaFieldLength : Nat}
    (address : object.informationObjectAddress.toNat < 2 ^ (8 * ioaFieldLength))
    (inRange : ∀ row ∈ object.informationElements, ∀ e ∈ row, e.InRange) :
    object.delivered ioaFieldLength = object.received := by
  have rows : (object.informationElements.map fun row => row.map InformationElement.delivered) =
      object.informationElements.map receivedSet :=
    List.map_congr_left fun row present => List.map_congr_left fun e member =>
      InformationElement.delivered_of_inRange (inRange row present e member)
  rw [delivered, low_of_lt _ _ address, rows]
  rfl

end InRange

end InformationObject

end J60870
