import J60870.APdu

/-! What the other side holds of an ASDU that was encoded: the octets its fields leave on
the wire, whether or not they are in range. -/

namespace J60870

open Lib

namespace ASdu

/-- The contents of a standardized type: objects with one set each, or with SQ one object
with as many sets as are counted, where the case of the type reads them. -/
structure Shape (aSdu : ASdu) (layout : SetLayout) (objects : List InformationObject) (count : Nat) :
    Prop where
  found : layoutOf aSdu.aSduType = some layout
  contents : aSdu.informationObjects = some objects ∧ aSdu.privateInformation = none
  number : objects.length = if aSdu.isSequenceOfElements then 1 else count
  sets : ∀ object ∈ objects, InformationObject.SetsWithin
    (if aSdu.isSequenceOfElements then count else 1) object.informationElements layout
  counted : aSdu.isSequenceOfElements → ∀ object ∈ objects, object.informationElements.length = count
  length : aSdu.sequenceLength = BitVec.ofNat 32 count

/-- The ASDU as the other side holds it: the low octets of its addresses, no originator
address where the cause field has one octet, and its objects as they are delivered. -/
def delivered (settings : ConnectionSettings) (aSdu : ASdu) : ASdu :=
  { aSdu with
    originatorAddress := if settings.cotFieldLength = 2 then low aSdu.originatorAddress 8 else -1
    commonAddress := low aSdu.commonAddress (8 * settings.commonAddressFieldLength)
    informationObjects := aSdu.informationObjects.map fun objects =>
      objects.map (InformationObject.delivered settings.ioaFieldLength) }

variable {settings : ConnectionSettings} {aSdu : ASdu}

private theorem qualifier_octets : ∀ (count : BitVec 7) (sequence : Bool),
    let b := toInt (if sequence then toByte (count.setWidth 32 ||| 0x80)
      else toByte (count.setWidth 32))
    hasMask b 0x80 = sequence ∧ b &&& 0x7f = count.setWidth 32 := by
  decide +kernel

theorem qualifier_read (few : aSdu.sequenceLength.toNat ≤ 127) :
    hasMask (toInt aSdu.qualifier) 0x80 = aSdu.isSequenceOfElements ∧
      toInt aSdu.qualifier &&& 0x7f = aSdu.sequenceLength := by
  obtain ⟨count, same⟩ := exists_setWidth aSdu.sequenceLength 7 (by omega)
  rw [qualifier, same]
  exact qualifier_octets count aSdu.isSequenceOfElements

private theorem cause_octets : ∀ (id : BitVec 6) (test negativeConfirm : Bool),
    let id : JInt := id.setWidth 32
    let b := toInt (if test then
        if negativeConfirm then toByte (id ||| 0xC0) else toByte (id ||| 0x80)
      else if negativeConfirm then toByte (id ||| 0x40) else toByte id)
    b &&& 0x3f = id ∧ hasMask b 0x80 = test ∧ hasMask b 0x40 = negativeConfirm := by
  decide +kernel

theorem causeOctet_read (cause : CauseOfTransmission) :
    CauseOfTransmission.causeFor (toInt (aSdu.causeOctet cause) &&& 0x3f).toNat = some cause ∧
      hasMask (toInt (aSdu.causeOctet cause)) 0x80 = aSdu.test ∧
      hasMask (toInt (aSdu.causeOctet cause)) 0x40 = aSdu.negativeConfirm := by
  have small := cause.getId_lt
  have value : (BitVec.ofNat 32 cause.getId).toNat = cause.getId := by
    rw [BitVec.toNat_ofNat]
    omega
  obtain ⟨id, same⟩ := exists_setWidth (BitVec.ofNat 32 cause.getId) 6 (by omega)
  obtain ⟨low, test, negative⟩ := cause_octets id aSdu.test aSdu.negativeConfirm
  rw [← same] at low test negative
  refine ⟨?_, test, negative⟩
  rw [causeOctet, low, value]
  exact cause.causeFor_getId

theorem yields_readOriginatorAddress (settings : ConnectionSettings) (aSdu : ASdu) :
    Reader.Yields (readOriginatorAddress settings)
      (if settings.cotFieldLength = 2 then [toByte aSdu.originatorAddress] else [])
      (aSdu.delivered settings).originatorAddress := by
  simp only [readOriginatorAddress, delivered]
  by_cases two : settings.cotFieldLength = 2
  · simp only [two, if_true]
    exact yields_readUnsignedByte (toByte aSdu.originatorAddress)
  · simp only [two, if_false]
    exact Reader.Yields.pure (-1)

theorem yields_readCommonAddress (settings : ConnectionSettings) (aSdu : ASdu) :
    Reader.Yields (readCommonAddress settings)
      (toByte aSdu.commonAddress ::
        (if settings.commonAddressFieldLength = 2 then [toByte (aSdu.commonAddress.sshiftRight 8)]
          else []))
      (aSdu.delivered settings).commonAddress := by
  simp only [readCommonAddress, delivered]
  rcases settings.commonAddress_range with one | two
  · simp only [one, if_true, OfNat.one_ne_ofNat, if_false]
    exact yields_readUnsignedByte (toByte aSdu.commonAddress)
  · have assembled : toInt (octet aSdu.commonAddress 0) ||| (toInt (octet aSdu.commonAddress 1) <<< 8) =
        low aSdu.commonAddress (8 * 2) := by
      have gathered : (0#32 ||| (toInt (octet aSdu.commonAddress 0) <<< 0)) |||
          (toInt (octet aSdu.commonAddress 1) <<< 8) = low aSdu.commonAddress (8 * 2) :=
        gather_octets_low aSdu.commonAddress 2
      rwa [BitVec.shiftLeft_zero, BitVec.zero_or] at gathered
    simp only [two, OfNat.ofNat_ne_one, if_true, if_false, toByte_sshiftRight_eight,
      toByte_eq_octet aSdu.commonAddress]
    intro rest
    exact congrArg (fun v => Except.ok (v, rest)) assembled

theorem remainingLength_wire (settings : ConnectionSettings) (contents : List Octet)
    (given : aSdu.causeOfTransmission.isSome) (same : aSdu.contentsWire settings = contents) :
    remainingLength settings (aSdu.wire settings).length - 4 = contents.length := by
  obtain ⟨cause, found⟩ := Option.isSome_iff_exists.mp given
  simp only [wire, causeWire, found, addresses, same, remainingLength]
  rcases settings.cot_range with cot | cot <;>
    rcases settings.commonAddress_range with address | address <;>
    simp [cot, address] <;> omega

theorem getId_lt_of_layout {type : ASduType} {layout : SetLayout}
    (found : layoutOf type = some layout) : type.getId < 128 := by
  apply Nat.lt_of_not_le
  intro high
  obtain ⟨id, rfl⟩ := type.getId_ge_iff.mp high
  cases found

private theorem yields_behind_header (aSduLength : Int) {cause : CauseOfTransmission}
    (found : aSdu.causeOfTransmission = some cause) (few : aSdu.sequenceLength.toNat ≤ 127)
    {result : ASdu} (contents : Reader.Yields
      (if aSdu.aSduType.getId < 128 then do
        let informationObjects ← Reader.times
          (if aSdu.isSequenceOfElements then 1 else aSdu.sequenceLength.toNat) <|
          InformationObject.decode aSdu.aSduType
            (if aSdu.isSequenceOfElements then aSdu.sequenceLength.toNat else 1)
            settings.ioaFieldLength settings.reservedASduTypeDecoder
        liftM <| standardized aSdu.aSduType aSdu.isSequenceOfElements (some cause) aSdu.test
          aSdu.negativeConfirm (aSdu.delivered settings).originatorAddress
          (aSdu.delivered settings).commonAddress informationObjects
      else do
        let privateInformation ← readPrivateInformation (remainingLength settings aSduLength - 4)
        return ofPrivate aSdu.aSduType aSdu.isSequenceOfElements aSdu.sequenceLength (some cause)
          aSdu.test aSdu.negativeConfirm (aSdu.delivered settings).originatorAddress
          (aSdu.delivered settings).commonAddress privateInformation)
      (aSdu.contentsWire settings) result) :
    Reader.Yields (decode settings aSduLength) (aSdu.wire settings) result := by
  -- Behind a header with a cause and a count of seven bits, the decoder reads the contents with
  -- what the header says.
  obtain ⟨sequence, count⟩ := aSdu.qualifier_read few
  obtain ⟨causeIs, test, negative⟩ := aSdu.causeOctet_read cause
  have typeCode : (toInt (BitVec.ofNat 8 aSdu.aSduType.getId)).toNat = aSdu.aSduType.getId := by
    have small := aSdu.aSduType.getId_lt
    rw [toInt, BitVec.toNat_setWidth, BitVec.toNat_ofNat]
    omega
  rw [wire, causeWire, found, addresses, List.append_assoc]
  refine (yields_readUnsignedByte _).bind ?_
  simp only [typeCode, ASduType.typeFor_getId]
  refine (yields_readUnsignedByte _).bind ?_
  refine (yields_readUnsignedByte _).bind ?_
  simp only [sequence, count, causeIs, test, negative]
  refine (yields_readOriginatorAddress settings aSdu).bind ?_
  exact (yields_readCommonAddress settings aSdu).bind contents

theorem Shape.encodable {layout : SetLayout} {objects : List InformationObject} {count : Nat}
    (shape : aSdu.Shape layout objects count)
    (given : aSdu.causeOfTransmission.isSome) : aSdu.Encodable := by
  refine ⟨given, ?_⟩
  rw [shape.contents.1]
  exact fun object member => (shape.sets object member).encodable

/-- An ASDU of a standardized type that counts at most 127 objects or sets is delivered. -/
theorem Shape.yields_decode {layout : SetLayout} {objects : List InformationObject} {count : Nat}
    (shape : aSdu.Shape layout objects count) (settings : ConnectionSettings) (given : aSdu.causeOfTransmission.isSome)
    (few : count ≤ 127) (aSduLength : Int) :
    Reader.Yields (decode settings aSduLength) (aSdu.wire settings) (aSdu.delivered settings) := by
  obtain ⟨cause, found⟩ := Option.isSome_iff_exists.mp given
  have counts : aSdu.sequenceLength.toNat = count := by
    rw [shape.length, BitVec.toNat_ofNat]
    omega
  refine yields_behind_header aSduLength found (by omega) ?_
  have standard := getId_lt_of_layout shape.found
  have read : Reader.Yields
      (Reader.times objects.length (InformationObject.decode aSdu.aSduType
        (if aSdu.isSequenceOfElements then count else 1) settings.ioaFieldLength
        settings.reservedASduTypeDecoder))
      (objects.flatMap fun object => object.wire settings.ioaFieldLength)
      (objects.map (InformationObject.delivered settings.ioaFieldLength)) :=
    Reader.Yields.times fun object member =>
      InformationObject.yields_decode settings.ioaFieldLength settings.reservedASduTypeDecoder
        shape.found (shape.sets object member)
  have built : standardized aSdu.aSduType aSdu.isSequenceOfElements (some cause) aSdu.test
      aSdu.negativeConfirm (aSdu.delivered settings).originatorAddress
      (aSdu.delivered settings).commonAddress
      (objects.map (InformationObject.delivered settings.ioaFieldLength)) =
        .ok (aSdu.delivered settings) := by
    have number := shape.number
    cases sequence : aSdu.isSequenceOfElements with
    | false =>
      rw [sequence, if_neg Bool.false_ne_true] at number
      simp [standardized, delivered, found, sequence, shape.contents, shape.length, number, pure,
        Except.pure]
    | true =>
      rw [sequence, if_pos rfl] at number
      obtain ⟨object, rfl⟩ := List.length_eq_one_iff.mp number
      have sets := shape.counted sequence object (List.mem_singleton_self object)
      simp [standardized, delivered, found, sequence, shape.contents, shape.length, sets, pure,
        Except.pure, InformationObject.delivered]
  have wire : aSdu.contentsWire settings =
      (objects.flatMap fun object => object.wire settings.ioaFieldLength) ++ [] := by
    rw [contentsWire, shape.contents.1, List.append_nil]
  rw [if_pos standard, counts, ← shape.number, wire]
  exact read.bind (Reader.Yields.lift built)

/-- An ASDU of a private type is delivered with its payload. -/
theorem yields_decode_private (id : { id // IsPrivate id }) (bytes : List Octet)
    (type : aSdu.aSduType = .PRIVATE id)
    (contents : aSdu.informationObjects = none ∧ aSdu.privateInformation = some bytes)
    (given : aSdu.causeOfTransmission.isSome) (few : aSdu.sequenceLength.toNat ≤ 127) :
    Reader.Yields (decode settings (aSdu.wire settings).length) (aSdu.wire settings)
      (aSdu.delivered settings) := by
  obtain ⟨cause, found⟩ := Option.isSome_iff_exists.mp given
  have high : ¬ aSdu.aSduType.getId < 128 :=
    Nat.not_lt.mpr (aSdu.aSduType.getId_ge_iff.mpr ⟨id, type⟩)
  have payload : aSdu.contentsWire settings = bytes := by
    simp [contentsWire, contents]
  have remaining := remainingLength_wire settings bytes given payload
  refine yields_behind_header _ found few ?_
  have same : ofPrivate aSdu.aSduType aSdu.isSequenceOfElements aSdu.sequenceLength (some cause)
      aSdu.test aSdu.negativeConfirm (aSdu.delivered settings).originatorAddress
      (aSdu.delivered settings).commonAddress bytes = aSdu.delivered settings := by
    simp [ofPrivate, delivered, found, contents]
  have enough : ¬ (bytes.length : Int) < 0 := Int.not_lt.mpr (Int.natCast_nonneg _)
  simp only [high, if_false, remaining, payload, readPrivateInformation, enough, Int.toNat_natCast]
  rw [← same]
  exact (Reader.Yields.word endOfStream bytes).map fun bytes => ofPrivate aSdu.aSduType
    aSdu.isSequenceOfElements aSdu.sequenceLength (some cause) aSdu.test aSdu.negativeConfirm
    (aSdu.delivered settings).originatorAddress (aSdu.delivered settings).commonAddress bytes

end ASdu

namespace APdu

variable {settings : ConnectionSettings}

theorem yields_readApduLength (length : Nat) (least : 4 ≤ length) (most : length ≤ 253) :
    Reader.Yields readApduLength [toByte (BitVec.ofNat 32 length)] length := by
  have value : (toInt (toByte (BitVec.ofNat 32 length))).toNat = length := by
    rw [toInt_toByte _ (by rw [BitVec.toNat_ofNat]; omega), BitVec.toNat_ofNat]
    omega
  have inside : ¬ (length < MIN_APDU_LENGTH ∨ MAX_APDU_LENGTH < length) := by
    rw [MIN_APDU_LENGTH, CONTROL_FIELDS_LENGTH, MAX_APDU_LENGTH]
    omega
  intro rest
  rw [readApduLength, Reader.bind_apply, yields_readUnsignedByte _ rest]
  simp only [value, inside, if_false]
  rfl

theorem apciTypeFor_iFormat (seqNum : JInt) :
    ApciType.apciTypeFor (toByte (seqNum <<< 1)) = .I_FORMAT := by
  have free : toByte (seqNum <<< 1) &&& 0x01 = 0 := by
    apply BitVec.eq_of_getLsbD_eq
    intro i bound
    cases i with
    | zero => simp [toByte]
    | succ i => simp [toByte]
  rw [ApciType.apciTypeFor, if_pos free]

/-- An I frame is read up to where its ASDU is read. -/
theorem yields_iFormat (sendSeqNum receiveSeqNum size : Nat) {bs : List Octet} {result : ASdu}
    (send : sendSeqNum < 2 ^ 15) (receive : receiveSeqNum < 2 ^ 15) (short : size ≤ 249)
    (read : Reader.Yields (ASdu.decode settings size) bs result) :
    Reader.Yields (decode settings)
      ([START_FLAG] ++ ([toByte (BitVec.ofNat 32 (CONTROL_FIELDS_LENGTH + size))] ++
        ((seqNumOctets sendSeqNum ++ seqNumOctets receiveSeqNum) ++ bs)))
      (iFormat sendSeqNum receiveSeqNum result) := by
  have length := yields_readApduLength (CONTROL_FIELDS_LENGTH + size)
    (by rw [CONTROL_FIELDS_LENGTH]; omega) (by rw [CONTROL_FIELDS_LENGTH]; omega)
  have fields : Reader.Yields readControlFields (seqNumOctets sendSeqNum ++ seqNumOctets receiveSeqNum)
      #v[toByte (BitVec.ofNat 32 sendSeqNum <<< 1), toByte ((BitVec.ofNat 32 sendSeqNum).sshiftRight 7),
        toByte (BitVec.ofNat 32 receiveSeqNum <<< 1),
        toByte ((BitVec.ofNat 32 receiveSeqNum).sshiftRight 7)] :=
    Reader.Yields.vector endOfStream #v[_, _, _, _]
  have payload : ((CONTROL_FIELDS_LENGTH + size : Nat) : Int) - (CONTROL_FIELDS_LENGTH : Nat) = size := by
    omega
  refine (Reader.Yields.next endOfStream START_FLAG).bind ?_
  refine length.bind ?_
  refine fields.bind ?_
  simp only [Vector.getElem_mk, List.getElem_toArray, List.getElem_cons_zero, List.getElem_cons_succ,
    apciTypeFor_iFormat, seqNumFrom_octets _ send, seqNumFrom_octets _ receive, payload]
  exact read.map fun aSdu => iFormat sendSeqNum receiveSeqNum aSdu

/-- An I frame is read as its ASDU is. -/
theorem yields_iFormatWire (sendSeqNum receiveSeqNum : Nat) (aSdu result : ASdu)
    (send : sendSeqNum < 2 ^ 15) (receive : receiveSeqNum < 2 ^ 15)
    (short : (iFormatWire settings sendSeqNum receiveSeqNum aSdu).length ≤ 255)
    (read : Reader.Yields (ASdu.decode settings (aSdu.wire settings).length) (aSdu.wire settings)
      result) :
    Reader.Yields (decode settings) (iFormatWire settings sendSeqNum receiveSeqNum aSdu)
      (iFormat sendSeqNum receiveSeqNum result) := by
  have size : (iFormatWire settings sendSeqNum receiveSeqNum aSdu).length =
      6 + (aSdu.wire settings).length := frameWire_length _ _ rfl
  exact yields_iFormat _ _ _ send receive (by omega) read

/-- The octets of `os.write(buffer, 0, length)` after the encoder has filled the
buffer. -/
def written {n : Nat} (settings : ConnectionSettings) (aPdu : APdu) (buffer : Vector Octet n) :
    Except JavaException (List Octet) := do
  let (buffer, length) ← aPdu.encode settings buffer
  return buffer.toList.take length

theorem written_iFormat {n : Nat} (sendSeqNum receiveSeqNum : Nat) (aSdu : ASdu)
    (buffer : Vector Octet n) (encodable : aSdu.Encodable)
    (fits : (iFormatWire settings sendSeqNum receiveSeqNum aSdu).length ≤ n) :
    (iFormat sendSeqNum receiveSeqNum aSdu).written settings buffer =
      .ok (iFormatWire settings sendSeqNum receiveSeqNum aSdu) := by
  have size : (iFormatWire settings sendSeqNum receiveSeqNum aSdu).length =
      6 + (aSdu.wire settings).length := frameWire_length _ _ rfl
  have laid := encode_iFormat settings sendSeqNum receiveSeqNum aSdu buffer encodable (size ▸ fits)
  rw [← size] at laid
  rw [written, laid, ok_bind]
  exact congrArg Except.ok (take_overwrite _ _ fits)

end APdu

end J60870
