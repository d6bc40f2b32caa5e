import J60870.ASdu

namespace J60870

open Lib

inductive ApciType
  | I_FORMAT | S_FORMAT | TESTFR_CON | TESTFR_ACT | STOPDT_CON | STOPDT_ACT | STARTDT_CON
  | STARTDT_ACT
  deriving DecidableEq, Repr

namespace ApciType

def unnumberedFormatFor (controlField1 : Octet) : ApciType :=
  if controlField1 &&& 0x80 = 0x80 then .TESTFR_CON
  else if controlField1 = 0x43 then .TESTFR_ACT
  else if controlField1 = 0x23 then .STOPDT_CON
  else if controlField1 = 0x13 then .STOPDT_ACT
  else if controlField1 = 0x0B then .STARTDT_CON
  else .STARTDT_ACT

def apciTypeFor (controlField1 : Octet) : ApciType :=
  if controlField1 &&& 0x01 = 0 then .I_FORMAT
  else if controlField1 &&& 0x03 = 1 then .S_FORMAT
  else unnumberedFormatFor controlField1

end ApciType

/-- The application protocol data unit. Only the I format carries an ASDU. -/
structure APdu where
  sendSeqNum : Nat
  receiveSeqNum : Nat
  apciType : ApciType
  aSdu : Option ASdu
  deriving DecidableEq

namespace APdu

def CONTROL_FIELDS_LENGTH : Nat := 4

def MIN_APDU_LENGTH : Nat := CONTROL_FIELDS_LENGTH

def MAX_APDU_LENGTH : Nat := 253

def START_FLAG : Octet := 0x68

def seqNumFrom (b1 b2 : Octet) : Nat :=
  ((toInt b1 &&& 0xfe).sshiftRight 1 + (toInt b2 <<< 7)).toNat

section Decode

def readApduLength : InputStream Nat := do
  let length ← readUnsignedByte
  let length := length.toNat
  if length < MIN_APDU_LENGTH ∨ MAX_APDU_LENGTH < length then
    throw (.iOException
      s!"APDU has an invalid length must be between 4 and 253.\nReceived length was: {length}.")
  return length

def readControlFields : InputStream (Vector Octet 4) :=
  Reader.vector endOfStream CONTROL_FIELDS_LENGTH

def decode (settings : ConnectionSettings) : InputStream APdu := do
  if (← readByte) ≠ START_FLAG then
    throw (.iOException "Message does not start with START flag (0x68). Broken connection.")
  let length ← readApduLength
  let aPduControlFields ← readControlFields
  let apciType := ApciType.apciTypeFor aPduControlFields[0]
  match apciType with
  | .I_FORMAT =>
    let sendSeqNum := seqNumFrom aPduControlFields[0] aPduControlFields[1]
    let receiveSeqNum := seqNumFrom aPduControlFields[2] aPduControlFields[3]
    let aSduLength : Int := length - CONTROL_FIELDS_LENGTH
    return ⟨sendSeqNum, receiveSeqNum, apciType, some (← ASdu.decode settings aSduLength)⟩
  | .S_FORMAT =>
    return ⟨0, seqNumFrom aPduControlFields[2] aPduControlFields[3], apciType, none⟩
  | _ => return ⟨0, 0, apciType, none⟩

end Decode

section Encode

variable {n : Nat}

/-- The two octets of a sequence number, its lowest bit left free. -/
def seqNumOctets (seqNum : Nat) : List Octet :=
  [toByte (BitVec.ofNat 32 seqNum <<< 1), toByte ((BitVec.ofNat 32 seqNum).sshiftRight 7)]

/-- `buffer[i] = b0; buffer[i + 1] = b1; ...` -/
def put (buffer : Vector Octet n) (i : Nat) (bs : List Octet) : Except JavaException (Vector Octet n) :=
  storeAll .arrayIndexOutOfBoundsException buffer i bs

def writeReceiveSeqNumTo (aPdu : APdu) (buffer : Vector Octet n) :
    Except JavaException (Vector Octet n) :=
  put buffer 4 (seqNumOctets aPdu.receiveSeqNum)

def setV3To5zero (buffer : Vector Octet n) : Except JavaException (Vector Octet n) :=
  put buffer 3 [0x00, 0x00, 0x00]

/-- A frame without payload: its first control octet and three zeros. -/
def putUnnumbered (buffer : Vector Octet n) (controlField1 : Octet) :
    Except JavaException (Vector Octet n × Nat) := do
  let buffer ← put buffer 2 [controlField1]
  return (← setV3To5zero buffer, CONTROL_FIELDS_LENGTH)

/-- The control fields and what follows them, with the length of both. -/
def encodeFields (aPdu : APdu) (settings : ConnectionSettings) (buffer : Vector Octet n) :
    Except JavaException (Vector Octet n × Nat) :=
  match aPdu.apciType with
  | .I_FORMAT => do
    let buffer ← put buffer 2 (seqNumOctets aPdu.sendSeqNum)
    let buffer ← aPdu.writeReceiveSeqNumTo buffer
    match aPdu.aSdu with
    | some aSdu => do
      let (buffer, length) ← aSdu.encode settings buffer 6
      return (buffer, CONTROL_FIELDS_LENGTH + length)
    | none => throw .nullPointerException
  | .STARTDT_ACT => putUnnumbered buffer 0x07
  | .STARTDT_CON => putUnnumbered buffer 0x0b
  | .STOPDT_ACT => putUnnumbered buffer 0x13
  | .STOPDT_CON => putUnnumbered buffer 0x23
  | .S_FORMAT => do
    let buffer ← put buffer 2 [0x01, 0x00]
    return (← aPdu.writeReceiveSeqNumTo buffer, CONTROL_FIELDS_LENGTH)
  -- the test frames leave the control fields of the buffer alone
  | .TESTFR_ACT | .TESTFR_CON => return (buffer, CONTROL_FIELDS_LENGTH)

def encode (aPdu : APdu) (settings : ConnectionSettings) (buffer : Vector Octet n) :
    Except JavaException (Vector Octet n × Nat) := do
  let buffer ← put buffer 0 [START_FLAG]
  let (buffer, length) ← aPdu.encodeFields settings buffer
  let buffer ← put buffer 1 [toByte (BitVec.ofNat 32 length)]
  return (buffer, length + 2)

/-- What an I frame leaves in the buffer if its ASDU makes the encoder throw: all of the
header but the length octet. The octets behind the header are not followed. -/
def begun (aPdu : APdu) (buffer : Vector Octet n) : Vector Octet n :=
  overwrite (overwrite buffer 0 [START_FLAG]) 2
    (seqNumOctets aPdu.sendSeqNum ++ seqNumOctets aPdu.receiveSeqNum)

end Encode

theorem seqNumFrom_eq (b1 b2 : Octet) : seqNumFrom b1 b2 = b1.toNat / 2 + b2.toNat * 128 := by
  have low : ∀ b : Octet, ((toInt b &&& 0xfe).sshiftRight 1).toNat = b.toNat / 2 := by
    decide +kernel
  have high : ∀ b : Octet, (toInt b <<< 7).toNat = b.toNat * 128 := by decide +kernel
  have first := b1.isLt
  have second := b2.isLt
  rw [seqNumFrom, BitVec.toNat_add, low, high]
  omega

theorem seqNumFrom_lt (b1 b2 : Octet) : seqNumFrom b1 b2 < 2 ^ 15 := by
  have first := b1.isLt
  have second := b2.isLt
  rw [seqNumFrom_eq]
  omega

/-- A number of fifteen bits comes back from its two octets. -/
theorem seqNumFrom_octets (seqNum : Nat) (small : seqNum < 2 ^ 15) :
    seqNumFrom (toByte (BitVec.ofNat 32 seqNum <<< 1))
      (toByte ((BitVec.ofNat 32 seqNum).sshiftRight 7)) = seqNum := by
  have low : (toByte (BitVec.ofNat 32 seqNum <<< 1)).toNat = 2 * seqNum % 2 ^ 8 := by
    simp only [toByte, BitVec.toNat_setWidth, BitVec.toNat_shiftLeft, BitVec.toNat_ofNat,
      Nat.shiftLeft_eq]
    omega
  have high : (toByte ((BitVec.ofNat 32 seqNum).sshiftRight 7)).toNat = seqNum / 2 ^ 7 := by
    have positive : (BitVec.ofNat 32 seqNum).msb = false := by
      rw [BitVec.msb_eq_decide, BitVec.toNat_ofNat]
      exact decide_eq_false (by omega)
    rw [BitVec.sshiftRight_eq_of_msb_false positive]
    simp only [toByte, BitVec.toNat_setWidth, BitVec.toNat_ushiftRight, BitVec.toNat_ofNat,
      Nat.shiftRight_eq_div_pow]
    omega
  rw [seqNumFrom_eq, low, high]
  omega

def iFormat (sendSeqNum receiveSeqNum : Nat) (aSdu : ASdu) : APdu :=
  ⟨sendSeqNum, receiveSeqNum, .I_FORMAT, some aSdu⟩

def sFormat (receiveSeqNum : Nat) : APdu := ⟨0, receiveSeqNum, .S_FORMAT, none⟩

/-- The octets of a frame with the given control fields and payload. -/
def frameWire (controlFields payload : List Octet) : List Octet :=
  [START_FLAG] ++ ([toByte (BitVec.ofNat 32 (CONTROL_FIELDS_LENGTH + payload.length))] ++
    (controlFields ++ payload))

def iFormatWire (settings : ConnectionSettings) (sendSeqNum receiveSeqNum : Nat) (aSdu : ASdu) :
    List Octet :=
  frameWire (seqNumOctets sendSeqNum ++ seqNumOctets receiveSeqNum) (aSdu.wire settings)

theorem frameWire_length (controlFields payload : List Octet) (four : controlFields.length = 4) :
    (frameWire controlFields payload).length = 6 + payload.length := by
  simp only [frameWire, List.length_append, List.length_singleton, four]
  omega

section Encode

variable {n : Nat} (settings : ConnectionSettings)

theorem put_fits (buffer : Vector Octet n) (i : Nat) (bs : List Octet) (fits : i + bs.length ≤ n) :
    put buffer i bs = .ok (overwrite buffer i bs) :=
  storeAll_fits _ _ _ _ fits

/-- Once the fields are laid down, start flag and length octet complete the frame. -/
theorem encode_of_fields (aPdu : APdu) (buffer : Vector Octet n) (controlFields payload : List Octet)
    (fits : 6 + payload.length ≤ n)
    (fields : ∀ buffer : Vector Octet n, aPdu.encodeFields settings buffer =
      .ok (overwrite buffer 2 (controlFields ++ payload), CONTROL_FIELDS_LENGTH + payload.length)) :
    aPdu.encode settings buffer =
      .ok (overwrite buffer 0 (frameWire controlFields payload), 6 + payload.length) := by
  let length := toByte (BitVec.ofNat 32 (CONTROL_FIELDS_LENGTH + payload.length))
  have first : 0 + [START_FLAG].length ≤ n := by rw [List.length_singleton]; omega
  have second : 1 + [length].length ≤ n := by rw [List.length_singleton]; omega
  have framed : overwrite (overwrite (overwrite buffer 0 [START_FLAG]) 2 (controlFields ++ payload)) 1
      [length] = overwrite buffer 0 (frameWire controlFields payload) := by
    rw [frameWire, overwrite_append buffer 0 [START_FLAG]]
    exact overwrite_prepend _ 1 [length] _
  have total : CONTROL_FIELDS_LENGTH + payload.length + 2 = 6 + payload.length := by
    rw [CONTROL_FIELDS_LENGTH]
    omega
  rw [encode, put_fits _ _ _ first, ok_bind, fields, ok_bind]
  change (put _ 1 [length] >>= _) = _
  rw [put_fits _ _ _ second, ok_bind, framed]
  exact congrArg (fun length => Except.ok (_, length)) total

/-- An I frame whose ASDU can be encoded and fits is laid down whole. -/
theorem encode_iFormat (sendSeqNum receiveSeqNum : Nat) (aSdu : ASdu) (buffer : Vector Octet n)
    (encodable : aSdu.Encodable) (fits : 6 + (aSdu.wire settings).length ≤ n) :
    (iFormat sendSeqNum receiveSeqNum aSdu).encode settings buffer =
      .ok (overwrite buffer 0 (iFormatWire settings sendSeqNum receiveSeqNum aSdu),
        6 + (aSdu.wire settings).length) := by
  refine encode_of_fields settings (iFormat sendSeqNum receiveSeqNum aSdu) buffer
    (seqNumOctets sendSeqNum ++ seqNumOctets receiveSeqNum) (aSdu.wire settings) fits
    fun buffer => ?_
  have header : 6 ≤ n := Nat.le_trans (Nat.le_add_right _ _) fits
  have send : 2 + (seqNumOctets sendSeqNum).length ≤ n := Nat.le_trans (by simp [seqNumOctets]) header
  have receive : 4 + (seqNumOctets receiveSeqNum).length ≤ n :=
    Nat.le_trans (by simp [seqNumOctets]) header
  have four : 2 + (seqNumOctets sendSeqNum).length = 4 := rfl
  have six : 2 + (seqNumOctets sendSeqNum ++ seqNumOctets receiveSeqNum).length = 6 := rfl
  simp only [encodeFields, iFormat, writeReceiveSeqNumTo]
  rw [put_fits _ _ _ send, ok_bind, put_fits _ _ _ receive, ok_bind,
    (aSdu.lays_encode settings encodable).fits _ _ fits, ok_bind, overwrite_append buffer 2 (_ ++ _),
    overwrite_append buffer 2, four, six]
  simp only [pure, Except.pure]

/-- An I frame whose ASDU cannot be encoded or does not fit makes the encoder throw. -/
theorem encode_iFormat_throws (sendSeqNum receiveSeqNum : Nat) (aSdu : ASdu)
    (buffer : Vector Octet n) (header : 6 ≤ n)
    (bad : ¬ (aSdu.Encodable ∧ 6 + (aSdu.wire settings).length ≤ n)) :
    ∃ e, (iFormat sendSeqNum receiveSeqNum aSdu).encode settings buffer = .error e := by
  have refused (b : Vector Octet n) : ∃ e, aSdu.encode settings b 6 = .error e := by
    by_cases encodable : aSdu.Encodable
    · exact (aSdu.lays_encode settings encodable).overflows b 6 header
        (Nat.lt_of_not_le fun fits => bad ⟨encodable, fits⟩)
    · exact aSdu.refuses_encode settings encodable b 6
  have start : 0 + [START_FLAG].length ≤ n := Nat.le_trans (by simp) header
  have send : 2 + (seqNumOctets sendSeqNum).length ≤ n := Nat.le_trans (by simp [seqNumOctets]) header
  have receive : 4 + (seqNumOctets receiveSeqNum).length ≤ n :=
    Nat.le_trans (by simp [seqNumOctets]) header
  obtain ⟨e, failed⟩ := refused (overwrite (overwrite (overwrite buffer 0 [START_FLAG]) 2
    (seqNumOctets sendSeqNum)) 4 (seqNumOctets receiveSeqNum))
  refine ⟨e, ?_⟩
  simp only [encode, encodeFields, iFormat, writeReceiveSeqNumTo]
  rw [put_fits _ _ _ start, ok_bind, put_fits _ _ _ send, ok_bind, put_fits _ _ _ receive, ok_bind,
    failed, error_bind, error_bind]

theorem encode_sFormat (receiveSeqNum : Nat) (buffer : Vector Octet n) (header : 6 ≤ n) :
    (sFormat receiveSeqNum).encode settings buffer =
      .ok (overwrite buffer 0 (frameWire ([0x01, 0x00] ++ seqNumOctets receiveSeqNum) []), 6) := by
  refine encode_of_fields settings _ buffer _ [] header fun buffer => ?_
  have control : 2 + [(0x01 : Octet), 0x00].length ≤ n := Nat.le_trans (by simp) header
  have receive : 4 + (seqNumOctets receiveSeqNum).length ≤ n :=
    Nat.le_trans (by simp [seqNumOctets]) header
  simp only [encodeFields, sFormat, writeReceiveSeqNumTo]
  rw [put_fits _ _ _ control, ok_bind, put_fits _ _ _ receive, ok_bind, List.append_nil,
    overwrite_append]
  rfl

end Encode

end APdu

end J60870
