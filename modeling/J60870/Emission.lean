import J60870.Transmission

namespace J60870

open Lib

namespace APdu

/-- The first `length` octets of the buffer are a frame as a reader accepts it. -/
structure WellFramed (frame : Vector Octet 255) (length : Nat) : Prop where
  least : 6 ≤ length
  most : length ≤ 255
  start : frame[0] = START_FLAG
  counted : frame[1].toNat = length - 2
  /-- the length octet is accepted, and gives what follows it -/
  accepted : ∀ rest, readApduLength (frame[1] :: rest) = .ok (length - 2, rest)

variable {settings : ConnectionSettings} {aSdu : ASdu} {sendSeqNum receiveSeqNum : Nat}

private theorem wellFramed_frameWire (buffer : Vector Octet 255) (controlFields payload : List Octet)
    (four : controlFields.length = 4) (fits : 6 + payload.length ≤ 255) :
    WellFramed (overwrite buffer 0 (frameWire controlFields payload)) (6 + payload.length) := by
  have size := frameWire_length controlFields payload four
  have first : (overwrite buffer 0 (frameWire controlFields payload))[0] = START_FLAG :=
    getElem_overwrite_of_mem buffer 0 0 _ (by decide) (by omega)
  have second : (overwrite buffer 0 (frameWire controlFields payload))[1] =
      toByte (BitVec.ofNat 32 (CONTROL_FIELDS_LENGTH + payload.length)) :=
    getElem_overwrite_of_mem buffer 0 1 _ (by decide) (by omega)
  have behind : CONTROL_FIELDS_LENGTH + payload.length = 6 + payload.length - 2 := by
    rw [CONTROL_FIELDS_LENGTH]
    omega
  refine ⟨by omega, fits, first, ?_, fun rest => ?_⟩
  · rw [second, behind, toByte, BitVec.toNat_setWidth, BitVec.toNat_ofNat]
    omega
  · rw [second, behind]
    exact yields_readApduLength _ (by omega) (by omega) rest

/-- If the encoder returns, it has written one well framed frame over the buffer, the same one
over every buffer. -/
theorem encode_wellFramed {buffer after : Vector Octet 255} {length : Nat}
    (encoded : (iFormat sendSeqNum receiveSeqNum aSdu).encode settings buffer = .ok (after, length)) :
    WellFramed after length ∧
      ∃ frame : List Octet, frame.length = length ∧ after = overwrite buffer 0 frame ∧
        ∀ other : Vector Octet 255, (iFormat sendSeqNum receiveSeqNum aSdu).encode settings other =
          .ok (overwrite other 0 frame, length) ∧
          ∀ i (_ : i < length) (_ : i < 255), (overwrite other 0 frame)[i] = after[i] := by
  by_cases fits : aSdu.Encodable ∧ 6 + (aSdu.wire settings).length ≤ 255
  · have laid (other : Vector Octet 255) :=
      encode_iFormat settings sendSeqNum receiveSeqNum aSdu other fits.1 fits.2
    have size : (iFormatWire settings sendSeqNum receiveSeqNum aSdu).length =
        6 + (aSdu.wire settings).length := frameWire_length _ _ rfl
    rw [laid buffer] at encoded
    obtain ⟨rfl, rfl⟩ := Prod.mk.inj (Except.ok.inj encoded)
    refine ⟨wellFramed_frameWire buffer _ _ rfl fits.2, _, size, rfl, fun other => ⟨laid other, ?_⟩⟩
    intro i inside bound
    rw [← size] at inside
    have here (buffer : Vector Octet 255) :
        (overwrite buffer 0 (iFormatWire settings sendSeqNum receiveSeqNum aSdu))[i] =
          (iFormatWire settings sendSeqNum receiveSeqNum aSdu)[i] := by
      have place := getElem_overwrite_of_mem buffer 0 i
        (iFormatWire settings sendSeqNum receiveSeqNum aSdu) (by omega) inside
      simpa only [Nat.zero_add] using place
    rw [here other, here buffer]
  · obtain ⟨e, failed⟩ := encode_iFormat_throws settings sendSeqNum receiveSeqNum aSdu buffer
      (by decide) fits
    rw [failed] at encoded
    cases encoded

def sampleSegment : ASdu where
  aSduType := .F_SG_NA_1
  isSequenceOfElements := false
  causeOfTransmission := some .fileTransfer
  test := false
  negativeConfirm := false
  originatorAddress := 300
  commonAddress := 1
  informationObjects := some
    [⟨0, [[.ieNameOfFile 70000, .ieNameOfSection 1, .ieFileSegment [1, 2, 3] 1 2]]⟩]
  privateInformation := none
  sequenceLength := 1

theorem encode_wellFramed_sample :
    ∃ after : Vector Octet 255, WellFramed after 21 := by
  have encoded := encode_iFormat {} 3 40000 sampleSegment (Vector.replicate 255 0xff) (by decide)
    (by decide)
  exact ⟨_, (encode_wellFramed encoded).1⟩

end APdu

end J60870
