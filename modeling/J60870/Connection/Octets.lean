import J60870.Connection.Stream
import J60870.RoundTrip

namespace J60870

open Lib Method

/-- Two stations agree on the lengths of the fields. -/
structure ConnectionSettings.SameFields (settings other : ConnectionSettings) : Prop where
  cot : other.cotFieldLength = settings.cotFieldLength
  commonAddress : other.commonAddressFieldLength = settings.commonAddressFieldLength
  ioa : other.ioaFieldLength = settings.ioaFieldLength

namespace ConnectionSettings.SameFields

variable {settings other : ConnectionSettings}

theorem symm (same : settings.SameFields other) : other.SameFields settings :=
  ⟨same.cot.symm, same.commonAddress.symm, same.ioa.symm⟩

theorem wire (same : settings.SameFields other) (aSdu : ASdu) : aSdu.wire other = aSdu.wire settings := by
  simp only [ASdu.wire, ASdu.addresses, ASdu.contentsWire, same.cot, same.commonAddress, same.ioa]

theorem received (same : settings.SameFields other) : ASdu.received other = ASdu.received settings := by
  funext aSdu
  simp only [ASdu.received, same.cot]

theorem objectFits (same : settings.SameFields other) {count : Nat} {layout : SetLayout}
    {object : InformationObject} (fits : object.Fits settings count layout) :
    object.Fits other count layout := by
  rwa [InformationObject.Fits, same.ioa]

theorem wellShaped (same : settings.SameFields other) {aSdu : ASdu} (shaped : aSdu.WellShaped settings) :
    aSdu.WellShaped other := by
  obtain ⟨cause, originatorAddress, commonAddress, contents⟩ := shaped
  refine ⟨cause, ?_, ?_, ?_⟩
  · rwa [same.cot]
  · rwa [same.commonAddress]
  · cases contents with
    | objects layout objects found single contents count few fit =>
      exact .objects layout objects found single contents count few fun object member =>
        same.objectFits (fit object member)
    | sequence set object found sequence contents count few fit =>
      exact .sequence set object found sequence contents count few (same.objectFits fit)
    | privateInformation id bytes type contents few =>
      exact .privateInformation id bytes type contents few

end ConnectionSettings.SameFields

namespace APdu

def TESTFR_CON_BUFFER : List Octet := [0x68, 0x04, 0x83, 0x00, 0x00, 0x00]
def TESTFR_ACT_BUFFER : List Octet := [0x68, 0x04, 0x43, 0x00, 0x00, 0x00]
def STARTDT_ACT_BUFFER : List Octet := [0x68, 0x04, 0x07, 0x00, 0x00, 0x00]
def STARTDT_CON_BUFFER : List Octet := [0x68, 0x04, 0x0b, 0x00, 0x00, 0x00]
def STOPDT_ACT_BUFFER : List Octet := [0x68, 0x04, 0x13, 0x00, 0x00, 0x00]
def STOPDT_CON_BUFFER : List Octet := [0x68, 0x04, 0x23, 0x00, 0x00, 0x00]

/-- What `os` is given for a frame: the buffer behind the encoder, or one of the constant ones. -/
def octets (settings : ConnectionSettings) (aPdu : APdu) : List Octet :=
  match aPdu.apciType with
  | .I_FORMAT =>
    match aPdu.aSdu with
    | some aSdu => iFormatWire settings aPdu.sendSeqNum aPdu.receiveSeqNum aSdu
    | none => []
  | .S_FORMAT => frameWire ([0x01, 0x00] ++ seqNumOctets aPdu.receiveSeqNum) []
  | .TESTFR_CON => TESTFR_CON_BUFFER
  | .TESTFR_ACT => TESTFR_ACT_BUFFER
  | .STOPDT_CON => STOPDT_CON_BUFFER
  | .STOPDT_ACT => STOPDT_ACT_BUFFER
  | .STARTDT_CON => STARTDT_CON_BUFFER
  | .STARTDT_ACT => STARTDT_ACT_BUFFER

/-- The frames of a connection whose application sends well-shaped ASDUs, and of these only such
that `sends` holds of. -/
inductive Sendable (settings : ConnectionSettings) (sends : ASdu → Prop) : APdu → Prop
  | iFormat {aPdu : APdu} (shaped : aPdu.WellShaped settings) (sent : ∀ aSdu ∈ aPdu.aSdu, sends aSdu) :
    Sendable settings sends aPdu
  | sFormat {receiveSeqNum : Nat} (receive : receiveSeqNum < 2 ^ 15) :
    Sendable settings sends (.sFormat receiveSeqNum)
  | unnumbered {apciType : ApciType} (noInformation : apciType ≠ .I_FORMAT)
    (noSupervision : apciType ≠ .S_FORMAT) : Sendable settings sends (Connection.unnumbered apciType)

variable {settings other : ConnectionSettings} {sends : ASdu → Prop} {aPdu : APdu}

theorem octets_congr (same : settings.SameFields other) (aPdu : APdu) :
    aPdu.octets other = aPdu.octets settings := by
  simp only [octets, iFormatWire, same.wire]

theorem received_congr (same : settings.SameFields other) (aPdu : APdu) :
    aPdu.received other = aPdu.received settings := by
  rw [received, received, same.received]

theorem Sendable.congr (same : settings.SameFields other) (sendable : aPdu.Sendable settings sends) :
    aPdu.Sendable other sends := by
  cases sendable with
  | sFormat receive => exact .sFormat receive
  | unnumbered noInformation noSupervision => exact .unnumbered noInformation noSupervision
  | iFormat shaped sent =>
    obtain ⟨sendSeqNum, receiveSeqNum, aSdu, send, receive, shaped, short⟩ := shaped
    refine .iFormat (.iFormat sendSeqNum receiveSeqNum aSdu send receive (same.wellShaped shaped) ?_) sent
    rwa [iFormatWire, same.wire]

/-- The encoder leaves these octets in the buffer, whatever was there before. -/
theorem written_octets (numbered : aPdu.apciType = .I_FORMAT ∨ aPdu.apciType = .S_FORMAT)
    (sendable : aPdu.Sendable settings sends) (buffer : Vector Octet 255) :
    aPdu.written settings buffer = .ok (aPdu.octets settings) := by
  cases sendable with
  | iFormat shaped _ =>
    obtain ⟨sendSeqNum, receiveSeqNum, aSdu, send, receive, shaped, short⟩ := shaped
    exact written_iFormat _ _ _ buffer shaped.encodable short
  | @sFormat receiveSeqNum receive =>
    have size : (octets settings (sFormat receiveSeqNum)).length = 6 := frameWire_length _ [] rfl
    rw [written, encode_sFormat settings receiveSeqNum buffer (by decide), ok_bind, ← size]
    exact congrArg Except.ok (take_overwrite buffer _ (by rw [size]; decide))
  | unnumbered noInformation noSupervision =>
    exact absurd numbered (not_or.mpr ⟨noInformation, noSupervision⟩)

private theorem yields_controlFields (fields : Vector Octet 4) {result : APdu}
    (read : Reader.Yields (readBody settings 4 fields) [] result) :
    Reader.Yields (decode settings) (frameWire fields.toList []) result := by
  have header : Reader.Yields readHeader (frameWire fields.toList []) (4, fields) := by
    refine (Reader.Yields.next endOfStream START_FLAG).bind ?_
    refine (yields_readApduLength 4 (by decide) (by decide)).bind ?_
    exact (Reader.Yields.vector endOfStream fields).bind (Reader.Yields.pure (4, fields))
  rw [decode_eq, ← List.append_nil (frameWire fields.toList [])]
  exact header.bind read

/-- What a connection writes is read as the frame it wrote. -/
theorem Sendable.yields_decode (sendable : aPdu.Sendable settings sends) :
    Reader.Yields (decode settings) (aPdu.octets settings) (aPdu.received settings) := by
  cases sendable with
  | iFormat shaped _ =>
    obtain ⟨sendSeqNum, receiveSeqNum, aSdu, send, receive, shaped, short⟩ := shaped
    exact yields_iFormatWire _ _ aSdu _ send receive short (ASdu.yields_decode shaped)
  | @sFormat receiveSeqNum receive =>
    let b1 := toByte (BitVec.ofNat 32 receiveSeqNum <<< 1)
    let b2 := toByte ((BitVec.ofNat 32 receiveSeqNum).sshiftRight 7)
    refine yields_controlFields #v[0x01, 0x00, b1, b2] ?_
    have first : #v[(0x01 : Octet), 0x00, b1, b2][0]! = 0x01 := rfl
    have type : ApciType.apciTypeFor 0x01 = .S_FORMAT := rfl
    have numbers : seqNumFrom #v[(0x01 : Octet), 0x00, b1, b2][2]! #v[(0x01 : Octet), 0x00, b1, b2][3]! =
      receiveSeqNum := seqNumFrom_octets receiveSeqNum receive
    simp only [readBody, first, type, numbers]
    exact Reader.Yields.pure (APdu.sFormat receiveSeqNum)
  | @unnumbered apciType noInformation noSupervision =>
    cases apciType with
    | I_FORMAT => exact absurd rfl noInformation
    | S_FORMAT => exact absurd rfl noSupervision
    | TESTFR_CON => exact yields_controlFields #v[0x83, 0x00, 0x00, 0x00] (Reader.Yields.pure _)
    | TESTFR_ACT => exact yields_controlFields #v[0x43, 0x00, 0x00, 0x00] (Reader.Yields.pure _)
    | STOPDT_CON => exact yields_controlFields #v[0x23, 0x00, 0x00, 0x00] (Reader.Yields.pure _)
    | STOPDT_ACT => exact yields_controlFields #v[0x13, 0x00, 0x00, 0x00] (Reader.Yields.pure _)
    | STARTDT_CON => exact yields_controlFields #v[0x0b, 0x00, 0x00, 0x00] (Reader.Yields.pure _)
    | STARTDT_ACT => exact yields_controlFields #v[0x07, 0x00, 0x00, 0x00] (Reader.Yields.pure _)

theorem Sendable.octets_ne_nil (sendable : aPdu.Sendable settings sends) : aPdu.octets settings ≠ [] := by
  intro empty
  have read := sendable.yields_decode []
  rw [empty] at read
  cases read

end APdu

end J60870
