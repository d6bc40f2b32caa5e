import J60870.Transmission

namespace J60870

open Lib

/-- Address in the width of the settings, sets as the layout reads them. -/
def InformationObject.Fits (settings : ConnectionSettings) (numberOfSequenceElements : Nat)
    (layout : SetLayout) (object : InformationObject) : Prop :=
  object.informationObjectAddress.toNat < 2 ^ (8 * settings.ioaFieldLength) ∧
    SetsFit numberOfSequenceElements object.informationElements layout

namespace ASdu

/-- The contents an ASDU can have for its type and its SQ bit. -/
inductive ContentsFit (settings : ConnectionSettings) (aSdu : ASdu) : Prop
  /-- SQ = 0: up to 127 objects with one set each -/
  | objects (layout : SetLayout) (objects : List InformationObject)
      (found : layoutOf aSdu.aSduType = some layout)
      (single : aSdu.isSequenceOfElements = false)
      (contents : aSdu.informationObjects = some objects ∧ aSdu.privateInformation = none)
      (count : aSdu.sequenceLength = BitVec.ofNat 32 objects.length)
      (few : objects.length ≤ 127)
      (fit : ∀ object ∈ objects, object.Fits settings 1 layout)
  /-- SQ = 1: one object with up to 127 sets, for a type that loops over them -/
  | sequence (set : List ElementClass) (object : InformationObject)
      (found : layoutOf aSdu.aSduType = some (.looped set))
      (sequence : aSdu.isSequenceOfElements = true)
      (contents : aSdu.informationObjects = some [object] ∧ aSdu.privateInformation = none)
      (count : aSdu.sequenceLength = BitVec.ofNat 32 object.informationElements.length)
      (few : object.informationElements.length ≤ 127)
      (fit : object.Fits settings object.informationElements.length (.looped set))
  /-- a private type: any payload, and any count that the qualifier can hold -/
  | privateInformation (id : { id // IsPrivate id }) (bytes : List Octet)
      (type : aSdu.aSduType = .PRIVATE id)
      (contents : aSdu.informationObjects = none ∧ aSdu.privateInformation = some bytes)
      (few : aSdu.sequenceLength.toNat ≤ 127)

/-- A cause, addresses in the widths of the settings, and fitting contents. -/
structure WellShaped (settings : ConnectionSettings) (aSdu : ASdu) : Prop where
  cause : aSdu.causeOfTransmission.isSome
  originatorAddress : settings.cotFieldLength = 2 → aSdu.originatorAddress.toNat < 2 ^ 8
  commonAddress : aSdu.commonAddress.toNat < 2 ^ (8 * settings.commonAddressFieldLength)
  contents : aSdu.ContentsFit settings

/-- The ASDU as the other side holds it: the same, but without an originator
address where the cause field has one octet, and of file segments the stretch
that was sent. -/
def received (settings : ConnectionSettings) (aSdu : ASdu) : ASdu :=
  { aSdu with
    originatorAddress := if settings.cotFieldLength = 2 then aSdu.originatorAddress else -1
    informationObjects := aSdu.informationObjects.map fun objects =>
      objects.map InformationObject.received }

variable {settings : ConnectionSettings} {aSdu : ASdu}

theorem ContentsFit.few (fit : aSdu.ContentsFit settings) : aSdu.sequenceLength.toNat ≤ 127 := by
  cases fit with
  | objects layout objects found single contents count few fit =>
    rw [count, BitVec.toNat_ofNat]
    omega
  | sequence set object found sequence contents count few fit =>
    rw [count, BitVec.toNat_ofNat]
    omega
  | privateInformation id bytes type contents few => exact few

/-- What fits has the shape of its type. -/
theorem ContentsFit.shape_or_private (fit : aSdu.ContentsFit settings) :
    (∃ layout objects count, aSdu.Shape layout objects count ∧ count ≤ 127 ∧
      ∀ object ∈ objects,
        object.informationObjectAddress.toNat < 2 ^ (8 * settings.ioaFieldLength) ∧
        ∀ row ∈ object.informationElements, ∀ e ∈ row, e.InRange) ∨
    ∃ id bytes, aSdu.aSduType = .PRIVATE id ∧ aSdu.informationObjects = none ∧
      aSdu.privateInformation = some bytes := by
  cases fit with
  | objects layout objects found single contents count few fit =>
    refine .inl ⟨layout, objects, objects.length, ⟨found, contents, by simp [single], ?_, ?_, count⟩,
      few, fun object member => ⟨(fit object member).1, (fit object member).2.inRange⟩⟩
    · intro object member
      rw [single]
      exact (fit object member).2.within
    · intro sequence
      rw [single] at sequence
      cases sequence
  | sequence set object found sequence contents count few fit =>
    have only : ∀ other ∈ [object], other = object := fun other member => List.mem_singleton.mp member
    refine .inl ⟨.looped set, [object], _, ⟨found, contents, by simp [sequence], ?_, ?_, count⟩, few, ?_⟩
    · intro other member
      rw [sequence, only other member]
      exact fit.2.within
    · intro _ other member
      rw [only other member]
    · intro other member
      rw [only other member]
      exact ⟨fit.1, fit.2.inRange⟩
  | privateInformation id bytes type contents few => exact .inr ⟨id, bytes, type, contents⟩

theorem WellShaped.encodable (shaped : aSdu.WellShaped settings) : aSdu.Encodable := by
  refine ⟨shaped.cause, ?_⟩
  rcases shaped.contents.shape_or_private with ⟨layout, objects, count, shape, _⟩ |
    ⟨id, bytes, _, none, payload⟩
  · rw [shape.contents.1]
    exact fun object member => (shape.sets object member).encodable
  · rw [none, payload]
    rfl

/-- In range, the other side holds what was sent. -/
theorem WellShaped.delivered_eq (shaped : aSdu.WellShaped settings) :
    aSdu.delivered settings = aSdu.received settings := by
  have originator : (if settings.cotFieldLength = 2 then low aSdu.originatorAddress 8 else (-1 : JInt)) =
      if settings.cotFieldLength = 2 then aSdu.originatorAddress else -1 := by
    split
    · rename_i two
      exact low_of_lt _ _ (shaped.originatorAddress two)
    · rfl
  have objects : (aSdu.informationObjects.map fun objects =>
      objects.map (InformationObject.delivered settings.ioaFieldLength)) =
      aSdu.informationObjects.map fun objects => objects.map InformationObject.received := by
    rcases shaped.contents.shape_or_private with ⟨layout, objects, count, shape, _, inRange⟩ |
      ⟨id, bytes, _, none, payload⟩
    · rw [shape.contents.1, Option.map_some, Option.map_some]
      exact congrArg some (List.map_congr_left fun object member =>
        InformationObject.delivered_eq_received (inRange object member).1 (inRange object member).2)
    · rw [none, Option.map_none, Option.map_none]
  rw [delivered, received, originator, objects, low_of_lt _ _ shaped.commonAddress]

theorem yields_decode (shaped : aSdu.WellShaped settings) :
    Reader.Yields (decode settings (aSdu.wire settings).length) (aSdu.wire settings)
      (aSdu.received settings) := by
  rw [← shaped.delivered_eq]
  rcases shaped.contents.shape_or_private with ⟨layout, objects, count, shape, few, _⟩ |
    ⟨id, bytes, type, contents⟩
  · exact shape.yields_decode settings shaped.cause few _
  · exact yields_decode_private id bytes type contents shaped.cause shaped.contents.few

end ASdu

namespace APdu

/-- An I frame with sequence numbers of fifteen bits and a well-shaped ASDU, 255
octets long at most. -/
inductive WellShaped (settings : ConnectionSettings) : APdu → Prop
  | iFormat (sendSeqNum receiveSeqNum : Nat) (aSdu : ASdu) (send : sendSeqNum < 2 ^ 15)
      (receive : receiveSeqNum < 2 ^ 15) (shaped : aSdu.WellShaped settings)
      (short : (iFormatWire settings sendSeqNum receiveSeqNum aSdu).length ≤ 255) :
      WellShaped settings (iFormat sendSeqNum receiveSeqNum aSdu)

def received (settings : ConnectionSettings) (aPdu : APdu) : APdu :=
  { aPdu with aSdu := aPdu.aSdu.map (ASdu.received settings) }

variable {settings : ConnectionSettings}

/-- A well-shaped frame is written into any buffer and comes back from what was
written. -/
theorem WellShaped.yields_decode {aPdu : APdu} (shaped : aPdu.WellShaped settings) :
    ∃ wire, (∀ buffer : Vector Octet 255, aPdu.written settings buffer = .ok wire) ∧
      Reader.Yields (decode settings) wire (aPdu.received settings) := by
  obtain ⟨sendSeqNum, receiveSeqNum, aSdu, send, receive, shaped, short⟩ := shaped
  refine ⟨iFormatWire settings sendSeqNum receiveSeqNum aSdu,
    fun buffer => written_iFormat _ _ _ buffer shaped.encodable short, ?_⟩
  exact yields_iFormatWire _ _ aSdu _ send receive short (ASdu.yields_decode shaped)

/-- Round trip of a whole stream: what the encoder writes for the frames, one after
the other, is decoded to the same frames, and to the last octet. -/
theorem decode_written_stream (settings : ConnectionSettings)
    (frames : List (APdu × Vector Octet 255))
    (shaped : ∀ frame ∈ frames, frame.1.WellShaped settings) :
    ∃ sent, frames.mapM (fun frame => frame.1.written settings frame.2) = .ok sent ∧
      ∀ rest, Reader.times frames.length (decode settings) (sent.flatten ++ rest) =
        .ok (frames.map fun frame => frame.1.received settings, rest) := by
  choose! wire writes reads using fun frame member => (shaped frame member).yields_decode
  refine ⟨frames.map wire, mapM_ok fun frame member => writes frame member frame.2, ?_⟩
  rw [← List.flatMap_def]
  exact Reader.Yields.times reads

def sampleFloats : ASdu where
  aSduType := .M_ME_NC_1
  isSequenceOfElements := true
  causeOfTransmission := some .spontaneous
  test := false
  negativeConfirm := true
  originatorAddress := 7
  commonAddress := 65535
  informationObjects := some [⟨0x10203, [[.ieShortFloat ⟨0x3fc00000⟩, .ieQuality 0x80],
    [.ieShortFloat ⟨0x80000000⟩, .ieQuality 0x00]]⟩]
  privateInformation := none
  sequenceLength := 2

def samplePrivate : ASdu where
  aSduType := .PRIVATE ⟨200, by decide⟩
  isSequenceOfElements := false
  causeOfTransmission := some .request
  test := true
  negativeConfirm := false
  originatorAddress := 255
  commonAddress := 1
  informationObjects := none
  privateInformation := some [0xff, 0x68, 0x04]
  sequenceLength := 127

private theorem sampleFloats_wellShaped : sampleFloats.WellShaped {} where
  cause := rfl
  originatorAddress _ := by decide
  commonAddress := by decide
  contents := .sequence [.ieShortFloat, .ieQuality] _ rfl rfl ⟨rfl, rfl⟩ rfl (by decide)
    ⟨by decide, rfl, by simp only [InformationObject.SetFits]; decide⟩

private theorem samplePrivate_wellShaped : samplePrivate.WellShaped {} where
  cause := rfl
  originatorAddress _ := by decide
  commonAddress := by decide
  contents := .privateInformation _ _ rfl ⟨rfl, rfl⟩ (by decide)

private theorem sample_wellShaped (buffer : Vector Octet 255) :
    ∀ frame ∈ [(iFormat 32767 0 sampleFloats, buffer), (iFormat 0 12345 samplePrivate, buffer)],
      frame.1.WellShaped {} := by
  intro frame member
  rcases List.mem_pair.mp member with rfl | rfl
  · exact .iFormat _ _ _ (by decide) (by decide) sampleFloats_wellShaped (by decide)
  · exact .iFormat _ _ _ (by decide) (by decide) samplePrivate_wellShaped (by decide)

theorem decode_written_stream_sample :
    ∃ sent, [(iFormat 32767 0 sampleFloats, Vector.replicate 255 0xff),
        (iFormat 0 12345 samplePrivate, Vector.replicate 255 0xff)].mapM
          (fun frame => frame.1.written {} frame.2) = .ok sent ∧
      ∀ rest, Reader.times 2 (decode {}) (sent.flatten ++ rest) =
        .ok ([iFormat 32767 0 sampleFloats, iFormat 0 12345 samplePrivate], rest) :=
  decode_written_stream {} [(iFormat 32767 0 sampleFloats, Vector.replicate 255 0xff),
    (iFormat 0 12345 samplePrivate, Vector.replicate 255 0xff)] (sample_wellShaped _)

end APdu

end J60870
