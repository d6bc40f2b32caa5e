import J60870.Connection.Windows
import J60870.Transmission

namespace J60870

open Lib Method

/-- The ASDU fits into the buffer of a connection. -/
def ASdu.Fits (settings : ConnectionSettings) (aSdu : ASdu) : Prop :=
  aSdu.Encodable ∧ 6 + (aSdu.wire settings).length ≤ 255

instance (settings : ConnectionSettings) : DecidablePred (ASdu.Fits settings) :=
  fun _ => inferInstanceAs (Decidable (_ ∧ _))

namespace Connection

variable {settings : ConnectionSettings} {c : Connection}

section Rules

variable {E : JavaException → Connection → Prop} {Q : Unit → Connection → Prop}

@[irreducible] def iFormatBuffer (settings : ConnectionSettings) (buffer : Vector Octet 255)
    (sendSeqNum receiveSeqNum : Nat) (aSdu : ASdu) : Vector Octet 255 :=
  overwrite buffer 0 (APdu.iFormatWire settings sendSeqNum receiveSeqNum aSdu)

theorem post_encode_iFormat {sendSeqNum receiveSeqNum : Nat} {aSdu : ASdu} (fits : aSdu.Fits settings) :
    Post (encode settings (.iFormat sendSeqNum receiveSeqNum aSdu)) c Q E ↔
      Q () { c with buffer := iFormatBuffer settings c.buffer sendSeqNum receiveSeqNum aSdu } := by
  simp [encode, iFormatBuffer, APdu.encode_iFormat settings sendSeqNum receiveSeqNum aSdu c.buffer fits.1 fits.2]

/-- What does not fit is refused, and leaves its header in the buffer. -/
theorem post_encode_unfit {aSdu : ASdu} (unfit : ¬ aSdu.Fits settings) (sendSeqNum receiveSeqNum : Nat)
    (c : Connection) : ∃ e, ∀ {Q : Unit → Connection → Prop} {E : JavaException → Connection → Prop},
      Post (encode settings (.iFormat sendSeqNum receiveSeqNum aSdu)) c Q E ↔
        E e { c with buffer := (APdu.iFormat sendSeqNum receiveSeqNum aSdu).begun c.buffer } := by
  obtain ⟨e, refused⟩ := APdu.encode_iFormat_throws settings sendSeqNum receiveSeqNum aSdu c.buffer
    (by decide) unfit
  refine ⟨e, ?_⟩
  intro Q E
  simp [encode, refused]

end Rules

/-- `os` does not fail any more. -/
def Sound (c : Connection) : Prop := ∀ call, c.ioCalls ≤ call → c.ioFails call = false

/-- The frames of a `send`: the S frame that goes out where the send number wraps, and the
I frame. -/
def sentFrames (c : Connection) (aSdu : ASdu) : List APdu :=
  (if c.numbered.sendSequenceNumber < c.sendSequenceNumber then [.sFormat c.receiveSequenceNumber]
    else []) ++ [.iFormat c.sendSequenceNumber c.receiveSequenceNumber aSdu]

def Emits (c : Connection) (method : Body Unit) (frames : List APdu) : Prop :=
  Post method c (fun _ d => d.written = c.written ++ frames.map (⟨·, c.stopped⟩)) (fun _ _ => False)

/-- On an open, started connection without I/O errors, `send` writes an ASDU that fits. -/
theorem emits_send (isOpen : c.closed = false) (isStarted : c.stopped = false) (sound : c.Sound)
    {aSdu : ASdu} (fits : aSdu.Fits settings) : Emits c (send settings aSdu) (c.sentFrames aSdu) := by
  have quiet (k : Nat) : c.ioFails (c.ioCalls + k) = false := sound _ (Nat.le_add_right _ _)
  have first : c.ioFails c.ioCalls = false := quiet 0
  rw [Emits, send, post_bind, post_prepareSend]
  refine ⟨fun shut => by simp [isOpen] at shut, fun _ => ⟨fun halted => by simp [isStarted] at halted,
    fun _ => ⟨fun wraps => ?_, fun plain => ?_⟩⟩⟩
  · have frames : c.sentFrames aSdu = [.sFormat c.receiveSequenceNumber,
        .iFormat c.sendSequenceNumber c.receiveSequenceNumber aSdu] := by
      rw [sentFrames, if_pos wraps]
      rfl
    have last : c.ioFails (c.ioCalls + 2 + 1) = false := quiet 3
    simp [post_encode_iFormat fits, first, quiet, last, isOpen, frames]
  · have frames : c.sentFrames aSdu = [.iFormat c.sendSequenceNumber c.receiveSequenceNumber aSdu] := by
      rw [sentFrames, if_neg (Nat.not_lt.mpr plain)]
      rfl
    simp [post_encode_iFormat fits, first, quiet, isOpen, frames]

/-- The I frames that were written between two states. -/
def iFramesWritten (c d : Connection) : List APdu :=
  ((d.written.drop c.written.length).map Written.frame).filter (·.apciType = .I_FORMAT)

/-- The call returns and has written one I frame, whose octets are as they should be. -/
def EmitsIFrame (settings : ConnectionSettings) (c : Connection) (method : Body Unit)
    (octets : List Octet → Prop) : Prop :=
  Post method c (fun _ d => ∃ frame sent, c.iFramesWritten d = [frame] ∧
    (∀ buffer : Vector Octet 255, frame.written settings buffer = .ok sent) ∧ octets sent) (fun _ _ => False)

theorem iFramesWritten_of_emits {d : Connection} {aSdu : ASdu}
    (emits : d.written = c.written ++ (c.sentFrames aSdu).map (⟨·, c.stopped⟩)) :
    c.iFramesWritten d = [.iFormat c.sendSequenceNumber c.receiveSequenceNumber aSdu] := by
  rw [iFramesWritten, emits, List.drop_left, List.map_map, sentFrames]
  split <;> simp [APdu.iFormat, APdu.sFormat]

/-- What is asked of the octets is asked of the frame with the next send number. -/
theorem emitsIFrame_send_iff (isOpen : c.closed = false) (isStarted : c.stopped = false)
    (sound : c.Sound) {aSdu : ASdu} (fits : aSdu.Fits settings) (octets : List Octet → Prop) :
    EmitsIFrame settings c (send settings aSdu) octets ↔
      octets (APdu.iFormatWire settings c.sendSequenceNumber c.receiveSequenceNumber aSdu) := by
  have emits := emits_send isOpen isStarted sound fits
  have size : (APdu.iFormatWire settings c.sendSequenceNumber c.receiveSequenceNumber aSdu).length =
      6 + (aSdu.wire settings).length := APdu.frameWire_length _ _ rfl
  have written (buffer : Vector Octet 255) :=
    APdu.written_iFormat c.sendSequenceNumber c.receiveSequenceNumber aSdu buffer fits.1 (size ▸ fits.2)
  constructor
  · intro emitted
    have both := Post.and emits emitted
    refine Post.outcome (m := send settings aSdu) (s := c) (P := fun _ => octets _) ?_
    refine both.mono ?_ fun _ _ failed => failed.1.elim
    rintro _ d ⟨frames, frame, sent, one, goesOut, right⟩
    rw [iFramesWritten_of_emits frames] at one
    obtain rfl := List.singleton_inj.mp one
    obtain rfl := Except.ok.inj ((written (Vector.replicate 255 0)).symm.trans (goesOut _))
    exact right
  · intro right
    refine emits.mono (fun _ d frames => ?_) fun _ _ failed => failed.elim
    exact ⟨_, _, iFramesWritten_of_emits frames, written, right⟩

/-- What does not fit makes `send` throw. -/
theorem not_emitsIFrame_of_unfit (isOpen : c.closed = false) (isStarted : c.stopped = false)
    (sound : c.Sound) {aSdu : ASdu} (unfit : ¬ aSdu.Fits settings) (octets : List Octet → Prop) :
    ¬ EmitsIFrame settings c (send settings aSdu) octets := by
  have quiet (k : Nat) : c.ioFails (c.ioCalls + k) = false := sound _ (Nat.le_add_right _ _)
  have first : c.ioFails c.ioCalls = false := quiet 0
  have refused (d : Connection) {Q : Unit → Connection → Prop} :
      ¬ Post (encode settings (.iFormat c.sendSequenceNumber c.receiveSequenceNumber aSdu)) d Q
        (fun _ _ => False) := by
    obtain ⟨e, thrown⟩ := post_encode_unfit unfit c.sendSequenceNumber c.receiveSequenceNumber d
    rw [thrown]
    exact id
  intro emitted
  rw [EmitsIFrame, send, post_bind, post_prepareSend] at emitted
  obtain ⟨overflowing, plain⟩ := (emitted.2 isOpen).2 isStarted
  by_cases wraps : c.numbered.sendSequenceNumber < c.sendSequenceNumber
  · have sent := overflowing wraps
    rw [post_sendSFormatPdu] at sent
    have encoded := (sent.2 first).2 ⟨quiet 1, isOpen⟩
    rw [post_bind] at encoded
    exact refused _ encoded
  · have encoded := plain (Nat.le_of_not_lt wraps)
    rw [post_bind] at encoded
    exact refused _ encoded

/-- The four counters, and whether the timers t1 and t2 are planned or cancelled. -/
def protocolState (c : Connection) : (Nat × Nat × Nat × Nat) × (Bool × Bool) × Bool × Bool :=
  (c.numbers, ((c.timer .maxTimeNoAckReceived).isPlanned, (c.timer .maxTimeNoAckReceived).canceled),
    (c.timer .maxTimeNoAckSentTimer).isPlanned, (c.timer .maxTimeNoAckSentTimer).canceled)

/-- If the encoder throws in a `send`, the protocol state is the one before the call. -/
def FailedSendKeepsState (settings : ConnectionSettings) (c : Connection) (aSdu : ASdu) : Prop :=
  Post (prepareSend settings aSdu) c
    (fun aPdu d => Post (encode settings aPdu) d (fun _ _ => True)
      (fun _ t => t.protocolState = c.protocolState))
    (fun _ _ => True)

/-- The number of an I frame is taken before the frame is encoded, so the encoder never
throws without harm: the state is kept only where it is not reached or does not throw. -/
theorem failedSendKeepsState_iff (aSdu : ASdu) :
    FailedSendKeepsState settings c aSdu ↔
      c.closed = true ∨ c.stopped = true ∨ aSdu.Fits settings ∨
      c.numbered.sendSequenceNumber < c.sendSequenceNumber ∧
        (c.ioFails c.ioCalls = true ∨ c.ioFails (c.ioCalls + 1) = true) := by
  by_cases closed : c.closed = true
  · simp [FailedSendKeepsState, post_prepareSend, closed]
  by_cases stopped : c.stopped = true
  · simp [FailedSendKeepsState, post_prepareSend, closed, stopped]
  rw [FailedSendKeepsState, post_prepareSend]
  by_cases fits : aSdu.Fits settings
  · simp [post_encode_iFormat fits, fits]
  -- the encoder throws: the send number has moved on by then
  have harmed (d : Connection) (counted : d.sendSequenceNumber = c.numbered.sendSequenceNumber) :
      ¬ Post (encode settings (.iFormat c.sendSequenceNumber c.receiveSequenceNumber aSdu)) d
        (fun _ _ => True) (fun _ t => t.protocolState = c.protocolState) := by
    obtain ⟨e, refused⟩ := post_encode_unfit fits c.sendSequenceNumber c.receiveSequenceNumber d
    rw [refused]
    intro same
    have sameNumber : d.sendSequenceNumber = c.sendSequenceNumber := congrArg (fun state => state.1.1) same
    rw [counted, numbered_sendSequenceNumber] at sameNumber
    omega
  have isOpen := Bool.eq_false_iff.mpr closed
  have isStarted := Bool.eq_false_iff.mpr stopped
  constructor
  · intro kept
    obtain ⟨overflowing, plain⟩ := (kept.2 isOpen).2 isStarted
    refine .inr (.inr (.inr ?_))
    by_cases overflow : c.numbered.sendSequenceNumber < c.sendSequenceNumber
    · refine ⟨overflow, ?_⟩
      by_contra sent
      obtain ⟨first, second⟩ := not_or.mp sent
      rw [post_sendSFormatPdu] at overflowing
      exact harmed c.numbered.sFormatSent.armed rfl (((overflowing overflow).2 (Bool.eq_false_iff.mpr first)).2
        ⟨Bool.eq_false_iff.mpr second, isOpen⟩)
    · exact absurd (plain (Nat.le_of_not_lt overflow)) (harmed _ rfl)
  · rintro (shut | halted | fitting | ⟨overflow, fails⟩)
    · exact absurd shut closed
    · exact absurd halted stopped
    · exact absurd fitting fits
    · refine ⟨fun _ => trivial, fun _ => ⟨fun _ => trivial, fun _ => ⟨fun _ => ?_, fun plain => ?_⟩⟩⟩
      · rw [post_sendSFormatPdu]
        refine ⟨fun _ => trivial, fun first => ⟨fun _ => trivial, fun second => ?_⟩⟩
        rcases fails with fails | fails
        · exact absurd (first.symm.trans fails) Bool.false_ne_true
        · exact absurd (second.1.symm.trans fails) Bool.false_ne_true
      · exact absurd overflow (Nat.not_lt.mpr plain)

def sampleWithoutCause : ASdu := { sampleCommand with causeOfTransmission := none }

/-- The next command goes out as number 1, where the peer expects 0. -/
theorem not_failedSendKeepsState :
    ∃ c d, Run (Step {} true) (started {} (fun _ => false) 0)
        [.setConnectionListener (some 7), .receive (sampleUnnumbered .STARTDT_ACT)] c ∧
      c.IsOpen ∧ c.stopped = false ∧ c.getNumUnconfirmedAPdusSent = 0 ∧
      ¬ FailedSendKeepsState {} c sampleWithoutCause ∧
      Run (Step {} true) c [.send sampleWithoutCause, .send sampleCommand] d ∧
      d.written = [⟨unnumbered .STARTDT_CON, true⟩, ⟨.iFormat 1 0 sampleCommand, false⟩] := by
  refine ⟨_, _, run_of_runActions rfl, ⟨rfl, rfl⟩, rfl, rfl, ?_, run_of_runActions rfl, rfl⟩
  intro kept
  exact absurd (congrArg (fun state => state.1.1) kept : 1 = 0) (by decide)

end Connection

end J60870
