import J60870.Connection.Unwrapped

namespace J60870

open Lib Method

namespace APdu

/-- The receive number of a frame that carries one. -/
def confirmation (aPdu : APdu) : Option Nat :=
  match aPdu.apciType with
  | .I_FORMAT | .S_FORMAT => some aPdu.receiveSeqNum
  | _ => none

/-- A frame by its four control fields, which are read as the decoder reads them. -/
def ofControlFields (c1 c2 c3 c4 : Octet) : APdu :=
  match ApciType.apciTypeFor c1 with
  | .I_FORMAT => ⟨seqNumFrom c1 c2, seqNumFrom c3 c4, .I_FORMAT, none⟩
  | .S_FORMAT => ⟨0, seqNumFrom c3 c4, .S_FORMAT, none⟩
  | apciType => ⟨0, 0, apciType, none⟩

/-- The frame whose header is in the buffer, without its ASDU. -/
def header (buffer : Vector Octet 255) : APdu :=
  ofControlFields buffer[2]! buffer[3]! buffer[4]! buffer[5]!

variable {buffer : Vector Octet 255} {sendSeqNum receiveSeqNum : Nat}

private theorem getElem!_overwrite {i j : Nat} {bs : List Octet} (inside : j < bs.length)
    (fits : i + bs.length ≤ 255) : (overwrite buffer i bs)[i + j]! = bs[j] := by
  have bound : i + j < 255 := by omega
  rw [getElem!_pos _ (i + j) bound]
  exact getElem_overwrite_of_mem buffer i j bs bound inside

private theorem header_overwrite (c1 c2 c3 c4 : Octet) :
    header (overwrite buffer 2 [c1, c2, c3, c4]) = ofControlFields c1 c2 c3 c4 := by
  have field (j : Nat) (inside : j < 4) :
      (overwrite buffer 2 [c1, c2, c3, c4])[2 + j]! = [c1, c2, c3, c4][j] :=
    getElem!_overwrite inside (Nat.le_of_ble_eq_true rfl)
  rw [header, field 0 (by decide), field 1 (by decide), field 2 (by decide), field 3 (by decide)]
  rfl

private theorem header_frameWire (c1 c2 c3 c4 : Octet) {payload : List Octet}
    (fits : 6 + payload.length ≤ 255) :
    header (overwrite buffer 0 (frameWire [c1, c2, c3, c4] payload)) = ofControlFields c1 c2 c3 c4 := by
  let frame := frameWire [c1, c2, c3, c4] payload
  have length : frame.length = 6 + payload.length := frameWire_length _ _ rfl
  have field (j : Nat) (inside : j < frame.length) : (overwrite buffer 0 frame)[0 + j]! = frame[j] :=
    getElem!_overwrite inside (by omega)
  simp only [Nat.zero_add] at field
  rw [header, field 2 (by omega), field 3 (by omega), field 4 (by omega), field 5 (by omega)]
  rfl

private theorem confirmation_iFormatFields (c2 : Octet) (receive_lt : receiveSeqNum < 2 ^ 15) :
    (ofControlFields (toByte (BitVec.ofNat 32 sendSeqNum <<< 1)) c2
      (toByte (BitVec.ofNat 32 receiveSeqNum <<< 1))
      (toByte ((BitVec.ofNat 32 receiveSeqNum).sshiftRight 7))).confirmation = some receiveSeqNum := by
  rw [ofControlFields, apciTypeFor_iFormat, seqNumFrom_octets _ receive_lt]
  rfl

theorem confirmation_sFormatBuffer (receive_lt : receiveSeqNum < 2 ^ 15) :
    (header (Connection.sFormatBuffer buffer receiveSeqNum)).confirmation = some receiveSeqNum := by
  have supervisory : ApciType.apciTypeFor 0x01 = .S_FORMAT := by decide
  rw [Connection.sFormatBuffer]
  change (header (overwrite buffer 0 (frameWire [0x01, 0x00, _, _] []))).confirmation = _
  rw [header_frameWire _ _ _ _ (by decide), ofControlFields, supervisory, seqNumFrom_octets _ receive_lt]
  rfl

theorem confirmation_iFormatBuffer {settings : ConnectionSettings} {aSdu : ASdu}
    (fits : aSdu.Fits settings) (receive_lt : receiveSeqNum < 2 ^ 15) :
    (header (Connection.iFormatBuffer settings buffer sendSeqNum receiveSeqNum aSdu)).confirmation =
      some receiveSeqNum := by
  rw [Connection.iFormatBuffer]
  change (header (overwrite buffer 0 (frameWire [_, _, _, _] _))).confirmation = _
  rw [header_frameWire _ _ _ _ fits.2, confirmation_iFormatFields _ receive_lt]

theorem confirmation_begun {aSdu : ASdu} (receive_lt : receiveSeqNum < 2 ^ 15) :
    (header ((iFormat sendSeqNum receiveSeqNum aSdu).begun buffer)).confirmation = some receiveSeqNum := by
  rw [begun]
  change (header (overwrite _ 2 [_, _, _, _])).confirmation = _
  rw [header_overwrite, iFormat, confirmation_iFormatFields _ receive_lt]

end APdu

namespace Connection

variable {settings : ConnectionSettings} {server : Bool} {b c d : Connection}

def confirmations (c : Connection) : List Nat := c.frames.filterMap APdu.confirmation

/-- The receive number written last, and 0 if there is none. -/
def lastConfirmation (c : Connection) : Nat := c.confirmations.getLast?.getD 0

def announced (c : Connection) : Option Nat := (APdu.header c.buffer).confirmation

/-- What was recorded as acknowledged is what was written last. -/
def Settled (c : Connection) : Prop := c.acknowledgedReceiveSequenceNumber = c.lastConfirmation

/-- What `os` takes it also flushes. -/
def Flushes (c : Connection) : Prop := c.ioFails c.ioCalls = true ∨ c.ioFails (c.ioCalls + 1) = false

theorem Flushes.passes (flushes : c.Flushes) (isOpen : c.IsOpen) (taken : c.ioFails c.ioCalls = false) :
    ¬ (c.ioFails (c.ioCalls + 1) = true ∨ c.closed = true) := by
  have flushed := flushes.resolve_left (Bool.eq_false_iff.mp taken)
  simp [flushed, isOpen.1]

/-- The two steps under the lock that can part what is recorded from what is written:
`send` records before it writes, and an S frame of the t2 timer that is written and not
flushed is not recorded. -/
def RecordKept (settings : ConnectionSettings) (c : Connection) : Action → Prop
  | .send aSdu => c.IsOpen → c.stopped = false →
      c.receiveSequenceNumber = c.acknowledgedReceiveSequenceNumber ∨
      c.ioFails c.ioCalls = false ∧
        (aSdu.Fits settings ∨ c.numbered.sendSequenceNumber < c.sendSequenceNumber)
  | .fire .maxTimeNoAckSentTimer => c.IsOpen →
      c.receiveSequenceNumber = c.acknowledgedReceiveSequenceNumber ∨ c.Flushes
  | _ => True

/-- A step has led from `b` to `c`, or is on its way: one I frame at most has been counted,
and only the number behind it has been confirmed. -/
structure Advanced (b c : Connection) : Prop where
  receive_lt : c.receiveSequenceNumber < 2 ^ 15
  counted : c.receiveSequenceNumber = b.receiveSequenceNumber ∨
    c.receiveSequenceNumber = (b.receiveSequenceNumber + 1) % 2 ^ 15
  confirmed : ∃ n, c.confirmations = b.confirmations ++ List.replicate n c.receiveSequenceNumber
  announced : c.confirmations = b.confirmations ∧ c.buffer = b.buffer ∨
    c.announced = some c.receiveSequenceNumber

def receivingSide (c : Connection) : (Nat × Nat) × List Nat × Vector Octet 255 × Bool × ReaderState :=
  ((c.receiveSequenceNumber, c.acknowledgedReceiveSequenceNumber), c.confirmations, c.buffer, c.closed,
    c.reader)

theorem confirmations_append {frame : APdu} {stopped : Bool} {number : Nat}
    (written : d.written = c.written ++ [⟨frame, stopped⟩]) (carries : frame.confirmation = some number) :
    d.confirmations = c.confirmations ++ [number] := by
  simp [confirmations, frames, written, carries]

theorem lastConfirmation_append {number : Nat} (written : d.confirmations = c.confirmations ++ [number]) :
    d.lastConfirmation = number := by
  rw [lastConfirmation, written, List.getLast?_concat, Option.getD_some]

theorem sFormatUnflushed_confirmations :
    c.sFormatUnflushed.confirmations = c.confirmations ++ [c.receiveSequenceNumber] :=
  confirmations_append rfl rfl

theorem sFormatSent_confirmations :
    c.sFormatSent.confirmations = c.confirmations ++ [c.receiveSequenceNumber] :=
  confirmations_append rfl rfl

namespace Advanced

theorem refl (receive_lt : c.receiveSequenceNumber < 2 ^ 15) : Advanced c c :=
  ⟨receive_lt, .inl rfl, ⟨0, (List.append_nil _).symm⟩, .inl ⟨rfl, rfl⟩⟩

theorem congr (advanced : Advanced b c)
    (same : (d.receiveSequenceNumber, d.confirmations, d.buffer) =
      (c.receiveSequenceNumber, c.confirmations, c.buffer)) : Advanced b d := by
  simp only [Prod.mk.injEq] at same
  obtain ⟨receive, confirmations, buffer⟩ := same
  obtain ⟨receive_lt, counted, confirmed, announced⟩ := advanced
  constructor
  · rwa [receive]
  · rwa [receive]
  · rwa [receive, confirmations]
  · rwa [Connection.announced, receive, confirmations, buffer]

/-- The current number is encoded. -/
theorem encoded (advanced : Advanced b c) {buffer : Vector Octet 255}
    (announced : (APdu.header buffer).confirmation = some c.receiveSequenceNumber) :
    Advanced b { c with buffer := buffer } :=
  ⟨advanced.receive_lt, advanced.counted, advanced.confirmed, .inr announced⟩

theorem written (advanced : Advanced b c) (announced : c.announced = some c.receiveSequenceNumber)
    (confirmations : d.confirmations = c.confirmations ++ [c.receiveSequenceNumber])
    (same : (d.receiveSequenceNumber, d.buffer) = (c.receiveSequenceNumber, c.buffer)) : Advanced b d := by
  simp only [Prod.mk.injEq] at same
  obtain ⟨receive, buffer⟩ := same
  obtain ⟨receive_lt, counted, ⟨n, confirmed⟩, -⟩ := advanced
  constructor
  · rwa [receive]
  · rwa [receive]
  · refine ⟨n + 1, ?_⟩
    rw [confirmations, confirmed, receive, List.append_assoc, List.replicate_succ']
  · rw [Connection.announced, receive, buffer]
    exact .inr announced

theorem sFormatUnwritten (advanced : Advanced b c) : Advanced b c.sFormatUnwritten :=
  (advanced.encoded (APdu.confirmation_sFormatBuffer advanced.receive_lt)).congr rfl

theorem sFormatUnflushed (advanced : Advanced b c) : Advanced b c.sFormatUnflushed :=
  advanced.sFormatUnwritten.written (APdu.confirmation_sFormatBuffer advanced.receive_lt)
    sFormatUnflushed_confirmations rfl

theorem sFormatSent (advanced : Advanced b c) : Advanced b c.sFormatSent :=
  advanced.sFormatUnflushed.congr rfl

end Advanced

/-- The same, and what is recorded has stayed what is written, if the step meets the
condition. -/
structure Recording (kept : Prop) (b c : Connection) : Prop extends Advanced b c where
  settled : kept → c.IsOpen → c.Settled

namespace Recording

variable {kept : Prop}

theorem congr (recording : Recording kept b c) (same : d.receivingSide = c.receivingSide) :
    Recording kept b d := by
  simp only [receivingSide, Prod.mk.injEq] at same
  obtain ⟨⟨receive, acknowledged⟩, confirmations, buffer, closed, reader⟩ := same
  refine ⟨recording.toAdvanced.congr (by rw [receive, confirmations, buffer]), fun met isOpen => ?_⟩
  rw [IsOpen, closed, reader] at isOpen
  have settled := recording.settled met isOpen
  rwa [Settled, lastConfirmation, acknowledged, confirmations]

private theorem stays (recording : Recording kept b c) {method : Body Unit}
    (keeps : Keeps receivingSide method) : Always (Recording kept b) c method :=
  keeps.post fun _ same => recording.congr same

theorem of_not_open (advanced : Advanced b c) (shut : ¬ c.IsOpen) : Recording kept b c :=
  ⟨advanced, fun _ isOpen => absurd isOpen shut⟩

theorem left (advanced : Advanced b c) (e : JavaException) : Recording kept b (c.left e) :=
  of_not_open (advanced.congr rfl) (by simp [IsOpen])

theorem sFormatSent (advanced : Advanced b c) : Recording kept b c.sFormatSent :=
  ⟨advanced.sFormatSent, fun _ _ => (lastConfirmation_append sFormatSent_confirmations).symm⟩

private theorem post_sendSFormatPdu (recording : Recording kept b c) :
    Post (sendSFormatPdu settings) c (fun _ d => Recording kept b d) (fun _ d => Advanced b d) := by
  rw [Connection.post_sendSFormatPdu]
  have advanced := recording.toAdvanced
  exact ⟨fun _ => advanced.sFormatUnwritten, fun _ => ⟨fun _ => advanced.sFormatUnflushed, fun _ =>
    .sFormatSent advanced⟩⟩

private theorem keeps_handleReceiveSequenceNumber (receiveSeqNumber : Nat) :
    Keeps receivingSide (handleReceiveSequenceNumber settings receiveSeqNumber) := fun c => by
  simp [handleReceiveSequenceNumber, receivingSide, confirmations, frames]

private theorem keeps_handOver (aSdu : Option ASdu) : Keeps receivingSide (handOver aSdu) := fun _ =>
  (post_handOver aSdu).mpr rfl

private theorem keeps_sendStopDtCon : Keeps receivingSide sendStopDtCon := fun c => by
  simp [sendStopDtCon, receivingSide, confirmations, frames, unnumbered, APdu.confirmation]

private theorem keeps_handleStartDtAct : Keeps receivingSide handleStartDtAct := fun c => by
  cases c.aSduListener <;>
    simp [handleStartDtAct, receivingSide, confirmations, frames, unnumbered, APdu.confirmation]

private theorem keeps_executeManually {id : TimerId} (t2 : id ≠ .maxTimeNoAckSentTimer)
    (t1 : id ≠ .maxTimeNoAckReceived) (test : id ≠ .maxTimeNoTestConReceived) :
    Keeps receivingSide (executeManually settings id) := fun c => by
  cases id with
  | maxTimeNoTestConReceived => exact absurd rfl test
  | maxTimeNoAckReceived => exact absurd rfl t1
  | maxTimeNoAckSentTimer => exact absurd rfl t2
  | maxIdleTimeTimer =>
    simp [post_executeManually, execute, receivingSide, confirmations, frames, unnumbered, APdu.confirmation]
  | stopDtOutstandingSFormatTimer object =>
    simp [post_executeManually, execute, sendStopDtCon, receivingSide, confirmations, frames, unnumbered,
      APdu.confirmation]

private theorem inReader (recording : Recording kept b c) {method : Body Unit}
    (keeps : Keeps receivingSide method) :
    Post method c (fun _ d => Recording kept b d) (fun _ d => Advanced b d) :=
  (keeps c).mono (fun _ _ same => recording.congr same) fun _ _ same => (recording.congr same).toAdvanced

private theorem received (recording : Recording kept c c) : Recording kept c c.received where
  receive_lt := Nat.mod_lt _ (Nat.two_pow_pos 15)
  counted := .inr rfl
  confirmed := ⟨0, (List.append_nil _).symm⟩
  announced := .inl ⟨rfl, rfl⟩
  settled := recording.settled

private theorem handleIFrame (recording : Recording kept c c) (aPdu : APdu) :
    Post (handleIFrame settings aPdu) c (fun _ d => Recording kept c d) (fun _ d => Advanced c d) := by
  -- the frame is counted first: what is confirmed behind it is the new number
  refine Post.seq (P := fun _ d => Recording kept c d) ?_ fun _ d recording => ?_
  · have received := recording.received
    rw [post_updateReceiveSeqNum]
    exact ⟨fun _ => recording.toAdvanced, fun _ => ⟨fun _ => received.post_sendSFormatPdu, fun _ => received⟩⟩
  refine Post.seq (recording.inReader (keeps_handleReceiveSequenceNumber _)) fun _ d recording => ?_
  refine Post.seq (recording.inReader (keeps_handOver _)) fun _ d recording => ?_
  rw [post_acknowledgeReceived]
  refine ⟨fun _ => ?_, fun _ => recording.congr rfl⟩
  exact recording.post_sendSFormatPdu.mono (fun _ _ recording => recording.congr rfl) fun _ _ advanced => advanced

private theorem handleStopDtAct (recording : Recording kept b c) :
    Post (handleStopDtAct settings) c (fun _ d => Recording kept b d) (fun _ d => Advanced b d) := by
  have requested : Recording kept b c.stopRequested := recording.congr rfl
  have confirmed : Post (sendSFormatIfUnconfirmedAPdu settings) c.stopRequested
      (fun _ d => Recording kept b d) (fun _ d => Advanced b d) := by
    rw [post_sendSFormatIfUnconfirmedAPdu]
    refine ⟨fun _ => ?_, fun _ => requested⟩
    exact requested.post_sendSFormatPdu.mono (fun _ _ recording => recording.congr rfl) fun _ _ advanced =>
      advanced
  rw [post_handleStopDtAct]
  refine confirmed.mono (fun _ d recording => ?_) fun _ _ advanced => advanced
  exact ⟨fun _ => recording.congr rfl, fun _ => recording.inReader keeps_sendStopDtCon⟩

private theorem dispatch (recording : Recording kept c c) (aPdu : APdu) :
    Post (dispatch settings server aPdu) c (fun _ d => Recording kept c d) (fun _ d => Advanced c d) := by
  apply Dispatches.post
  constructor
  case refused => exact fun _ => recording.toAdvanced
  case handleIFrame => exact fun _ => recording.handleIFrame aPdu
  case handleSFormat =>
    intro _
    refine (recording.inReader (keeps_handleReceiveSequenceNumber _)).mono (fun _ d recording => ?_)
      fun _ _ advanced => advanced
    refine ⟨fun _ => recording, fun object _ => recording.inReader ?_⟩
    exact keeps_executeManually (by simp) (by simp) (by simp)
  case handleStartDtAct => exact fun _ => recording.inReader keeps_handleStartDtAct
  case handleStopDtAct => exact fun _ => recording.handleStopDtAct
  case sendTestFrameCon =>
    refine recording.inReader fun c => ?_
    simp [Connection.sendTestFrameCon, receivingSide, confirmations, frames, unnumbered, APdu.confirmation]
  case cancelTestCon => exact fun _ => recording.congr rfl
  case countDown => exact fun _ => recording.congr rfl

private theorem transmit (advanced : Advanced b c)
    (recorded : c.acknowledgedReceiveSequenceNumber = c.receiveSequenceNumber) {aSdu : ASdu}
    (goes : kept → c.IsOpen → c.Settled ∨ c.ioFails c.ioCalls = false ∧ aSdu.Fits settings)
    (sendSeqNum : Nat) :
    Always (Recording kept b) c (do
      encode settings (.iFormat sendSeqNum c.receiveSequenceNumber aSdu)
      write (.iFormat sendSeqNum c.receiveSequenceNumber aSdu)
      flush
      resetMaxIdleTimeTimer) := by
  -- The end of `send`, where the number is recorded already. It goes out with the frame, or it was
  -- the one written last.
  by_cases fits : aSdu.Fits settings
  · have announced : (APdu.header (iFormatBuffer settings c.buffer sendSeqNum c.receiveSequenceNumber aSdu)
        ).confirmation = some c.receiveSequenceNumber :=
      APdu.confirmation_iFormatBuffer fits advanced.receive_lt
    have encoded := advanced.encoded announced
    rw [Always, post_bind, post_encode_iFormat fits, post_bind, post_write]
    refine ⟨fun fails => ⟨encoded.congr rfl, fun met isOpen => ?_⟩, fun _ => ?_⟩
    · rcases goes met isOpen with settled | ⟨passes, _⟩
      · exact settled
      · exact absurd (passes.symm.trans fails) Bool.false_ne_true
    · have written : Recording kept b { c with
          buffer := iFormatBuffer settings c.buffer sendSeqNum c.receiveSequenceNumber aSdu
          ioCalls := c.ioCalls + 1
          written := c.written ++ [⟨.iFormat sendSeqNum c.receiveSequenceNumber aSdu, c.stopped⟩] } := by
        refine ⟨encoded.written announced (confirmations_append rfl rfl) rfl, fun _ _ => ?_⟩
        exact recorded.trans (lastConfirmation_append (confirmations_append rfl rfl)).symm
      rw [post_bind, post_flush]
      exact ⟨fun _ => written.congr rfl, fun _ => written.congr rfl⟩
  · obtain ⟨e, refused⟩ := post_encode_unfit fits sendSeqNum c.receiveSequenceNumber c
    have announced : (APdu.header ((APdu.iFormat sendSeqNum c.receiveSequenceNumber aSdu).begun c.buffer)
        ).confirmation = some c.receiveSequenceNumber := APdu.confirmation_begun advanced.receive_lt
    have begun := advanced.encoded announced
    rw [Always, post_bind, refused]
    generalize APdu.begun _ c.buffer = buffer at begun ⊢
    refine ⟨begun, fun met isOpen => ?_⟩
    rcases goes met isOpen with settled | ⟨_, fitting⟩
    · exact settled
    · exact absurd fitting fits

private theorem always_send (recording : Recording kept c c) (aSdu : ASdu)
    (met : kept → c.RecordKept settings (.send aSdu)) :
    Always (Recording kept c) c (send settings aSdu) := by
  have advanced : Advanced c c.numbered := recording.toAdvanced.congr rfl
  rw [Always, send, post_bind, post_prepareSend]
  refine ⟨fun _ => recording, fun _ => ⟨fun _ => recording, fun started => ?_⟩⟩
  -- the number is settled before the first frame only where it stays the same
  have goes (holds : kept) (isOpen : c.IsOpen) : c.numbered.Settled ∨ c.ioFails c.ioCalls = false ∧
      (aSdu.Fits settings ∨ c.numbered.sendSequenceNumber < c.sendSequenceNumber) := by
    rcases met holds isOpen started with same | goes
    · exact .inl (same.trans (recording.settled holds isOpen))
    · exact .inr goes
  constructor
  · intro overflow
    rw [Connection.post_sendSFormatPdu]
    refine ⟨fun fails => ⟨advanced.sFormatUnwritten, fun holds isOpen => ?_⟩, fun _ =>
      ⟨fun _ => ⟨advanced.sFormatUnflushed, fun _ _ => ?_⟩, fun _ => ?_⟩⟩
    · rcases goes holds isOpen with settled | ⟨passes, _⟩
      · exact settled
      · exact absurd (passes.symm.trans fails) Bool.false_ne_true
    · exact (lastConfirmation_append sFormatUnflushed_confirmations).symm
    · have sent : Recording kept c c.numbered.sFormatSent.armed := (sFormatSent advanced).congr rfl
      exact transmit sent.toAdvanced rfl (fun holds isOpen => .inl (sent.settled holds isOpen)) _
  · intro plain
    have armed : Advanced c c.numbered.armed := advanced.congr rfl
    refine transmit armed rfl (fun holds isOpen => ?_) _
    rcases goes holds isOpen with settled | ⟨passes, fits | overflow⟩
    · exact .inl settled
    · exact .inr ⟨passes, fits⟩
    · exact absurd overflow (Nat.not_lt.mpr plain)

private theorem always_acknowledge (recording : Recording kept b c)
    (met : kept → c.RecordKept settings (.fire .maxTimeNoAckSentTimer)) :
    Always (Recording kept b) c (executeManually settings .maxTimeNoAckSentTimer) := by
  have advanced := recording.toAdvanced
  have ignored {P : Prop} (other : ioFailure.isIOException = false) : P := absurd other (by simp)
  rw [Always, post_executeManually, execute, post_ignoringIOException, Connection.post_sendSFormatPdu]
  refine ⟨fun _ => recording, fun _ => ⟨fun _ => ⟨fun _ => ?_, ignored⟩, fun first =>
    ⟨fun second => ⟨fun _ => ?_, ignored⟩, fun _ => ?_⟩⟩⟩
  · exact ⟨advanced.sFormatUnwritten.congr rfl, recording.settled⟩
  · refine ⟨advanced.sFormatUnflushed.congr rfl, fun holds isOpen => ?_⟩
    rcases met holds isOpen with same | flushes
    · exact same.symm.trans (lastConfirmation_append sFormatUnflushed_confirmations).symm
    · exact absurd second (flushes.passes isOpen first)
  · exact (sFormatSent advanced).congr rfl

private theorem always_close (recording : Recording kept b c) : Always (Recording kept b) c close := by
  rw [Always, post_close]
  refine ⟨fun _ => recording, fun _ => of_not_open (recording.toAdvanced.congr rfl) ?_⟩
  simp [IsOpen]

private theorem always_expire (recording : Recording kept b c) {id : TimerId}
    (closes : id = .maxTimeNoTestConReceived ∨ id = .maxTimeNoAckReceived) :
    Always (Recording kept b) c (executeManually settings id) := by
  rw [Always, post_executeManually, post_execute_close closes]
  refine ⟨fun _ => recording, fun _ => recording.always_close.mono (fun _ _ recording => ?_) fun _ _ recording => ?_⟩
  · exact recording.congr rfl
  · exact recording.congr rfl

private theorem preserves (b : Connection) : Preserves settings server
    (fun c action => c = b ∧ (kept → c.RecordKept settings action) ∧
      ∀ thread, action = .proceed thread → c.calls thread ≠ .stopBegun) (Recording kept b) where
  progress _ _ recording := recording.congr rfl
  callEnds _ _ recording _ := recording.congr rfl
  tick _ _ recording := recording.congr rfl
  send c aSdu recording meets _ := by
    obtain ⟨rfl, met, _⟩ := meets
    exact recording.always_send aSdu met
  receive c aPdu recording meets _ := by
    obtain ⟨rfl, _, _⟩ := meets
    exact (recording.dispatch aPdu.toAPdu).mono (fun _ _ recording => recording.congr rfl)
      fun e _ advanced => left advanced e
  readFailure _ e recording _ := left recording.toAdvanced e
  endReader c recording _ _ := by
    rw [Always, post_endReader]
    refine recording.always_close.mono (fun _ d recording => ?_) fun _ _ recording => recording
    exact of_not_open (recording.toAdvanced.congr rfl) (by simp [IsOpen])
  fire c id recording meets := by
    have dequeued : Recording kept b (c.dequeued id) := recording.congr rfl
    rw [Always, post_fire]
    cases id with
    | maxTimeNoAckSentTimer => exact dequeued.always_acknowledge meets.2.1
    | maxTimeNoTestConReceived => exact dequeued.always_expire (.inl rfl)
    | maxTimeNoAckReceived => exact dequeued.always_expire (.inr rfl)
    | maxIdleTimeTimer => exact dequeued.stays (keeps_executeManually (by simp) (by simp) (by simp))
    | stopDtOutstandingSFormatTimer object =>
      exact dequeued.stays (keeps_executeManually (by simp) (by simp) (by simp))
  runTask _ _ recording _ _ := (post_runTask _).mpr (recording.congr rfl)
  setConnectionListener _ _ recording _ := recording.congr rfl
  close _ recording := recording.always_close
  writeStartDtAct _ recording := recording.stays fun c => by
    simp [Connection.writeStartDtAct, newStartDtConSignal, receivingSide, confirmations, frames, unnumbered,
      APdu.confirmation]
  register _ _ _ recording _ _ := recording.stays fun c => by
    simp [Connection.register, receivingSide, confirmations, frames]
  beginStop _ _ recording _ := recording.stays fun c => by
    simp [Connection.beginStop, receivingSide, confirmations, frames]
  confirm c thread _ meets call := absurd call (meets.2.2 thread rfl)
  cancelT2 _ _ recording _ _ := (post_cancelIfPlanned _).mpr (recording.congr rfl)
  writeStopDtAct _ recording := recording.stays fun c => by
    simp [Connection.writeStopDtAct, newStopDtConSignal, receivingSide, confirmations, frames, unnumbered,
      APdu.confirmation]
  finishStop _ _ recording _ _ := recording.congr rfl

/-- A step under the lock counts one I frame at most, and confirms what is counted then. If
it meets the condition, what it records is what it writes. -/
theorem step {action : Action} (receive_lt : c.receiveSequenceNumber < 2 ^ 15)
    (settled : kept → c.IsOpen → c.Settled) (met : kept → c.RecordKept settings action)
    (locked : ∀ thread, action = .proceed thread → c.calls thread ≠ .stopBegun)
    (taken : Step settings server c action d) : Recording kept c d :=
  (preserves c).step ⟨.refl receive_lt, settled⟩ ⟨rfl, met, locked⟩ taken

end Recording

end Connection

end J60870
