import J60870.Connection.Unwrapped

/-! What goes out of a connection. Frames are written behind those that are there, a flush takes all of
them to an open socket, and nothing else touches them. -/

namespace J60870

open Lib Method

namespace Connection

variable {settings : ConnectionSettings} {server : Bool} {c d : Connection}

/-- What a connection had written at some time, what of it had gone out, and whether it was closed. -/
structure Past where
  frames : List APdu
  outgoing : List APdu
  closed : Bool

namespace Past

def new : Past := ⟨[], [], false⟩

end Past

def past (c : Connection) : Past := ⟨c.frames, c.outgoing, c.closed⟩

/-- What is written, what of it has gone out, and whether more can. -/
def writingSide (c : Connection) : List Written × Nat × Bool := (c.written, c.flushed, c.closed)

/-- Frames are added to those of the past, and go out in their order as long as the connection is open. -/
structure Flow (before : Past) (c : Connection) : Prop where
  flushed_le : c.flushed ≤ c.frames.length
  outgoing : before.outgoing <+: c.outgoing
  closed : before.closed = true → c.closed = true ∧ c.outgoing = before.outgoing
  before : before.frames <+: c.frames

namespace Flow

variable {before : Past}

theorem congr (flow : Flow before c) (same : d.writingSide = c.writingSide) : Flow before d := by
  simp only [writingSide, Prod.mk.injEq] at same
  obtain ⟨written, flushed, closed⟩ := same
  have framed : d.frames = c.frames := congrArg (List.map Written.frame) written
  have gone : d.outgoing = c.outgoing := by rw [Connection.outgoing, framed, flushed, Connection.outgoing]
  obtain ⟨le, outgoing, shut, frames⟩ := flow
  exact ⟨by rwa [framed, flushed], by rwa [gone], by rwa [gone, closed], by rwa [framed]⟩

theorem again (flow : Flow before c) : Flow c.past c :=
  ⟨flow.flushed_le, List.prefix_refl _, fun closed => ⟨closed, rfl⟩, List.prefix_refl _⟩

theorem writes (frame : Written) (flow : Flow before c)
    (same : d.writingSide = (c.written ++ [frame], c.flushed, c.closed)) : Flow before d := by
  simp only [writingSide, Prod.mk.injEq] at same
  obtain ⟨written, flushed, closed⟩ := same
  have framed : d.frames = c.frames ++ [frame.frame] := by simp [frames, written]
  have gone : d.outgoing = c.outgoing := by
    rw [Connection.outgoing, framed, flushed, List.take_append_of_le_length flow.flushed_le, Connection.outgoing]
  obtain ⟨le, outgoing, shut, frames⟩ := flow
  refine ⟨?_, by rwa [gone], by rwa [gone, closed], ?_⟩
  · rw [framed, flushed, List.length_append]
    exact le.trans (Nat.le_add_right _ _)
  · rw [framed]
    exact frames.trans (List.prefix_append _ _)

theorem flushes (flow : Flow before c) (isOpen : c.closed = false)
    (same : d.writingSide = (c.written, c.written.length, c.closed)) : Flow before d := by
  simp only [writingSide, Prod.mk.injEq] at same
  obtain ⟨written, flushed, closed⟩ := same
  have framed : d.frames = c.frames := congrArg (List.map Written.frame) written
  have length : c.written.length = c.frames.length := (List.length_map _).symm
  have gone : d.outgoing = c.frames := by rw [Connection.outgoing, framed, flushed, length, List.take_length]
  refine ⟨?_, ?_, fun was => ?_, framed ▸ flow.before⟩
  · rw [framed, flushed, length]
  · rw [gone]
    exact flow.outgoing.trans (List.take_prefix _ _)
  · rw [(flow.closed was).1] at isOpen
    cases isOpen

theorem closes (flow : Flow before c) (same : d.writingSide = (c.written, c.flushed, true)) : Flow before d := by
  have shut : Flow before { c with closed := true } :=
    { flow with closed := fun was => ⟨rfl, (flow.closed was).2⟩ }
  exact shut.congr same

theorem started (ioFails : Nat → Bool) (now : Nat) : Flow .new (started settings ioFails now) :=
  ⟨Nat.le_refl 0, List.nil_prefix, fun closed => absurd closed Bool.false_ne_true, List.nil_prefix⟩

end Flow

def Flows {α : Type} (method : Body α) : Prop :=
  ∀ before c, Flow before c → Post method c (fun _ => Flow before) (fun _ => Flow before)

namespace Flows

theorem keeps {α : Type} {method : Body α} (keeps : Keeps writingSide method) : Flows method :=
  fun _ _ flow => keeps.post fun _ same => flow.congr same

theorem bind {α β : Type} {method : Body α} {next : α → Body β} (first : Flows method)
    (second : ∀ a, Flows (next a)) : Flows (method >>= next) :=
  fun before c flow => Post.seq (first before c flow) fun a d flow => second a before d flow

theorem tryCatch {α : Type} {method : Body α} {handler : JavaException → Body α} (first : Flows method)
    (second : ∀ e, Flows (handler e)) : Flows (tryCatch method handler) := fun before c flow => by
  rw [post_tryCatch]
  exact (first before c flow).mono (fun _ _ flow => flow) fun e d flow => second e before d flow

theorem ite {α : Type} {condition : Prop} [Decidable condition] {first second : Body α} (yes : Flows first)
    (no : Flows second) : Flows (if condition then first else second) := by
  split
  · exact yes
  · exact no

theorem write (frame : APdu) : Flows (write frame) := fun before c flow => by
  rw [post_write]
  exact ⟨fun _ => flow.congr rfl, fun _ => flow.writes _ rfl⟩

theorem flush : Flows flush := fun before c flow => by
  rw [post_flush]
  exact ⟨fun _ => flow.congr rfl, fun flushed => flow.flushes flushed.2 rfl⟩

theorem pure {α : Type} (a : α) : Flows (pure a : Body α) := keeps (.pure a)

theorem get : Flows (get : Body Connection) := keeps .get

theorem sendSFormatPdu : Flows (sendSFormatPdu settings) :=
  .bind .get fun _ => .bind (.keeps (keeps_encode (fun _ _ => rfl) _)) fun _ => .bind (.write _) fun _ =>
    .bind .flush fun _ => .keeps fun _ => rfl

theorem cancelIfPlanned (id : TimerId) : Flows (cancelIfPlanned id) := .keeps fun c => by simp [writingSide]

theorem sendSFormatIfUnconfirmedAPdu : Flows (sendSFormatIfUnconfirmedAPdu settings) :=
  .bind .get fun _ => .ite (.bind .sendSFormatPdu fun _ => .cancelIfPlanned _) (.pure _)

theorem sendStopDtCon : Flows sendStopDtCon :=
  .bind (.write _) fun _ => .bind .flush fun _ => .keeps fun _ => rfl

theorem close : Flows close := fun before c flow => by
  rw [post_close]
  exact ⟨fun _ => flow, fun _ => flow.closes rfl⟩

theorem notifyClosed (listener : Option Listener) (cause : Option JavaException) :
    Flows (notifyClosed listener cause) := .keeps fun c => by cases listener <;> simp [writingSide]

theorem ignoringIOException {body : Body Unit} (flows : Flows body) : Flows (ignoringIOException body) :=
  .tryCatch flows fun _ => .ite (.pure _) (.keeps (.throw _))

theorem handleReceiveSequenceNumber (receiveSeqNumber : Nat) :
    Flows (handleReceiveSequenceNumber settings receiveSeqNumber) := .keeps fun c => by
  simp [Connection.handleReceiveSequenceNumber, writingSide]

theorem send (aSdu : ASdu) : Flows (send settings aSdu) := by
  have prepares : Flows (prepareSend settings aSdu) := fun before c flow => by
    have numbered : Flow before c.numbered := flow.congr rfl
    rw [post_prepareSend]
    refine ⟨fun _ => flow, fun _ => ⟨fun _ => flow, fun _ => ⟨fun _ => ?_, fun _ => numbered.congr rfl⟩⟩⟩
    exact (Flows.sendSFormatPdu before _ numbered).mono (fun _ _ flow => flow.congr rfl) fun _ _ flow => flow
  exact prepares.bind fun _ => .bind (.keeps (keeps_encode (fun _ _ => rfl) _)) fun _ =>
    .bind (.write _) fun _ => .bind .flush fun _ => .keeps fun _ => rfl

theorem execute (id : TimerId) : Flows (execute settings id) := by
  cases id with
  | maxTimeNoTestConReceived | maxTimeNoAckReceived =>
    exact .bind .close fun _ => .bind .get fun _ => .notifyClosed _ _
  | maxTimeNoAckSentTimer => exact sendSFormatPdu.ignoringIOException
  | maxIdleTimeTimer =>
    exact .bind (ignoringIOException (.bind (.write _) fun _ => .flush)) fun _ => .keeps fun _ => rfl
  | stopDtOutstandingSFormatTimer object =>
    exact .bind .get fun _ => .ite (.pure _) sendStopDtCon.ignoringIOException

theorem executeManually (id : TimerId) : Flows (executeManually settings id) := by
  have done : Flows (setDone id) := .keeps fun _ => rfl
  refine .bind .get fun c => .ite (.pure _) (.bind (.tryCatch (.execute id) fun e => ?_) fun _ => done)
  exact .bind done fun _ => .keeps (.throw e)

theorem handleIFrame (aPdu : APdu) : Flows (handleIFrame settings aPdu) := by
  have verifies : Flows (verifySeqNumber aPdu.sendSeqNum) := .keeps fun c => by simp [verifySeqNumber, writingSide]
  have updates : Flows (updateReceiveSeqNum settings aPdu.sendSeqNum) :=
    .bind verifies fun _ => .bind (.keeps fun _ => rfl) fun _ => .bind .get fun _ => .ite .sendSFormatPdu (.pure _)
  have acknowledges : Flows (acknowledgeReceived settings) :=
    .bind .get fun _ => .ite (.bind .sendSFormatPdu fun _ => .cancelIfPlanned _)
      (.ite (.keeps fun _ => rfl) (.pure _))
  exact updates.bind fun _ => .bind (.handleReceiveSequenceNumber _) fun _ =>
    .bind (.keeps fun _ => (post_handOver _).mpr rfl) fun _ => acknowledges

theorem handleStartDtAct : Flows handleStartDtAct := fun before c flow => by
  have written : Flow before c.startConfirmed := flow.writes ⟨_, c.stopped⟩ rfl
  rw [post_handleStartDtAct]
  exact ⟨fun _ => flow.congr rfl, fun _ =>
    ⟨fun _ => written.congr rfl, fun flushed => written.flushes flushed.2 rfl⟩⟩

theorem handleStopDtAct : Flows (handleStopDtAct settings) := fun before c flow => by
  have requested : Flow before c.stopRequested := flow.congr rfl
  rw [post_handleStopDtAct]
  refine (sendSFormatIfUnconfirmedAPdu before _ requested).mono (fun _ d flow => ?_) fun _ _ flow => flow
  exact ⟨fun _ => flow.congr rfl, fun _ => sendStopDtCon before d flow⟩

theorem dispatch (aPdu : APdu) : Flows (dispatch settings server aPdu) := fun before c flow => by
  apply Dispatches.post
  constructor
  case refused => exact fun _ => flow
  case handleIFrame => exact fun _ => handleIFrame aPdu before c flow
  case handleSFormat =>
    intro _
    refine (handleReceiveSequenceNumber _ before c flow).mono (fun _ d flow => ?_) fun _ _ flow => flow
    exact ⟨fun _ => flow, fun object _ => executeManually _ before d flow⟩
  case handleStartDtAct => exact fun _ => handleStartDtAct before c flow
  case handleStopDtAct => exact fun _ => handleStopDtAct before c flow
  case sendTestFrameCon => exact Flows.bind (.write _) (fun _ => .flush) before c flow
  case cancelTestCon => exact fun _ => flow.congr rfl
  case countDown => exact fun _ => flow.congr rfl

end Flows

theorem Flow.preserves (before : Past) : Preserves settings server (fun _ _ => True) (Flow before) where
  progress _ _ flow := flow.congr rfl
  callEnds _ _ flow _ := flow.congr rfl
  tick _ _ flow := flow.congr rfl
  send c aSdu flow _ _ := Flows.send aSdu before c flow
  receive c aPdu flow _ _ := (Flows.dispatch aPdu.toAPdu before c flow).mono (fun _ _ flow => flow.congr rfl)
    fun _ _ flow => flow.congr rfl
  readFailure _ _ flow _ := flow.congr rfl
  endReader c flow _ _ := by
    rw [Always, post_endReader]
    exact (Flows.close before c flow).mono (fun _ _ flow => flow.congr rfl) fun _ _ flow => flow
  fire c id flow _ := by
    have dequeued : Flow before (c.dequeued id) := flow.congr rfl
    rw [Always, post_fire]
    exact Flows.executeManually id before _ dequeued
  runTask _ _ flow _ _ := (post_runTask _).mpr (flow.congr rfl)
  setConnectionListener _ _ flow _ := flow.congr rfl
  close c flow := Flows.close before c flow
  writeStartDtAct c flow := by
    have signal : Flows newStartDtConSignal := .keeps fun _ => rfl
    exact signal.bind (fun _ => .bind (.write _) fun _ => .flush) before c flow
  register c _ _ flow _ _ := by
    refine Flows.keeps (fun c => ?_) before c flow
    simp [Connection.register, writingSide]
  beginStop c _ flow _ := by
    refine Flows.keeps (fun c => ?_) before c flow
    simp [Connection.beginStop, writingSide]
  confirm c _ flow _ _ := Flows.sendSFormatIfUnconfirmedAPdu before c flow
  cancelT2 c _ flow _ _ := Flows.cancelIfPlanned _ before c flow
  writeStopDtAct c flow := by
    have signal : Flows newStopDtConSignal := .keeps fun _ => rfl
    exact signal.bind (fun _ => .bind (.write _) fun _ => .flush) before c flow
  finishStop _ _ flow _ _ := flow.congr rfl

end Connection

end J60870
