import J60870.Connection.Rules

namespace J60870

open Lib Method

def TimerId.Closes (id : TimerId) : Prop := id = .maxTimeNoTestConReceived ∨ id = .maxTimeNoAckReceived

namespace Connection

variable {settings : ConnectionSettings} {server : Bool} {c d : Connection} {action : Action}

def phase (c : Connection) : ReaderState × Bool := (c.reader, c.closed)

/-- What the actions do to it. -/
inductive PhaseStep (c : Connection) : Action → Connection → Prop
  | stays {action : Action} {d : Connection} (same : d.phase = c.phase) : PhaseStep c action d
  /-- an exception ends the loop of the reader -/
  | fails {action : Action} {d : Connection} (running : c.reader = .running)
      (reads : (∃ aPdu, action = .receive aPdu) ∨ ∃ e, action = .readFailure e)
      (left : d.phase = (.leaving, c.closed)) : PhaseStep c action d
  | closes {d : Connection} (closed : d.phase = (c.reader, true)) : PhaseStep c .close d
  | ends {d : Connection} (leaving : c.reader = .leaving) (ended : d.phase = (.ended, true)) :
    PhaseStep c .endReader d
  | expires {id : TimerId} {d : Connection} (closing : TimerId.Closes id) (queued : id ∈ c.timeoutManager.queue)
      (due : (c.timer id).dueTime ≤ c.currentTimeMillis) (live : (c.timer id).canceled = false)
      (closed : d.phase = (c.reader, true)) : PhaseStep c (.fire id) d

section Keeps

private theorem send_keeps_phase (aSdu : ASdu) : Keeps phase (send settings aSdu) := by
  have prepared : Keeps phase (prepareSend settings aSdu) := fun c => by simp [post_prepareSend, phase]
  refine prepared.bind fun aPdu => (keeps_encode (fun _ _ => rfl) aPdu).bind fun _ c => ?_
  simp [phase]

private theorem sendStopDtCon_keeps_phase : Keeps phase sendStopDtCon := fun c => by simp [sendStopDtCon, phase]

private theorem sendSFormatIfUnconfirmedAPdu_keeps_phase : Keeps phase (sendSFormatIfUnconfirmedAPdu settings) :=
  fun c => by simp [post_sendSFormatIfUnconfirmedAPdu, phase]

private theorem handleReceiveSequenceNumber_keeps_phase (receiveSeqNumber : Nat) :
    Keeps phase (handleReceiveSequenceNumber settings receiveSeqNumber) := fun c => by
  simp [handleReceiveSequenceNumber, phase]

private theorem handleIFrame_keeps_phase (aPdu : APdu) : Keeps phase (handleIFrame settings aPdu) := by
  have counted : Keeps phase (updateReceiveSeqNum settings aPdu.sendSeqNum) := fun c => by
    simp [post_updateReceiveSeqNum, phase]
  have handedOver : Keeps phase (handOver aPdu.aSdu) := fun _ => (post_handOver aPdu.aSdu).mpr rfl
  have acknowledged : Keeps phase (acknowledgeReceived settings) := fun c => by
    simp [post_acknowledgeReceived, phase]
  exact counted.bind fun _ => (handleReceiveSequenceNumber_keeps_phase _).bind fun _ =>
    handedOver.bind fun _ => acknowledged

theorem execute_keeps_phase {id : TimerId} (other : ¬ TimerId.Closes id) :
    Keeps phase (execute settings id) := fun c => by
  cases id with
  | maxTimeNoTestConReceived => exact absurd (.inl rfl) other
  | maxTimeNoAckReceived => exact absurd (.inr rfl) other
  | maxTimeNoAckSentTimer => simp [execute, phase]
  | maxIdleTimeTimer => simp [execute, phase]
  | stopDtOutstandingSFormatTimer object => simp [execute, sendStopDtCon, phase]

private theorem executeManually_keeps_phase {id : TimerId} (other : ¬ TimerId.Closes id) :
    Keeps phase (executeManually settings id) := fun c => by
  rw [post_executeManually]
  exact ⟨fun _ => rfl, fun _ => execute_keeps_phase other c⟩

theorem dispatch_keeps_phase (aPdu : APdu) : Keeps phase (dispatch settings server aPdu) := by
  intro c
  apply Dispatches.post
  constructor
  case refused => exact fun _ => rfl
  case handleIFrame => exact fun _ => handleIFrame_keeps_phase aPdu c
  case handleSFormat =>
    intro _
    refine (handleReceiveSequenceNumber_keeps_phase _ c).mono (fun _ d same => ⟨fun _ => same, fun object _ => ?_⟩)
      fun _ _ same => same
    have executed : Keeps phase (executeManually settings (.stopDtOutstandingSFormatTimer object)) :=
      executeManually_keeps_phase (by simp [TimerId.Closes])
    exact executed.post fun e kept => kept.trans same
  case handleStartDtAct =>
    intro _
    simp [post_handleStartDtAct, phase]
  case handleStopDtAct =>
    intro _
    exact handleStopDtAct_of_keeps rfl sendSFormatIfUnconfirmedAPdu_keeps_phase (fun _ => rfl) sendStopDtCon_keeps_phase
  case sendTestFrameCon => simp [Connection.sendTestFrameCon, phase]
  case cancelTestCon => exact fun _ => rfl
  case countDown => exact fun _ => rfl

private theorem part_keeps_phase {thread : Nat} {call : Call} {method : Body Unit} (keeps : Keeps phase method) :
    Keeps phase (part thread call method) := fun c => by
  simp only [part, post_tryCatch, post_bind, post_setCall, post_log]
  exact keeps c

private theorem proceed_keeps_phase {thread : Nat} {method : Body Unit}
    (found : proceed settings c thread = some method) : Keeps phase method := by
  cases call : c.calls thread <;> simp only [proceed, call] at found
  case idle => cases found
  case startWritten listener =>
    obtain ⟨latch, _, rfl⟩ := Option.map_eq_some_iff.mp found
    exact fun _ => rfl
  case startAwaiting listener latch =>
    obtain ⟨_, ⟨⟩⟩ := Option.ite_none_right_eq_some.mp found
    exact fun _ => rfl
  case startRegistering listener =>
    cases found
    exact fun c => by simp [lastPart, register, phase]
  case stopBegun =>
    cases found
    exact part_keeps_phase sendSFormatIfUnconfirmedAPdu_keeps_phase
  case stopConfirmed =>
    cases found
    exact part_keeps_phase fun c => by simp [phase]
  case stopCancelled =>
    cases found
    exact part_keeps_phase fun c => by simp [writeStopDtAct, newStopDtConSignal, phase]
  case stopWritten =>
    obtain ⟨latch, _, rfl⟩ := Option.map_eq_some_iff.mp found
    exact fun _ => rfl
  case stopAwaiting latch =>
    obtain ⟨_, ⟨⟩⟩ := Option.ite_none_right_eq_some.mp found
    exact fun _ => rfl
  case stopFinishing =>
    cases found
    exact fun _ => rfl

private theorem waiting_keeps_phase {thread : Nat} {method : Body Unit}
    (found : timeOut c thread = some method ∨ interrupt c thread = some method) : Keeps phase method := by
  rcases found with found | found
  · have thrown : Keeps phase (throw requestTimedOut : Body Unit) := fun _ => rfl
    cases call : c.calls thread <;> simp only [timeOut, call] at found <;> cases found <;>
      exact part_keeps_phase thrown
  · cases call : c.calls thread <;> simp only [interrupt, call] at found <;> cases found <;>
      exact fun _ => rfl

private theorem closed_close {E : JavaException → Connection → Prop} :
    Post close c (fun _ d => d.phase = (c.reader, true)) E := by
  rw [post_close]
  exact ⟨fun closed => congrArg (Prod.mk c.reader) closed, fun _ => rfl⟩

/-- The timers that do. -/
theorem execute_closes {id : TimerId} {E : JavaException → Connection → Prop} (closes : TimerId.Closes id) :
    Post (execute settings id) c (fun _ d => d.phase = (c.reader, true)) E := by
  rw [post_execute_close closes]
  exact closed_close

end Keeps

private theorem fire_cases (id : TimerId) : Post (fire settings id) c
    (fun _ d => d.phase = c.phase ∨
      TimerId.Closes id ∧ (c.timer id).canceled = false ∧ d.phase = (c.reader, true))
    (fun _ d => d.phase = c.phase ∨
      TimerId.Closes id ∧ (c.timer id).canceled = false ∧ d.phase = (c.reader, true)) := by
  rw [post_fire]
  by_cases closing : TimerId.Closes id
  · rw [post_executeManually]
    exact ⟨fun _ => .inl rfl, fun live =>
      (execute_closes closing).mono (fun _ d closed => .inr ⟨closing, live, closed⟩) fun _ _ thrown => thrown⟩
  · exact (executeManually_keeps_phase closing (c.dequeued id)).mono (fun _ _ same => .inl same)
      fun _ _ same => .inl same

/-- What an action does to the reader, and whether it closes. -/
theorem phaseStep_of_step (taken : Step settings server c action d) : PhaseStep c action d := by
  obtain ⟨method, found, rfl⟩ := step_eq_some taken
  have stays (keeps : Keeps phase method) : PhaseStep c action (method.outcome c) := .stays (keeps.outcome c)
  cases action with
  | send aSdu =>
    obtain ⟨_, ⟨⟩⟩ := Option.ite_none_right_eq_some.mp found
    exact stays (send_keeps_phase aSdu)
  | receive aPdu =>
    obtain ⟨running, ⟨⟩⟩ := Option.ite_none_right_eq_some.mp found
    refine Post.outcome (P := fun d => PhaseStep c (.receive aPdu) d) ?_
    rw [post_readerTurn]
    refine (dispatch_keeps_phase aPdu.toAPdu c).mono (fun _ d same => .stays same) fun e d same => ?_
    exact .fails running (.inl ⟨aPdu, rfl⟩) (congrArg (Prod.mk ReaderState.leaving) (congrArg Prod.snd same))
  | readFailure e =>
    obtain ⟨running, ⟨⟩⟩ := Option.ite_none_right_eq_some.mp found
    exact .fails running (.inr ⟨e, rfl⟩) rfl
  | endReader =>
    obtain ⟨leaving, ⟨⟩⟩ := Option.ite_none_right_eq_some.mp found
    refine Post.outcome (P := fun d => PhaseStep c .endReader d) ?_
    rw [post_endReader]
    exact closed_close.mono (fun _ d closed =>
      .ends leaving (congrArg (Prod.mk ReaderState.ended) (congrArg Prod.snd closed))) fun _ _ thrown => thrown
  | fire id =>
    obtain ⟨⟨queued, due, -⟩, ⟨⟩⟩ := Option.ite_none_right_eq_some.mp found
    have goes {d : Connection} (cases : d.phase = c.phase ∨
        TimerId.Closes id ∧ (c.timer id).canceled = false ∧ d.phase = (c.reader, true)) :
        PhaseStep c (.fire id) d := by
      rcases cases with same | ⟨closing, live, closed⟩
      · exact .stays same
      · exact .expires closing queued due live closed
    exact Post.outcome (P := fun d => PhaseStep c (.fire id) d)
      ((fire_cases id).mono (fun _ _ cases => goes cases) fun _ _ cases => goes cases)
  | tick milliseconds =>
    cases found
    exact stays fun _ => rfl
  | runTask =>
    obtain ⟨_, given⟩ := Option.ite_none_left_eq_some.mp found
    obtain ⟨task, _, rfl⟩ := Option.map_eq_some_iff.mp given
    exact stays fun c => by simp [phase]
  | setConnectionListener listener =>
    cases found
    exact stays fun _ => rfl
  | close =>
    cases found
    exact Post.outcome (P := fun d => PhaseStep c .close d)
      (closed_close.mono (fun _ _ closed => .closes closed) fun _ _ thrown => thrown)
  | startDataTransfer thread listener =>
    obtain ⟨_, ⟨⟩⟩ := Option.ite_none_right_eq_some.mp found
    exact stays (part_keeps_phase fun c => by simp [writeStartDtAct, newStartDtConSignal, phase])
  | stopDataTransfer thread =>
    obtain ⟨_, ⟨⟩⟩ := Option.ite_none_right_eq_some.mp found
    exact stays (part_keeps_phase fun c => by simp [beginStop, phase])
  | proceed thread => exact stays (proceed_keeps_phase found)
  | timeOut thread => exact stays (waiting_keeps_phase (.inl found))
  | interrupt thread => exact stays (waiting_keeps_phase (.inr found))

/-- Where the reader is over, the connection is closed. -/
def EndedClosed (c : Connection) : Prop := c.reader = .ended → c.closed = true

theorem EndedClosed.step (before : EndedClosed c) (taken : Step settings server c action d) : EndedClosed d := by
  intro ended
  have phase {reader : ReaderState} {closed : Bool} (phase : d.phase = (reader, closed)) :
      reader = .ended ∧ d.closed = closed :=
    ⟨(congrArg Prod.fst phase).symm.trans ended, congrArg Prod.snd phase⟩
  cases phaseStep_of_step taken with
  | stays same => exact (phase same).2.trans (before (phase same).1)
  | fails _ _ left => cases (phase left).1
  | closes closed | ends _ closed | expires _ _ _ _ closed => exact (phase closed).2

/-- A reader that has left its loop does not come back, and takes no frame. -/
theorem gone_step (gone : c.reader ≠ .running) (taken : Step settings server c action d) :
    d.reader ≠ .running ∧ ∀ aPdu, action ≠ .receive aPdu := by
  have reads (aPdu : ReceivedAPdu) (receives : action = .receive aPdu) : False := by
    subst receives
    obtain ⟨_, found, -⟩ := step_eq_some taken
    exact gone (Option.ite_none_right_eq_some.mp found).1
  refine ⟨?_, fun aPdu receives => reads aPdu receives⟩
  cases phaseStep_of_step taken with
  | stays same =>
    rw [(Prod.mk.inj same).1]
    exact gone
  | fails running _ _ => exact absurd running gone
  | closes closed | expires _ _ _ _ closed =>
    rw [(Prod.mk.inj closed).1]
    exact gone
  | ends leaving ended =>
    rw [(Prod.mk.inj ended).1]
    exact fun running => by cases running

private theorem close_keeps_written : Keeps (fun c => (c.written, c.flushed)) close := fun c => by simp

/-- What closes a connection writes nothing. -/
theorem written_of_closes (isOpen : c.closed = false) (closed : d.closed = true)
    (taken : Step settings server c action d) : d.written = c.written ∧ d.flushed = c.flushed := by
  have still {closes : Bool} (same : d.phase = (c.reader, closes)) : closes = true :=
    (Prod.mk.inj same).2.symm.trans closed
  have wrote {method : Body Unit} (found : body settings server c action = some method)
      (keeps : Keeps (fun c => (c.written, c.flushed)) method) : d.written = c.written ∧ d.flushed = c.flushed := by
    obtain ⟨_, given, rfl⟩ := step_eq_some taken
    obtain rfl := Option.some.inj (found.symm.trans given)
    exact Prod.mk.inj (keeps.outcome c)
  cases phaseStep_of_step taken with
  | stays same => cases isOpen.symm.trans ((Prod.mk.inj same).2.symm.trans closed)
  | fails _ _ left => cases isOpen.symm.trans ((Prod.mk.inj left).2.symm.trans closed)
  | closes => exact wrote rfl close_keeps_written
  | ends leaving =>
    refine wrote (if_pos leaving) fun c => ?_
    rw [post_endReader]
    exact close_keeps_written c
  | @expires id _ closing queued due live =>
    have runs : managerRuns settings c = true := by
      obtain ⟨_, found, -⟩ := step_eq_some taken
      exact (Option.ite_none_right_eq_some.mp found).1.2.2
    refine wrote (if_pos ⟨queued, due, runs⟩) fun c => ?_
    rw [post_fire, post_executeManually, post_execute_close closing]
    exact ⟨fun _ => rfl, fun _ => (close_keeps_written (c.dequeued id)).mono (fun _ _ same => same)
      fun _ _ same => same⟩

/-- The reader ends once. -/
theorem ended_step (goesOn : action ≠ .endReader) (taken : Step settings server c action d) :
    d.reader = .ended ↔ c.reader = .ended := by
  cases phaseStep_of_step taken with
  | stays same => rw [(Prod.mk.inj same).1]
  | fails running _ left => simp [running, (Prod.mk.inj left).1]
  | closes closed | expires _ _ _ _ closed => rw [(Prod.mk.inj closed).1]
  | ends => exact absurd rfl goesOn

end Connection

end J60870
