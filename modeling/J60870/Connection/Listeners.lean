import J60870.Connection.Delivery

/-! The listener fields of a connection as a machine of their own: who is registered, who
waits for the next start, and who has been told of the closing. -/

namespace J60870

open Lib Method

/-- The listener told of the closing. -/
def Event.closedFor : Event → Option Listener
  | .connectionClosed listener _ => some listener
  | _ => none

@[simp] theorem Event.filterMap_closedFor (listener : Option Listener) (cause : Option JavaException) :
    (listener.map fun listener => Event.connectionClosed listener cause).toList.filterMap Event.closedFor =
      listener.toList := by
  cases listener <;> simp [Event.closedFor]

structure Listeners where
  aSduListener : Option Listener
  aSduListenerBack : Option Listener
  stopped : Bool
  /-- the calls of `connectionClosed`, in their order -/
  told : List Listener

namespace Listeners

/-- What happens to the listeners. -/
inductive Change
  | setConnectionListener (listener : Option Listener)
  | startDataTransfer (listener : Option Listener)
  | stopDataTransfer
  | startDtAct
  | stopDtAct
  /-- t1 or the time for a test frame is over -/
  | expired
  | readerEnds

/-- The listeners the end of the reader is told to. -/
def toldAtEnd (listeners : Listeners) : List Listener :=
  listeners.aSduListener.toList ++ if listeners.stopped then listeners.aSduListenerBack.toList else []

def after (listeners : Listeners) : Change → Listeners
  | .setConnectionListener listener => { listeners with aSduListener := listener }
  | .startDataTransfer listener => { listeners with aSduListener := listener, stopped := false }
  | .stopDataTransfer =>
    { listeners with
      aSduListenerBack := listeners.aSduListener
      aSduListener := none
      stopped := true }
  | .startDtAct =>
    { listeners with
      aSduListener := listeners.aSduListener.or listeners.aSduListenerBack
      stopped := false }
  | .stopDtAct =>
    { listeners with
      aSduListenerBack := listeners.aSduListener.or listeners.aSduListenerBack
      aSduListener := none
      stopped := true }
  | .expired => { listeners with told := listeners.told ++ listeners.aSduListener.toList }
  | .readerEnds => { listeners with told := listeners.told ++ listeners.toldAtEnd }

end Listeners

/-- The timers that close the connection. -/
def TimerId.closes : TimerId → Bool
  | .maxTimeNoTestConReceived | .maxTimeNoAckReceived => true
  | _ => false

namespace Connection

variable {settings : ConnectionSettings} {server : Bool} {c d : Connection}

def told (c : Connection) : List Listener := c.events.filterMap Event.closedFor

def listeners (c : Connection) : Listeners := ⟨c.aSduListener, c.aSduListenerBack, c.stopped, c.told⟩

/-- What an action does to the listeners, if it does something. -/
def change (c : Connection) : Action → Option Listeners.Change
  | .receive aPdu =>
    match aPdu.apciType with
    | .STARTDT_ACT => some .startDtAct
    | .STOPDT_ACT => some .stopDtAct
    | _ => none
  | .endReader => some .readerEnds
  | .fire id => if id.closes && !(c.timer id).canceled then some .expired else none
  | .setConnectionListener listener => some (.setConnectionListener listener)
  | .stopDataTransfer _ => some .stopDataTransfer
  | .proceed thread =>
    match c.calls thread with
    | .startRegistering listener => some (.startDataTransfer listener)
    | _ => none
  | _ => none

def Same (before : Listeners) (c : Connection) : Prop := c.listeners = before

namespace Same

variable {before : Listeners}

private theorem kept {method : Body Unit} (same : Same before c) (keeps : Keeps listeners method) :
    Always (Same before) c method :=
  keeps.post fun _ kept => kept.trans same

private theorem keeps_handleReceiveSequenceNumber (receiveSeqNumber : Nat) :
    Keeps listeners (handleReceiveSequenceNumber settings receiveSeqNumber) := fun c => by
  simp [handleReceiveSequenceNumber, listeners, told]

private theorem keeps_handleIFrame (aPdu : APdu) : Keeps listeners (handleIFrame settings aPdu) := by
  refine .bind (fun c => ?_) fun _ => .bind (keeps_handleReceiveSequenceNumber _) fun _ =>
    .bind (fun c => ?_) fun _ c => ?_
  · simp [post_updateReceiveSeqNum, listeners, told]
  · simp [listeners, told, List.filterMap_cons, Event.closedFor]
  · simp [post_acknowledgeReceived, listeners, told]

private theorem keeps_executeManually {id : TimerId} (other : id.closes = false) :
    Keeps listeners (executeManually settings id) := fun c => by
  cases id with
  | maxTimeNoTestConReceived => cases other
  | maxTimeNoAckReceived => cases other
  | maxTimeNoAckSentTimer => simp [post_executeManually, execute, listeners, told]
  | maxIdleTimeTimer => simp [post_executeManually, execute, listeners, told]
  | stopDtOutstandingSFormatTimer object =>
    simp [post_executeManually, execute, sendStopDtCon, listeners, told]

private theorem always_dispatch (same : Same before c) (aPdu : ReceivedAPdu)
    (unchanged : c.change (.receive aPdu) = none) :
    Always (Same before) c (dispatch settings server aPdu.toAPdu) := by
  apply Dispatches.post
  constructor
  case refused => exact fun _ => same
  case handleIFrame => exact fun _ => same.kept (keeps_handleIFrame _)
  case handleSFormat =>
    intro _
    apply (same.kept (keeps_handleReceiveSequenceNumber _)).mono
    · exact fun _ d same => ⟨fun _ => same, fun object _ => same.kept (keeps_executeManually rfl)⟩
    · exact fun _ _ same => same
  case handleStartDtAct =>
    intro format
    simp [change, format] at unchanged
  case handleStopDtAct =>
    intro format
    simp [change, format] at unchanged
  case sendTestFrameCon => exact same.kept fun c => by simp [Connection.sendTestFrameCon, listeners, told]
  case cancelTestCon => exact fun _ => same
  case countDown => exact fun _ => same

/-- Nothing else touches the listeners. -/
theorem preserves : Preserves settings server (fun c action => c.change action = none) (Same before) where
  progress _ _ same := same
  callEnds c event same ends := by
    cases event <;> simp_all [Event.endsCall, Same, listeners, told, Event.closedFor, List.filterMap_cons]
  tick _ _ same := same
  send _ aSdu same _ _ := same.kept <| .bind (fun c => by simp [post_prepareSend, listeners, told]) fun aPdu =>
    .bind (keeps_encode (fun _ _ => rfl) aPdu) fun _ c => by simp [listeners, told]
  receive _ aPdu same unchanged _ :=
    (same.always_dispatch aPdu unchanged).mono (fun _ _ same => same) fun _ _ same => same
  readFailure _ _ same _ := same
  endReader _ _ unchanged _ := by cases unchanged
  fire c id same unchanged := by
    have dequeued : Same before (c.dequeued id) := same
    rw [Always, post_fire]
    cases closes : id.closes with
    | false => exact dequeued.kept (keeps_executeManually closes)
    | true =>
      have canceled : (c.timer id).canceled = true := by simpa [change, closes] using unchanged
      rw [post_executeManually]
      exact ⟨fun _ => dequeued, fun pending => by cases canceled.symm.trans pending⟩
  runTask c task same _ _ := same.kept fun c => by
    cases registered : c.aSduListener <;>
      simp [registered, listeners, told, List.filterMap_cons, Event.closedFor]
  setConnectionListener _ _ _ unchanged := by cases unchanged
  close _ same := same.kept fun c => by simp [listeners, told]
  writeStartDtAct _ same := same.kept fun c => by
    simp [Connection.writeStartDtAct, newStartDtConSignal, listeners, told]
  register _ _ _ _ unchanged call := by simp [change, call] at unchanged
  beginStop _ _ _ unchanged := by cases unchanged
  confirm _ _ same _ _ := same.kept fun c => by simp [post_sendSFormatIfUnconfirmedAPdu, listeners, told]
  cancelT2 _ _ same _ _ := (post_cancelIfPlanned _).mpr same
  writeStopDtAct _ same := same.kept fun c => by
    simp [Connection.writeStopDtAct, newStopDtConSignal, listeners, told]
  finishStop _ _ same _ _ := same

end Same

private theorem listeners_ended : c.ended.listeners = c.listeners.after .readerEnds := by
  cases stopped : c.stopped <;>
    simp [listeners, told, Listeners.after, Listeners.toldAtEnd, stopped]

private theorem always_expired {id : TimerId} (closes : id.closes = true)
    (pending : (c.timer id).canceled = false) :
    Always (Same (c.listeners.after .expired)) c (executeManually settings id) := by
  have fatal : id = .maxTimeNoTestConReceived ∨ id = .maxTimeNoAckReceived := by
    cases id <;> simp_all [TimerId.closes]
  rw [Always, post_executeManually, post_execute_close fatal, post_close]
  constructor
  · intro canceled
    simp [pending] at canceled
  · have finished {d : Connection} (same : Same (c.listeners.after .expired) d) :
        Always (Same (c.listeners.after .expired)) d (setDone id) := same
    exact fun _ => ⟨fun _ => finished (by simp [Same, listeners, told, Listeners.after]),
      fun _ => finished (by simp [Same, listeners, told, Listeners.after])⟩

/-- The end of the reader is told to the listeners in both fields. -/
theorem listeners_endReader (ends : Step settings server c .endReader d) :
    d.listeners = c.listeners.after .readerEnds := by
  obtain ⟨method, found, rfl⟩ := step_eq_some ends
  obtain ⟨_, ⟨⟩⟩ := Option.ite_none_right_eq_some.mp found
  refine Post.outcome (P := Same (c.listeners.after .readerEnds)) ?_
  rw [post_endReader, post_close]
  exact ⟨fun _ => listeners_ended, fun _ => listeners_ended⟩

theorem listeners_fire {id : TimerId} (closes : id.closes = true) (pending : (c.timer id).canceled = false)
    (taken : Step settings server c (.fire id) d) : d.listeners = c.listeners.after .expired := by
  obtain ⟨method, found, rfl⟩ := step_eq_some taken
  obtain ⟨_, ⟨⟩⟩ := Option.ite_none_right_eq_some.mp found
  refine Post.outcome (P := Same (c.listeners.after .expired)) ?_
  rw [post_fire]
  exact always_expired closes pending

private theorem listeners_handleStopDtAct :
    Always (Same (c.listeners.after .stopDtAct)) c (handleStopDtAct settings) := by
  have requested : c.stopRequested.listeners = c.listeners.after .stopDtAct := by
    cases registered : c.aSduListener <;>
      simp [listeners, told, Listeners.after, registered, Event.closedFor, List.filterMap_cons]
  have confirm : Keeps listeners (sendSFormatIfUnconfirmedAPdu settings) := fun c => by
    simp [post_sendSFormatIfUnconfirmedAPdu, listeners, told]
  exact handleStopDtAct_of_keeps requested confirm (fun _ => rfl) fun c => by
    simp [sendStopDtCon, listeners, told]

private theorem listeners_startConfirmed : c.startConfirmed.listeners = c.listeners.after .startDtAct := by
  cases registered : c.aSduListener.or c.aSduListenerBack <;>
    simp [listeners, told, Listeners.after, registered, Event.closedFor, List.filterMap_cons]

/-- A start that cannot be confirmed is not handled, and the reader ends over it. -/
def Unconfirmed (c d : Connection) : Prop := Same c.listeners d ∧ d.reader = .leaving

theorem listeners_receive {aPdu : ReceivedAPdu} (taken : Step settings server c (.receive aPdu) d) :
    (aPdu.apciType = .STARTDT_ACT → d.listeners = c.listeners.after .startDtAct ∨ Unconfirmed c d) ∧
    (aPdu.apciType = .STOPDT_ACT → d.listeners = c.listeners.after .stopDtAct) := by
  obtain ⟨method, found, rfl⟩ := step_eq_some taken
  obtain ⟨_, ⟨⟩⟩ := Option.ite_none_right_eq_some.mp found
  constructor
  · intro format
    refine Post.outcome (P := fun d => d.listeners = c.listeners.after .startDtAct ∨ Unconfirmed c d) ?_
    simp only [post_readerTurn, dispatch, format, post_handleStartDtAct]
    refine ⟨fun _ => .inr ⟨rfl, rfl⟩, fun _ => ⟨fun _ => .inl ?_, fun _ => .inl ?_⟩⟩
    · exact listeners_startConfirmed
    · exact listeners_startConfirmed
  · intro format
    refine Post.outcome (P := Same (c.listeners.after .stopDtAct)) ?_
    simp only [post_readerTurn, dispatch, format]
    exact listeners_handleStopDtAct.mono (fun _ _ same => same) fun _ _ same => same

theorem listeners_stopDataTransfer {thread : Nat}
    (taken : Step settings server c (.stopDataTransfer thread) d) :
    d.listeners = c.listeners.after .stopDataTransfer := by
  obtain ⟨method, found, rfl⟩ := step_eq_some taken
  obtain ⟨_, ⟨⟩⟩ := Option.ite_none_right_eq_some.mp found
  refine Post.outcome (P := Same (c.listeners.after .stopDataTransfer)) ?_
  simp only [part, beginStop, post_tryCatch, post_bind, post_modify, post_setStopped, post_setCall]
  simp [Same, listeners, told, Listeners.after, Event.closedFor]

theorem listeners_register {thread : Nat} {listener : Option Listener}
    (call : c.calls thread = .startRegistering listener)
    (taken : Step settings server c (.proceed thread) d) :
    d.listeners = c.listeners.after (.startDataTransfer listener) := by
  obtain ⟨method, found, rfl⟩ := step_eq_some taken
  simp only [body, proceed, call, Option.some.injEq] at found
  subst found
  refine Post.outcome (P := Same (c.listeners.after (.startDataTransfer listener))) ?_
  simp only [lastPart, register, post_bind, post_modify, post_setStopped, post_setCall, post_log]
  simp [Same, listeners, told, Listeners.after, Event.closedFor, List.filterMap_cons]

/-- A step changes the listeners as its action says, or leaves them as they are. -/
theorem listeners_step {action : Action} (taken : Step settings server c action d) :
    d.listeners = (c.change action).elim c.listeners c.listeners.after ∨
      c.change action = some .startDtAct ∧ Unconfirmed c d := by
  by_cases unchanged : c.change action = none
  · rw [unchanged]
    exact .inl (Same.preserves.step rfl unchanged taken)
  cases action with
  | receive aPdu =>
    obtain ⟨starts, stops⟩ := listeners_receive taken
    cases format : aPdu.apciType <;> simp only [change, format, not_true_eq_false] at unchanged ⊢
    case STARTDT_ACT => exact (starts format).imp_right fun unconfirmed => ⟨trivial, unconfirmed⟩
    case STOPDT_ACT => exact .inl (stops format)
  | endReader => exact .inl (listeners_endReader taken)
  | fire id =>
    cases expires : id.closes && !(c.timer id).canceled with
    | false => simp [change, expires] at unchanged
    | true =>
      obtain ⟨closes, pending⟩ := Bool.and_eq_true_iff.mp expires
      simp only [change, expires, if_true]
      exact .inl (listeners_fire closes (by simpa using pending) taken)
  | setConnectionListener listener =>
    obtain ⟨method, ⟨⟩, rfl⟩ := step_eq_some taken
    exact .inl rfl
  | stopDataTransfer thread => exact .inl (listeners_stopDataTransfer taken)
  | proceed thread =>
    cases call : c.calls thread <;> simp only [change, call, not_true_eq_false] at unchanged ⊢
    exact .inl (listeners_register call taken)
  | send | readFailure | tick | runTask | close | startDataTransfer | timeOut | interrupt =>
    exact absurd rfl unchanged

end Connection

end J60870
