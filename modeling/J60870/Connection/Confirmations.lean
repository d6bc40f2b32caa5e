import J60870.Connection.Handshakes

namespace J60870

open Lib Method

namespace Connection

variable {settings : ConnectionSettings} {server : Bool} {c d : Connection}

def handshakes (c : Connection) : Handshakes where
  calls := c.calls
  signal
    | .start => c.startDtConSignal
    | .stop => c.stopDtConSignal
  latches := c.latches
  countedDown := c.countedDown
  returned := c.events.filterMap Event.returnedBy

/-- The request an action confirms. -/
def Action.confirms : Action → Option Request
  | .receive aPdu =>
    match aPdu.apciType with
    | .STARTDT_CON => some .start
    | .STOPDT_CON => some .stop
    | _ => none
  | _ => none

/-- The thread that writes a request in a step. -/
def requests (c : Connection) : Action → Option (Nat × Request)
  | .startDataTransfer thread _ => some (thread, .start)
  | .proceed thread => if c.calls thread = .stopCancelled then some (thread, .stop) else none
  | _ => none

namespace Handshaking

private theorem keeps_handleReceiveSequenceNumber (receiveSeqNumber : Nat) :
    Keeps handshakes (handleReceiveSequenceNumber settings receiveSeqNumber) := fun c => by
  simp [handleReceiveSequenceNumber, handshakes]

private theorem keeps_handleIFrame (aPdu : APdu) : Keeps handshakes (handleIFrame settings aPdu) := by
  refine .bind (fun c => ?_) fun _ => .bind (keeps_handleReceiveSequenceNumber _) fun _ =>
    .bind (fun c => ?_) fun _ c => ?_
  · simp [post_updateReceiveSeqNum, handshakes]
  · simp [handshakes, Event.returnedBy]
  · simp [post_acknowledgeReceived, handshakes]

private theorem keeps_confirmStop : Keeps handshakes (sendSFormatIfUnconfirmedAPdu settings) := fun c => by
  simp [post_sendSFormatIfUnconfirmedAPdu, handshakes]

private theorem keeps_sendStopDtCon : Keeps handshakes sendStopDtCon := fun c => by
  simp [sendStopDtCon, handshakes]

private theorem keeps_handleStopDtAct : Keeps handshakes (handleStopDtAct settings) := fun c =>
  handleStopDtAct_of_keeps (by simp [handshakes, Event.returnedBy]) keeps_confirmStop
    (fun d => by simp [handshakes]) keeps_sendStopDtCon

private theorem keeps_handleStartDtAct : Keeps handshakes handleStartDtAct := fun c => by
  simp [post_handleStartDtAct, handshakes, Event.returnedBy]

private theorem keeps_executeManually (id : TimerId) :
    Keeps handshakes (executeManually settings id) := fun c => by
  cases id <;> simp [post_executeManually, execute, sendStopDtCon, handshakes, Event.returnedBy]

private theorem keeps_fire (id : TimerId) : Keeps handshakes (fire settings id) := fun c => by
  rw [post_fire]
  exact keeps_executeManually id (c.dequeued id)

private theorem keeps_closeIfStopped (apciType : ApciType) :
    Keeps handshakes (closeIfStopped server apciType) := fun c => by
  simp

private theorem keeps_dispatch {aPdu : ReceivedAPdu} (silent : (Action.receive aPdu).confirms = none) :
    Keeps handshakes (dispatch settings server aPdu.toAPdu) := by
  cases format : aPdu.apciType <;> simp only [dispatch, format]
  case I_FORMAT => exact .bind (keeps_closeIfStopped _) fun _ => keeps_handleIFrame _
  case S_FORMAT =>
    refine .bind (keeps_closeIfStopped _) fun _ => .bind (keeps_handleReceiveSequenceNumber _) fun _ =>
      .bind .get fun c => ?_
    cases c.stopDtOutstandingSFormatTimer with
    | none => exact .pure _
    | some object => exact keeps_executeManually _
  case STARTDT_ACT => exact keeps_handleStartDtAct
  case STOPDT_ACT => exact keeps_handleStopDtAct
  case TESTFR_ACT => exact fun c => by simp [sendTestFrameCon, handshakes]
  case TESTFR_CON => exact fun c => rfl
  case STARTDT_CON => simp [Action.confirms, format] at silent
  case STOPDT_CON => simp [Action.confirms, format] at silent

private theorem keeps_send (aSdu : ASdu) : Keeps handshakes (send settings aSdu) := by
  refine .bind (fun c => ?_) fun aPdu => .bind (keeps_encode (fun _ _ => rfl) aPdu) fun _ c => ?_
  · simp [post_prepareSend, handshakes]
  · simp [handshakes]

private theorem keeps_endReader : Keeps handshakes endReader := fun c => by
  cases stopped : c.stopped <;> simp [post_endReader, handshakes, stopped, Event.returnedBy]

private theorem keeps_runTask (task : Task) : Keeps handshakes (runTask settings task) := fun c => by
  cases registered : c.aSduListener <;> simp [handshakes, registered, Event.returnedBy]

private theorem keeps_beginStop : Keeps handshakes beginStop := fun c => by
  simp [beginStop, handshakes, Event.returnedBy]

end Handshaking

open Handshaking

/-- A confirmation counts down the latch the field holds. -/
theorem handshakes_confirmed {action : Action} {request : Request} (confirms : action.confirms = some request)
    (taken : Step settings server c action d) : d.handshakes = c.handshakes.after (.confirmed request) := by
  obtain ⟨method, found, rfl⟩ := step_eq_some taken
  cases action with
  | receive aPdu =>
    obtain ⟨_, ⟨⟩⟩ := Option.ite_none_right_eq_some.mp found
    refine Post.outcome (P := fun d : Connection => d.handshakes = c.handshakes.after (.confirmed request)) ?_
    rw [post_readerTurn]
    cases format : aPdu.apciType <;> simp only [Action.confirms, format, reduceCtorEq] at confirms
    all_goals
      cases confirms
      simp only [dispatch, format, post_bind, post_get, post_countDown]
      rfl
  | _ => cases confirms

/-- The state behind a request, which may not have got through. -/
private def Requested (c : Connection) (thread : Nat) (request : Request) (d : Connection) : Prop :=
  ∃ call, c.handshakes.Allows (.requested thread request call) ∧
    d.handshakes = c.handshakes.after (.requested thread request call)

private theorem always_request {thread : Nat} {request : Request} {call : Call} {frame : APdu}
    {newSignal : Connection → Connection} (waits : call.waitsFor = some request) (awaits : call.latch = none)
    (fresh : (newSignal c).handshakes =
      { c.handshakes with
        signal := Function.update c.handshakes.signal request (some c.latches)
        latches := c.latches + 1 }) :
    Always (c.Requested thread request) c (part thread call do
      modify newSignal
      write frame
      flush) := by
  have goesOn (next : Call) {d : Connection} (allowed : c.handshakes.Allows (.requested thread request next))
      (same : d.handshakes = (newSignal c).handshakes.after (.moved thread next)) :
      c.Requested thread request d := by
    refine ⟨next, allowed, same.trans ?_⟩
    rw [fresh]
    rfl
  have returns : call.returnsFrom = none := by cases call <;> first | rfl | cases waits
  simp only [Always, part, post_tryCatch, post_bind, post_modify, post_write, post_flush, post_setCall,
    post_log]
  refine ⟨fun _ => ?_, fun _ => ⟨fun _ => ?_, fun _ => ?_⟩⟩
  · exact goesOn .idle ⟨.inl rfl, rfl, rfl⟩ (by simp [handshakes, Handshakes.after, Event.returnedBy])
  · exact goesOn .idle ⟨.inl rfl, rfl, rfl⟩ (by simp [handshakes, Handshakes.after, Event.returnedBy])
  · exact goesOn call ⟨.inr waits, awaits, returns⟩ rfl

/-- A request goes out on a latch of its own. -/
theorem handshakes_requested {action : Action} {thread : Nat} {request : Request}
    (requests : c.requests action = some (thread, request)) (taken : Step settings server c action d) :
    c.Requested thread request d := by
  obtain ⟨method, found, rfl⟩ := step_eq_some taken
  refine Post.outcome (P := c.Requested thread request) ?_
  cases action with
  | startDataTransfer thread listener =>
    cases requests
    obtain ⟨_, ⟨⟩⟩ := Option.ite_none_right_eq_some.mp found
    exact always_request rfl rfl
      (Handshakes.ext rfl (funext fun request => by cases request <;> rfl) rfl rfl rfl)
  | proceed thread =>
    obtain ⟨call, ⟨⟩⟩ := Option.ite_none_right_eq_some.mp requests
    simp only [body, proceed, call, Option.some.injEq] at found
    subst found
    exact always_request rfl rfl
      (Handshakes.ext rfl (funext fun request => by cases request <;> rfl) rfl rfl rfl)
  | _ => cases requests

/-- No thread is interrupted before its latch is counted down. -/
def Uninterrupted (c : Connection) : Action → Prop
  | .interrupt thread => ∀ latch, (c.calls thread).latch = some latch → latch ∈ c.countedDown
  | _ => True

/-- A thread has moved, or its call has returned. -/
private def Moved (c : Connection) (thread : Nat) (d : Connection) : Prop :=
  (∃ call, c.handshakes.Allows (.moved thread call) ∧ d.handshakes = c.handshakes.after (.moved thread call)) ∨
    c.handshakes.Allows (.returned thread) ∧ d.handshakes = c.handshakes.after (.returned thread)

private theorem moved_part {thread : Nat} {call : Call} {method : Body Unit} (keeps : Keeps handshakes method)
    (waits : call.waitsFor = none) (returns : call.returnsFrom = none) :
    Always (c.Moved thread) c (part thread call method) := by
  simp only [Always, part, post_tryCatch, post_bind, post_setCall, post_log]
  apply (keeps c).mono
  · intro _ d same
    refine .inl ⟨call, .aside waits returns, ?_⟩
    rw [← same]
    rfl
  · intro e d same
    refine .inl ⟨.idle, .aside rfl rfl, ?_⟩
    rw [← same]
    simp [handshakes, Handshakes.after, Event.returnedBy]

private theorem moved_lastPart {thread : Nat} {method : Body Unit}
    (finishing : (c.calls thread).returnsFrom ≠ none)
    (returns : Post method c (fun _ d => d.handshakes = c.handshakes) fun _ _ => False) :
    Always (c.Moved thread) c (lastPart thread method) := by
  simp only [Always, lastPart, post_bind, post_setCall, post_log]
  apply returns.mono
  · intro _ d same
    refine .inr ⟨finishing, ?_⟩
    rw [← same]
    simp [handshakes, Handshakes.after, Event.returnedBy]
  · exact fun _ _ threw => threw.elim

private theorem moved_setCall {thread : Nat} {call : Call} (moves : c.handshakes.Moves (c.calls thread) call) :
    Always (c.Moved thread) c (setCall thread call) :=
  .inl ⟨call, moves, rfl⟩

private theorem moved_proceed {thread : Nat} (quiet : c.requests (.proceed thread) = none)
    (taken : Step settings server c (.proceed thread) d) : c.Moved thread d := by
  obtain ⟨method, found, rfl⟩ := step_eq_some taken
  refine Post.outcome (P := c.Moved thread) ?_
  change proceed settings c thread = some method at found
  cases call : c.calls thread <;> simp only [proceed, call, reduceCtorEq, Option.some.injEq] at found
  case startWritten listener =>
    obtain ⟨latch, field, rfl⟩ := Option.map_eq_some_iff.mp found
    have written : (c.calls thread).waitsFor = some .start := by rw [call]; rfl
    exact moved_setCall (.looks written field rfl rfl rfl)
  case startAwaiting listener latch =>
    obtain ⟨down, ⟨⟩⟩ := Option.ite_none_right_eq_some.mp found
    exact moved_setCall (.wakes (by rw [call]; rfl) (by rw [call]; rfl) down rfl rfl)
  case startRegistering listener =>
    subst found
    exact moved_lastPart (by simp [call, Call.returnsFrom]) (by simp [register, handshakes, Event.returnedBy])
  case stopBegun =>
    subst found
    exact moved_part keeps_confirmStop rfl rfl
  case stopConfirmed =>
    subst found
    exact moved_part (fun c => by simp [handshakes]) rfl rfl
  case stopCancelled => simp [requests, call] at quiet
  case stopWritten =>
    obtain ⟨latch, field, rfl⟩ := Option.map_eq_some_iff.mp found
    have written : (c.calls thread).waitsFor = some .stop := by rw [call]; rfl
    exact moved_setCall (.looks written field rfl rfl rfl)
  case stopAwaiting latch =>
    obtain ⟨down, ⟨⟩⟩ := Option.ite_none_right_eq_some.mp found
    exact moved_setCall (.wakes (by rw [call]; rfl) (by rw [call]; rfl) down rfl rfl)
  case stopFinishing =>
    subst found
    exact moved_lastPart (by simp [call, Call.returnsFrom]) rfl

private theorem moved_timeOut {thread : Nat} (taken : Step settings server c (.timeOut thread) d) :
    c.Moved thread d := by
  obtain ⟨method, found, rfl⟩ := step_eq_some taken
  refine Post.outcome (P := c.Moved thread) ?_
  change timeOut c thread = some method at found
  cases call : c.calls thread <;> simp only [timeOut, call] at found <;> cases found <;>
    exact moved_part (.throw _) rfl rfl

private theorem moved_interrupt {thread : Nat} (meets : c.Uninterrupted (.interrupt thread))
    (taken : Step settings server c (.interrupt thread) d) : c.Moved thread d := by
  obtain ⟨method, found, rfl⟩ := step_eq_some taken
  refine Post.outcome (P := c.Moved thread) ?_
  change interrupt c thread = some method at found
  cases call : c.calls thread <;> simp only [interrupt, call] at found <;> cases found
  case startAwaiting listener latch =>
    have down : latch ∈ c.countedDown := meets latch (by rw [call]; rfl)
    exact moved_setCall (.wakes (by rw [call]; rfl) (by rw [call]; rfl) down rfl rfl)
  case stopAwaiting latch =>
    have down : latch ∈ c.countedDown := meets latch (by rw [call]; rfl)
    exact moved_setCall (.wakes (by rw [call]; rfl) (by rw [call]; rfl) down rfl rfl)

/-- Whatever else happens moves one thread, if any. -/
theorem handshakes_other {action : Action} (silent : action.confirms = none) (quiet : c.requests action = none)
    (meets : c.Uninterrupted action) (taken : Step settings server c action d) :
    d.handshakes = c.handshakes ∨ ∃ thread, c.Moved thread d := by
  obtain ⟨method, found, rfl⟩ := step_eq_some taken
  cases action with
  | send aSdu =>
    obtain ⟨_, ⟨⟩⟩ := Option.ite_none_right_eq_some.mp found
    exact .inl ((keeps_send aSdu).outcome c)
  | receive aPdu =>
    obtain ⟨_, ⟨⟩⟩ := Option.ite_none_right_eq_some.mp found
    refine .inl (Post.outcome (P := fun d : Connection => d.handshakes = c.handshakes) ?_)
    rw [post_readerTurn]
    exact (keeps_dispatch silent c).mono (fun _ _ same => same) fun _ _ same => same
  | readFailure e =>
    obtain ⟨_, ⟨⟩⟩ := Option.ite_none_right_eq_some.mp found
    exact .inl rfl
  | endReader =>
    obtain ⟨_, ⟨⟩⟩ := Option.ite_none_right_eq_some.mp found
    exact .inl (keeps_endReader.outcome c)
  | fire id =>
    obtain ⟨_, ⟨⟩⟩ := Option.ite_none_right_eq_some.mp found
    exact .inl ((keeps_fire id).outcome c)
  | tick milliseconds =>
    cases found
    exact .inl rfl
  | runTask =>
    obtain ⟨_, given⟩ := Option.ite_none_left_eq_some.mp found
    obtain ⟨task, _, rfl⟩ := Option.map_eq_some_iff.mp given
    exact .inl ((keeps_runTask task).outcome c)
  | setConnectionListener listener =>
    cases found
    exact .inl rfl
  | close =>
    cases found
    exact .inl (Keeps.outcome (f := handshakes) (fun c => by simp [handshakes]) c)
  | startDataTransfer thread listener => cases quiet
  | stopDataTransfer thread =>
    obtain ⟨_, ⟨⟩⟩ := Option.ite_none_right_eq_some.mp found
    exact .inr ⟨thread, (moved_part keeps_beginStop rfl rfl).outcome⟩
  | proceed thread => exact .inr ⟨thread, moved_proceed quiet taken⟩
  | timeOut thread => exact .inr ⟨thread, moved_timeOut taken⟩
  | interrupt thread => exact .inr ⟨thread, moved_interrupt meets taken⟩

/-- A step is a change of the calls and latches, or leaves them as they are. -/
theorem handshakes_step {action : Action} (meets : c.Uninterrupted action)
    (taken : Step settings server c action d) :
    (d.handshakes = c.handshakes ∧ action.confirms = none ∧ c.requests action = none) ∨
      ∃ change, c.handshakes.Allows change ∧ d.handshakes = c.handshakes.after change ∧
        change.confirms = action.confirms ∧ change.requests = c.requests action := by
  cases confirms : action.confirms with
  | some request =>
    have silent : c.requests action = none := by cases action <;> first | rfl | cases confirms
    exact .inr ⟨.confirmed request, trivial, handshakes_confirmed confirms taken, rfl, silent.symm⟩
  | none =>
    cases requests : c.requests action with
    | some request =>
      obtain ⟨call, allowed, changed⟩ := handshakes_requested requests taken
      exact .inr ⟨_, allowed, changed, rfl, rfl⟩
    | none =>
      rcases handshakes_other confirms requests meets taken with same | ⟨thread, moved | returned⟩
      · exact .inl ⟨same, rfl, rfl⟩
      · obtain ⟨call, allowed, changed⟩ := moved
        exact .inr ⟨_, allowed, changed, rfl, rfl⟩
      · exact .inr ⟨_, returned.1, returned.2, rfl, rfl⟩

/-- Note whether the last request a thread has written was confirmed since. -/
def confirmation (c : Connection) (action : Action) (confirmed : Request → Nat → Bool) :
    Request → Nat → Bool :=
  Handshakes.noted action.confirms (c.requests action) confirmed

theorem sound_step {action : Action} {confirmed : Request → Nat → Bool} (sound : c.handshakes.Sound confirmed)
    (meets : c.Uninterrupted action) (taken : Step settings server c action d) :
    d.handshakes.Sound (c.confirmation action confirmed) := by
  rcases handshakes_step meets taken with ⟨same, silent, quiet⟩ | ⟨change, allowed, changed, confirms, requests⟩
  · rw [same, confirmation, silent, quiet]
    exact sound
  · rw [changed, confirmation, ← confirms, ← requests]
    exact sound.after allowed

theorem sound_started (ioFails : Nat → Bool) (now : Nat) :
    (started settings ioFails now).handshakes.Sound fun _ _ => false where
  numbered := by
    constructor <;> simp [started, handshakes, Call.latch]
    all_goals rintro (_ | _) <;> simp
  unconfirmed request thread _ := by
    constructor <;> simp [started, handshakes, Call.returnsFrom, Call.waitsFor]

/-- In a run in which no thread is interrupted before its latch is counted down, every
call of `startDataTransfer` or `stopDataTransfer` that is about to finish, and so every
call that returns, was confirmed after its request had been written. -/
theorem returned_confirmed {actions : List Action} {ioFails : Nat → Bool} {now : Nat}
    {confirmed : Request → Nat → Bool}
    (run : Run (Run.Tracked confirmation (Run.Guarded Uninterrupted (Step settings server)))
      (started settings ioFails now, fun _ _ => false) actions (c, confirmed)) :
    (∀ thread request, (c.calls thread).returnsFrom = some request → confirmed request thread = true) ∧
    ∀ action d, c.Uninterrupted action → Step settings server c action d →
      d.handshakes.returned = c.handshakes.returned ∨
        ∃ thread request, d.handshakes.returned = c.handshakes.returned ++ [thread] ∧
          (c.calls thread).returnsFrom = some request ∧ confirmed request thread = true := by
  have sound : c.handshakes.Sound confirmed := by
    refine run.invariant (I := fun c => c.1.handshakes.Sound c.2) (sound_started ioFails now) ?_
    rintro ⟨c, confirmed⟩ action ⟨d, _⟩ sound ⟨⟨meets, taken⟩, rfl⟩
    exact sound_step sound meets taken
  refine ⟨fun thread request returns => sound.confirmed_of_returns returns, fun action d meets taken => ?_⟩
  rcases handshakes_step meets taken with ⟨same, -⟩ | ⟨change, allowed, changed, -⟩
  · exact .inl (by rw [same])
  rw [changed]
  cases change with
  | returned thread =>
    obtain ⟨request, returns⟩ := Option.ne_none_iff_exists'.mp allowed
    exact .inr ⟨thread, request, rfl, returns, sound.confirmed_of_returns returns⟩
  | _ => exact .inl rfl

theorem returned_confirmed_sample :
    ((sampleState false (sampleConfirmed ++ [.proceed 0])).calls 0).returnsFrom = some .start ∧
    Run.notes (step {} false) confirmation (started {} (fun _ => false) 0) (fun _ _ => false)
      (sampleConfirmed ++ [.proceed 0]) .start 0 = true := by
  have meets : RunMeets {} false Uninterrupted (started {} (fun _ => false) 0)
      (sampleConfirmed ++ [.proceed 0]) :=
    .intro trivial <| .intro trivial <| .intro trivial <| .intro trivial trivial
  have returns : ((sampleState false (sampleConfirmed ++ [.proceed 0])).calls 0).returnsFrom =
      some .start := rfl
  have run : Run (Run.Tracked confirmation (Run.Guarded Uninterrupted (Step {} false)))
      (started {} (fun _ => false) 0, fun _ _ => false) (sampleConfirmed ++ [.proceed 0])
      (sampleState false (sampleConfirmed ++ [.proceed 0]), _) := tracked_of_runActions _ rfl meets
  exact ⟨returns, (returned_confirmed run).1 0 .start returns⟩

/-- A call that is interrupted while it waits starts the transfer without a confirmation. -/
theorem returned_unconfirmed :
    ∃ c, Run (Step {} false) (started {} (fun _ => false) 0)
        [.startDataTransfer 0 (some 7), .proceed 0, .interrupt 0, .proceed 0] c ∧
      c.events = [.dataTransferStateChanged 7 false, .returned 0] ∧ c.stopped = false ∧
      Run.notes (step {} false) confirmation (started {} (fun _ => false) 0) (fun _ _ => false)
        [.startDataTransfer 0 (some 7), .proceed 0, .interrupt 0, .proceed 0] .start 0 = false :=
  ⟨_, run_of_runActions rfl, rfl, rfl, rfl⟩

end Connection

end J60870
