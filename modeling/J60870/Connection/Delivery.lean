import J60870.Connection.Phases

/-! What becomes of the ASDUs of I frames. Three things happen to them: an I frame is accepted, a task is
handed to the executor if a listener is registered then, and the task runs for the listener that is
registered when it runs. -/

namespace J60870

open Lib Method

def APdu.informed (aPdu : APdu) : Option (Option ASdu) :=
  if aPdu.apciType = .I_FORMAT then some aPdu.aSdu else none

namespace Event

/-- An I frame was accepted: its ASDU, and the listener registered then. -/
def taken : Event → Option (Option ASdu × Option Listener)
  | .accepted aSdu listener => some (aSdu, listener)
  | _ => none

def handedOver : Event → Option (Option ASdu × Option Listener)
  | .accepted aSdu listener => listener.map fun listener => (aSdu, some listener)
  | _ => none

/-- An ASDU whose task has run, with the listener it was passed to, if there was one. -/
def hasRun : Event → Option (Option ASdu × Option Listener)
  | .newASdu listener aSdu => some (aSdu, some listener)
  | .taskDied aSdu => some (aSdu, none)
  | _ => none

end Event

def Task.promise (task : Task) : Option ASdu × Option Listener := (task.aSdu, some task.listener)

/-- The executor, the ASDUs whose tasks have run, and the ASDUs of the accepted I frames. -/
structure Deliveries where
  executor : SerialExecutor Task
  rejected : Bool
  hasRun : List (Option ASdu × Option Listener)
  taken : List (Option ASdu × Option Listener)

namespace Deliveries

variable {deliveries : Deliveries}

/-- An I frame is accepted while `listener` is registered. -/
@[simps] def accept (deliveries : Deliveries) (aSdu : Option ASdu) (listener : Option Listener) :
    Deliveries where
  executor :=
    match listener with
    | some listener => deliveries.executor.execute ⟨aSdu, listener⟩
    | none => deliveries.executor
  rejected := deliveries.rejected
  hasRun := deliveries.hasRun
  taken := deliveries.taken ++ [(aSdu, listener)]

/-- A task runs while `listener` is registered, and the pool takes or rejects the next one. -/
@[simps] def run (deliveries : Deliveries) (task : Task) (listener : Option Listener) (rejected : Bool) :
    Deliveries where
  executor := deliveries.executor.scheduleNext
  rejected := rejected
  hasRun := deliveries.hasRun ++ [(task.aSdu, listener)]
  taken := deliveries.taken

def handedOver (deliveries : Deliveries) : List (Option ASdu × Option Listener) :=
  deliveries.taken.filter fun taken => taken.2.isSome

/-- Under the view `view` of a delivery, what was handed over so far has run or waits to
run, in the order of arrival. -/
structure InOrder {γ : Type} (view : Option ASdu × Option Listener → γ) (deliveries : Deliveries) : Prop where
  scheduled : deliveries.executor.Scheduled
  inOrder : (deliveries.hasRun ++ deliveries.executor.queue.map Task.promise).map view =
    deliveries.handedOver.map view

namespace InOrder

variable {γ : Type} {view : Option ASdu × Option Listener → γ}

theorem accept (ordered : InOrder view deliveries) (aSdu : Option ASdu) (listener : Option Listener) :
    InOrder view (deliveries.accept aSdu listener) := by
  obtain ⟨scheduled, inOrder⟩ := ordered
  cases listener with
  | none =>
    refine ⟨scheduled, ?_⟩
    simpa [handedOver] using inOrder
  | some listener =>
    refine ⟨SerialExecutor.execute_scheduled _ scheduled, ?_⟩
    rw [List.map_append, handedOver] at inOrder
    simp [handedOver, Task.promise, ← inOrder]

theorem run {task : Task} {listener : Option Listener} {rejected : Bool} (ordered : InOrder view deliveries)
    (active : deliveries.executor.active = some task)
    (promised : view (task.aSdu, listener) = view task.promise) :
    InOrder view (deliveries.run task listener rejected) := by
  obtain ⟨-, inOrder⟩ := ordered
  rw [SerialExecutor.scheduleNext_queue active] at inOrder
  refine ⟨SerialExecutor.scheduleNext_scheduled, ?_⟩
  simpa [handedOver, ← promised] using inOrder

end InOrder

end Deliveries

namespace Connection

variable {settings : ConnectionSettings} {server : Bool} {c d : Connection}

def deliveries (c : Connection) : Deliveries :=
  ⟨c.serialExecutor, c.taskRejected, c.events.filterMap Event.hasRun, c.events.filterMap Event.taken⟩

theorem deliveries_handedOver : c.deliveries.handedOver = c.events.filterMap Event.handedOver := by
  rw [Deliveries.handedOver, deliveries, List.filter_filterMap]
  congr 1
  funext event
  cases event with
  | accepted aSdu listener => cases listener <;> rfl
  | _ => rfl

namespace Action

def informs : Action → Option (Option ASdu)
  | .receive aPdu => aPdu.informed
  | _ => none

def runsTask : Action → Bool
  | .runTask => true
  | _ => false

end Action

def Untouched (before : Deliveries) (c : Connection) : Prop := c.deliveries = before

namespace Untouched

variable {before : Deliveries}

private theorem kept {method : Body Unit} (same : Untouched before c) (keeps : Keeps deliveries method) :
    Always (Untouched before) c method :=
  keeps.post fun _ kept => kept.trans same

private theorem keeps_handleReceiveSequenceNumber (receiveSeqNumber : Nat) :
    Keeps deliveries (handleReceiveSequenceNumber settings receiveSeqNumber) := by
  intro c
  simp [handleReceiveSequenceNumber, deliveries]

private theorem keeps_confirmStop : Keeps deliveries (sendSFormatIfUnconfirmedAPdu settings) := fun c => by
  simp [post_sendSFormatIfUnconfirmedAPdu, deliveries]

private theorem always_dispatch (same : Untouched before c) (aPdu : ReceivedAPdu) (other : aPdu.informed = none) :
    Always (Untouched before) c (dispatch settings server aPdu.toAPdu) := by
  apply Dispatches.post
  constructor
  case refused => exact fun _ => same
  case handleIFrame =>
    intro format
    simp [APdu.informed, format] at other
  case handleSFormat =>
    intro _
    refine (same.kept (keeps_handleReceiveSequenceNumber _)).mono (fun _ d same => ?_) fun _ _ same => same
    refine ⟨fun _ => same, fun object _ => same.kept fun c => ?_⟩
    simp [post_executeManually, execute, sendStopDtCon, deliveries]
  case handleStartDtAct =>
    intro _
    refine same.kept fun c => ?_
    simp [post_handleStartDtAct, deliveries, Event.taken, Event.hasRun]
  case handleStopDtAct =>
    intro _
    refine same.kept fun c => handleStopDtAct_of_keeps ?_ keeps_confirmStop (fun _ => rfl) fun c => ?_
    · simp [deliveries, Event.taken, Event.hasRun]
    · simp [sendStopDtCon, deliveries]
  case sendTestFrameCon =>
    refine same.kept fun c => ?_
    simp [Connection.sendTestFrameCon, deliveries]
  case cancelTestCon => exact fun _ => same
  case countDown => exact fun _ => same

/-- Nothing but an I frame and a task touches the deliveries. -/
theorem preserves : Preserves settings server (fun _ action => action.informs = none ∧ action.runsTask = false)
    (Untouched before) where
  progress _ _ same := same
  callEnds c event same ends := by
    cases event <;>
      simp_all [Event.endsCall, Untouched, deliveries, Event.taken, Event.hasRun, List.filterMap_cons]
  tick _ _ same := same
  send _ aSdu same _ _ := same.kept <| .bind (fun c => by simp [prepareSend, deliveries]) fun aPdu =>
    .bind (keeps_encode (fun _ _ => rfl) aPdu) fun _ c => by simp [deliveries]
  receive _ aPdu same other _ :=
    (same.always_dispatch aPdu other.1).mono (fun _ _ same => same) fun _ _ same => same
  readFailure _ _ same _ := same
  endReader _ same _ _ := same.kept fun c => by
    cases stopped : c.stopped <;>
      simp [post_endReader, deliveries, stopped, Event.taken, Event.hasRun]
  fire c id same _ := same.kept fun c => by
    cases id <;>
      simp [post_executeManually, execute, sendStopDtCon, deliveries, Event.taken, Event.hasRun]
  runTask _ _ _ other _ := by cases other.2
  setConnectionListener _ _ same _ := same
  close _ same := same.kept fun c => by simp [deliveries]
  writeStartDtAct _ same := same.kept fun c => by
    simp [Connection.writeStartDtAct, newStartDtConSignal, deliveries]
  register _ _ _ same _ _ := same.kept fun c => by
    simp [Connection.register, deliveries, Event.taken, Event.hasRun]
  beginStop _ _ same _ := same.kept fun c => by
    simp [Connection.beginStop, deliveries, Event.taken, Event.hasRun]
  confirm _ _ same _ _ := same.kept keeps_confirmStop
  cancelT2 _ _ same _ _ := (post_cancelIfPlanned _).mpr same
  writeStopDtAct _ same := same.kept fun c => by
    simp [Connection.writeStopDtAct, newStopDtConSignal, deliveries]
  finishStop _ _ same _ _ := same

end Untouched

private theorem deliveries_handleIFrame (aPdu : APdu) :
    Post (handleIFrame settings aPdu) c (fun _ d => d.deliveries = c.deliveries.accept aPdu.aSdu c.aSduListener)
      fun _ d => d.deliveries = c.deliveries.accept aPdu.aSdu c.aSduListener ∨ d.deliveries = c.deliveries := by
  have counted : Keeps (fun c => (c.deliveries, c.aSduListener))
      (updateReceiveSeqNum settings aPdu.sendSeqNum) := fun c => by
    simp [post_updateReceiveSeqNum, deliveries]
  have acknowledged : Keeps (fun c => (c.deliveries, c.aSduListener))
      (handleReceiveSequenceNumber settings aPdu.receiveSeqNum) := fun c => by
    simp [handleReceiveSequenceNumber, deliveries]
  have answered : Keeps deliveries (acknowledgeReceived settings) := fun c => by
    simp [post_acknowledgeReceived, deliveries]
  refine Post.seq ((counted c).mono (fun _ _ same => same) fun _ d same => .inr (Prod.mk.inj same).1)
    fun _ d before => ?_
  refine Post.seq ((acknowledged d).mono (fun _ _ same => same.trans before)
    fun _ e same => .inr (Prod.mk.inj (same.trans before)).1) fun _ e before => ?_
  obtain ⟨sameDeliveries, sameListener⟩ := Prod.mk.inj before
  rw [post_bind, post_handOver]
  have took {f : Connection} (taken : f.deliveries = e.deliveries.accept aPdu.aSdu e.aSduListener) :
      f.deliveries = c.deliveries.accept aPdu.aSdu c.aSduListener := by rw [taken, sameDeliveries, sameListener]
  have accepted : ({ e with
      events := e.events ++ [.accepted aPdu.aSdu e.aSduListener]
      serialExecutor :=
        match e.aSduListener with
        | some listener => e.serialExecutor.execute ⟨aPdu.aSdu, listener⟩
        | none => e.serialExecutor } : Connection).deliveries =
      e.deliveries.accept aPdu.aSdu e.aSduListener := by
    simp [deliveries, Deliveries.accept, Event.taken, Event.hasRun, List.filterMap_cons]
  exact (answered _).mono (fun _ _ same => took (same.trans accepted))
    fun _ _ same => .inl (took (same.trans accepted))

/-- An I frame that does not end the reader is accepted. -/
theorem deliveries_receive {aPdu : ReceivedAPdu} {aSdu : Option ASdu} (informs : aPdu.informed = some aSdu)
    (taken : Step settings server c (.receive aPdu) d) :
    d.deliveries = c.deliveries.accept aSdu c.aSduListener ∨
      d.deliveries = c.deliveries ∧ d.reader = .leaving := by
  obtain ⟨format, rfl⟩ : aPdu.apciType = .I_FORMAT ∧ aPdu.aSdu = aSdu := by
    simpa [APdu.informed] using informs
  obtain ⟨method, found, rfl⟩ := step_eq_some taken
  obtain ⟨_, ⟨⟩⟩ := Option.ite_none_right_eq_some.mp found
  refine Post.outcome (P := fun d : Connection =>
    d.deliveries = c.deliveries.accept aPdu.aSdu c.aSduListener ∨
      d.deliveries = c.deliveries ∧ d.reader = .leaving) ?_
  simp only [post_readerTurn, dispatch, format, post_bind, post_closeIfStopped]
  refine ⟨fun _ => .inr ⟨rfl, rfl⟩, fun _ => (deliveries_handleIFrame aPdu.toAPdu).mono ?_ ?_⟩
  · exact fun _ _ accepted => .inl accepted
  · exact fun _ _ thrown => thrown.imp id fun same => ⟨same, rfl⟩

/-- A task runs for the listener that is registered then. -/
theorem deliveries_runTask (taken : Step settings server c .runTask d) :
    ∃ task, c.serialExecutor.active = some task ∧
      d.deliveries = c.deliveries.run task c.aSduListener (!poolRuns settings c) ∧
      d.events = c.events ++ [match c.aSduListener with
        | some listener => .newASdu listener task.aSdu
        | none => .taskDied task.aSdu] := by
  obtain ⟨method, found, rfl⟩ := step_eq_some taken
  obtain ⟨_, given⟩ := Option.ite_none_left_eq_some.mp found
  obtain ⟨task, active, rfl⟩ := Option.map_eq_some_iff.mp given
  refine ⟨task, active, ?_⟩
  refine Post.outcome (P := fun d : Connection =>
    d.deliveries = c.deliveries.run task c.aSduListener (!poolRuns settings c) ∧ d.events = _) ?_
  rw [post_runTask]
  refine ⟨?_, rfl⟩
  cases registered : c.aSduListener <;>
    simp [deliveries, Deliveries.run, Event.taken, Event.hasRun, List.filterMap_cons]

/-- What a step does to the deliveries. -/
inductive Delivers (settings : ConnectionSettings) (c : Connection) (action : Action) (d : Connection) : Prop
  | accepted (aSdu : Option ASdu) (informs : action.informs = some aSdu)
      (accepted : d.deliveries = c.deliveries.accept aSdu c.aSduListener)
  | refused (aSdu : Option ASdu) (informs : action.informs = some aSdu) (same : d.deliveries = c.deliveries)
      (leaving : d.reader = .leaving)
  | ran (task : Task) (runs : action = .runTask) (active : c.serialExecutor.active = some task)
      (ran : d.deliveries = c.deliveries.run task c.aSduListener (!poolRuns settings c))
  | other (uninformed : action.informs = none) (idle : action.runsTask = false) (same : d.deliveries = c.deliveries)

theorem delivers {action : Action} (taken : Step settings server c action d) : Delivers settings c action d := by
  cases informs : action.informs with
  | some aSdu =>
    cases action with
    | receive aPdu =>
      rcases deliveries_receive informs taken with accepted | ⟨same, leaving⟩
      · exact .accepted aSdu informs accepted
      · exact .refused aSdu informs same leaving
    | _ => cases informs
  | none =>
    cases runs : action.runsTask with
    | true =>
      cases action with
      | runTask =>
        obtain ⟨task, active, ran, -⟩ := deliveries_runTask taken
        exact .ran task rfl active ran
      | _ => cases runs
    | false =>
      have before : Untouched c.deliveries c := rfl
      exact .other informs runs (Untouched.preserves.step before ⟨informs, runs⟩ taken)

theorem gone_uninformed {action : Action} (gone : c.reader ≠ .running) (taken : Step settings server c action d) :
    action.informs = none := by
  cases action with
  | receive aPdu => exact absurd rfl ((gone_step gone taken).2 aPdu)
  | _ => rfl

/-- A task runs as it was meant to when it was handed over, as far as the view tells. -/
def RunsAsPromised {γ : Type} (view : Option ASdu × Option Listener → γ) (c : Connection) : Action → Prop
  | .runTask => ∀ task, c.serialExecutor.active = some task →
      view (task.aSdu, c.aSduListener) = view task.promise
  | _ => True

theorem inOrder_step {γ : Type} {view : Option ASdu × Option Listener → γ} {action : Action}
    (ordered : c.deliveries.InOrder view) (promised : RunsAsPromised view c action)
    (taken : Step settings server c action d) : d.deliveries.InOrder view := by
  cases delivers taken with
  | accepted aSdu informs accepted => exact accepted ▸ ordered.accept aSdu c.aSduListener
  | refused aSdu informs same leaving => exact same ▸ ordered
  | ran task runs active ran =>
    subst runs
    exact ran ▸ ordered.run active (promised task active)
  | other uninformed idle same => exact same ▸ ordered

theorem inOrder_started {γ : Type} {view : Option ASdu × Option Listener → γ} (ioFails : Nat → Bool) (now : Nat) :
    (started settings ioFails now).deliveries.InOrder view :=
  ⟨fun _ => rfl, rfl⟩

/-- Whatever happens to the listeners, every ASDU handed over runs exactly once, in the
order of arrival. -/
theorem run_once_in_order {actions : List Action} {ioFails : Nat → Bool} {now : Nat}
    (run : Run (Step settings server) (started settings ioFails now) actions c) :
    (c.events.filterMap Event.hasRun).map Prod.fst ++ c.serialExecutor.queue.map Task.aSdu =
      (c.events.filterMap Event.handedOver).map Prod.fst := by
  have ordered : c.deliveries.InOrder Prod.fst :=
    run.invariant (I := fun c => c.deliveries.InOrder Prod.fst) (inOrder_started ioFails now)
      fun _ action _ ordered taken =>
        inOrder_step ordered (by cases action <;> simp [RunsAsPromised, Task.promise]) taken
  have promised : Prod.fst ∘ Task.promise = Task.aSdu := rfl
  obtain ⟨-, inOrder⟩ := ordered
  rw [deliveries_handedOver] at inOrder
  simpa [promised, deliveries] using inOrder

/-- What a run has taken in: the contents of the I frames that came, but for one whose handling ended the
reader. -/
def TakesIn (settings : ConnectionSettings) (server : Bool) (c : Connection) (actions : List Action)
    (d : Connection) (aSdus : List (Option ASdu)) : Prop :=
  aSdus = actions.filterMap Action.informs ∨
    d.reader ≠ .running ∧ ∃ earlier aPdu later b e, actions = earlier ++ .receive aPdu :: later ∧
      Run (Step settings server) c earlier b ∧ Step settings server b (.receive aPdu) e ∧ e.reader = .leaving ∧
      aSdus = earlier.filterMap Action.informs ∧ later.filterMap Action.informs = []

private theorem TakesIn.next {actions : List Action} {action : Action} {e : Connection} {aSdus : List (Option ASdu)}
    (takes : TakesIn settings server c actions d aSdus) (uninformed : action.informs = none)
    (last : Step settings server d action e) : TakesIn settings server c (actions ++ [action]) e aSdus := by
  -- A step that no I frame comes with takes in nothing.
  have nothing : [action].filterMap Action.informs = [] := by simp [uninformed]
  rcases takes with takes | ⟨gone, earlier, aPdu, later, b, left, rfl, run, receives, leaving, takes, none⟩
  · left
    rw [List.filterMap_append, nothing, List.append_nil, takes]
  · refine .inr ⟨(gone_step gone last).1, earlier, aPdu, later ++ [action], b, left, by simp, run, receives,
      leaving, takes, ?_⟩
    rw [List.filterMap_append, nothing, none, List.append_nil]

private theorem TakesIn.all {actions : List Action} {aSdus : List (Option ASdu)}
    (takes : TakesIn settings server c actions d aSdus) (running : d.reader = .running) :
    aSdus = actions.filterMap Action.informs :=
  takes.resolve_right fun gone => gone.1 running

/-- A run runs as many tasks as it says, and accepts the I frames it is given. -/
theorem deliveries_of_run {actions : List Action} (run : Run (Step settings server) c actions d) :
    ∃ ran took, d.deliveries.hasRun = c.deliveries.hasRun ++ ran ∧
      ran.length = actions.countP Action.runsTask ∧ d.deliveries.taken = c.deliveries.taken ++ took ∧
      TakesIn settings server c actions d (took.map Prod.fst) := by
  induction run with
  | start => exact ⟨[], [], by simp, rfl, by simp, .inl rfl⟩
  | @next actions d e action before last ih =>
    obtain ⟨ran, took, hasRun, count, taken, takes⟩ := ih
    have receives {aSdu : Option ASdu} (informs : action.informs = some aSdu) :
        action.runsTask = false ∧ (∃ aPdu, action = .receive aPdu) ∧ d.reader = .running := by
      refine ⟨?_, ?_, by_contra fun gone => ?_⟩
      · cases action <;> first | rfl | cases informs
      · cases action <;> first | exact ⟨_, rfl⟩ | cases informs
      · rw [gone_uninformed gone last] at informs
        cases informs
    rw [List.countP_append, List.countP_singleton]
    cases delivers last with
    | accepted aSdu informs accepted =>
      obtain ⟨idle, -, running⟩ := receives informs
      refine ⟨ran, took ++ [(aSdu, d.aSduListener)], by simp [accepted, hasRun], by simp [idle, count],
        by simp [accepted, taken], .inl ?_⟩
      simp [takes.all running, informs]
    | refused aSdu informs same leaving =>
      obtain ⟨idle, ⟨aPdu, rfl⟩, running⟩ := receives informs
      refine ⟨ran, took, by simp [same, hasRun], by simp [idle, count], by simp [same, taken], .inr ?_⟩
      exact ⟨by simp [leaving], actions, aPdu, [], d, e, rfl, before, last, leaving, takes.all running, rfl⟩
    | ran task runs active more =>
      subst runs
      exact ⟨ran ++ [(task.aSdu, d.aSduListener)], took, by simp [more, hasRun], by simp [count, Action.runsTask],
        by simp [more, taken], takes.next rfl last⟩
    | other uninformed still same =>
      exact ⟨ran, took, by simp [same, hasRun], by simp [still, count], by simp [same, taken],
        takes.next uninformed last⟩

/-- The listener that was registered when an ASDU was handed over is registered when its task runs, and no
task runs with others behind it in a pool that is shut down. -/
def ReachesListener (settings : ConnectionSettings) (c : Connection) : Action → Prop
  | .runTask =>
    (∀ task, c.serialExecutor.active = some task → c.aSduListener = some task.listener) ∧
    (poolRuns settings c = true ∨ c.serialExecutor.tasks = [])
  | _ => True

/-- A connection whose ASDUs are all handed over to the listener they came for. -/
structure Delivering (c : Connection) : Prop where
  ordered : c.deliveries.InOrder id
  rejected : c.taskRejected = true → c.serialExecutor.queue = [] ∧ c.reader ≠ .running

namespace Delivering

theorem step {action : Action} (delivering : Delivering c) (reaches : ReachesListener settings c action)
    (taken : Step settings server c action d) : Delivering d := by
  obtain ⟨ordered, rejected⟩ := delivering
  refine ⟨inOrder_step ordered ?_ taken, fun rejects => ?_⟩
  · cases action with
    | runTask =>
      intro task active
      rw [reaches.1 task active]
      rfl
    | _ => trivial
  have before (same : d.deliveries = c.deliveries) : d.serialExecutor.queue = [] ∧ d.reader ≠ .running := by
    simp only [deliveries, Deliveries.mk.injEq] at same
    obtain ⟨executor, rejection, -, -⟩ := same
    obtain ⟨empty, gone⟩ := rejected (rejection ▸ rejects)
    exact ⟨executor ▸ empty, (gone_step gone taken).1⟩
  cases delivers taken with
  | accepted aSdu informs accepted =>
    have rejection : d.taskRejected = c.taskRejected := congrArg Deliveries.rejected accepted
    rw [gone_uninformed (rejected (rejection ▸ rejects)).2 taken] at informs
    cases informs
  | refused aSdu informs same leaving => exact before same
  | ran task runs active ran =>
    subst runs
    have rejection : d.taskRejected = !poolRuns settings c := congrArg Deliveries.rejected ran
    have shutDown : poolRuns settings c = false := by simpa [rejection] using rejects
    have ended : c.reader = .ended := by simp_all [poolRuns]
    have executor : d.serialExecutor = c.serialExecutor.scheduleNext := congrArg Deliveries.executor ran
    have none : c.serialExecutor.tasks = [] := reaches.2.resolve_left (by simp [shutDown])
    exact ⟨by simp [executor, SerialExecutor.scheduleNext, SerialExecutor.queue, none],
      (gone_step (by simp [ended]) taken).1⟩
  | other uninformed idle same => exact before same

theorem of_run {actions : List Action} {ioFails : Nat → Bool} {now : Nat}
    (run : Run (Run.Guarded (ReachesListener settings) (Step settings server)) (started settings ioFails now)
      actions c) : Delivering c :=
  run.invariant ⟨inOrder_started ioFails now, fun rejected => by cases rejected⟩
    fun _ _ _ delivering taken => delivering.step taken.1 taken.2

theorem inOrder (delivering : Delivering c) :
    c.events.filterMap Event.hasRun ++ c.serialExecutor.queue.map Task.promise =
      c.events.filterMap Event.handedOver := by
  obtain ⟨⟨-, inOrder⟩, -⟩ := delivering
  rwa [List.map_id, List.map_id, deliveries_handedOver] at inOrder

theorem exists_runTask (delivering : Delivering c) (waits : c.serialExecutor.queue ≠ []) :
    ∃ d, Step settings server c .runTask d := by
  obtain ⟨task, active⟩ := delivering.ordered.scheduled.exists_active waits
  have active : c.serialExecutor.active = some task := active
  have accepted : c.taskRejected = false :=
    Bool.eq_false_iff.mpr fun rejected => waits (delivering.rejected rejected).1
  exact ⟨_, by rw [Step, Connection.step, body, accepted, active]; rfl⟩

/-- What is handed over is handed over to a listener. -/
theorem not_died (delivering : Delivering c) (aSdu : Option ASdu) : Event.taskDied aSdu ∉ c.events := by
  intro died
  have ran : (aSdu, none) ∈ c.events.filterMap Event.handedOver := by
    rw [← delivering.inOrder]
    exact List.mem_append_left _ (List.mem_filterMap.mpr ⟨_, died, rfl⟩)
  obtain ⟨event, -, handedOver⟩ := List.mem_filterMap.mp ran
  cases event <;> simp [Event.handedOver] at handedOver

/-- When as many tasks have run as were waiting, what waited has been passed on. -/
theorem passed_on {more : List Action} (delivering : Delivering c) (later : Delivering d)
    (run : Run (Step settings server) c more d)
    (enough : c.serialExecutor.queue.length ≤ more.countP Action.runsTask) :
    c.events.filterMap Event.hasRun ++ c.serialExecutor.queue.map Task.promise <+:
      d.events.filterMap Event.hasRun := by
  obtain ⟨ran, took, hasRun, count, taken, -⟩ := deliveries_of_run run
  have grows : c.events.filterMap Event.handedOver <+: d.events.filterMap Event.handedOver := by
    rw [← deliveries_handedOver, ← deliveries_handedOver, Deliveries.handedOver, Deliveries.handedOver, taken,
      List.filter_append]
    exact List.prefix_append _ _
  rw [← delivering.inOrder] at grows
  have ahead : d.events.filterMap Event.hasRun <+: d.events.filterMap Event.handedOver :=
    later.inOrder ▸ List.prefix_append _ _
  refine List.prefix_of_prefix_length_le grows ahead ?_
  have hasRun : d.events.filterMap Event.hasRun = c.events.filterMap Event.hasRun ++ ran := hasRun
  rw [hasRun, List.length_append, List.length_append, List.length_map, count]
  omega

end Delivering

/-- The I frames of a connection are handed to the executor for the listener registered then. In a run in
which every task finds the listener its ASDU was handed over for, each ASDU is passed to that listener
exactly once and in the order of arrival: no task dies, the pool can run a task as long as one waits, every
task that runs passes its ASDU on and leaves the others, and what waits has been passed on when as many tasks
have run. -/
theorem delivered_in_order {actions : List Action} {ioFails : Nat → Bool} {now : Nat}
    (run : Run (Run.Guarded (ReachesListener settings) (Step settings server))
      (started settings ioFails now) actions c) :
    (∀ aPdu d listener, aPdu.apciType = .I_FORMAT → c.aSduListener = some listener →
      Step settings server c (.receive aPdu) d → d.reader = .running →
      d.serialExecutor.queue = c.serialExecutor.queue ++ [⟨aPdu.aSdu, listener⟩]) ∧
    c.events.filterMap Event.hasRun ++ c.serialExecutor.queue.map Task.promise =
      c.events.filterMap Event.handedOver ∧
    (∀ aSdu, Event.taskDied aSdu ∉ c.events) ∧
    (c.serialExecutor.queue ≠ [] → poolRuns settings c = true → ∃ d, Step settings server c .runTask d) ∧
    (∀ d, Run.Guarded (ReachesListener settings) (Step settings server) c .runTask d →
      ∃ task, c.serialExecutor.queue = task :: d.serialExecutor.queue ∧
        d.events = c.events ++ [.newASdu task.listener task.aSdu]) ∧
    ∀ more d, Run (Run.Guarded (ReachesListener settings) (Step settings server)) c more d →
      c.serialExecutor.queue.length ≤ more.countP Action.runsTask →
      c.events.filterMap Event.hasRun ++ c.serialExecutor.queue.map Task.promise <+:
        d.events.filterMap Event.hasRun := by
  have delivering : Delivering c := .of_run run
  refine ⟨?_, delivering.inOrder, delivering.not_died, fun waits _ => delivering.exists_runTask waits, ?_, ?_⟩
  · intro aPdu d listener format registered taken running
    have informs : aPdu.informed = some aPdu.aSdu := if_pos format
    rcases deliveries_receive informs taken with accepted | ⟨-, leaving⟩
    · have executor : d.serialExecutor = c.serialExecutor.execute ⟨aPdu.aSdu, listener⟩ := by
        rw [registered] at accepted
        exact congrArg Deliveries.executor accepted
      rw [executor, SerialExecutor.execute_queue]
    · rw [running] at leaving
      cases leaving
  · rintro d ⟨reaches, taken⟩
    obtain ⟨task, active, ran, events⟩ := deliveries_runTask taken
    have executor : d.serialExecutor = c.serialExecutor.scheduleNext := congrArg Deliveries.executor ran
    refine ⟨task, ?_, ?_⟩
    · rw [executor]
      exact SerialExecutor.scheduleNext_queue active
    · rwa [reaches.1 task active] at events
  · exact fun more d further enough => delivering.passed_on (.of_run (run.append further)) further.unguarded enough

def sampleDelivery : List Action :=
  [.setConnectionListener (some 7), .receive (sampleUnnumbered .STARTDT_ACT), .receive (sampleIFormat 0 0),
    .receive (sampleIFormat 1 0), .runTask]

theorem delivered_in_order_sample :
    ∃ c, Run (Run.Guarded (ReachesListener {}) (Step {} true)) (started {} (fun _ => false) 0)
        sampleDelivery c ∧
      c.serialExecutor.queue = [⟨sampleCommand, 7⟩] ∧
      c.events.filterMap Event.hasRun ++ c.serialExecutor.queue.map Task.promise =
        c.events.filterMap Event.handedOver := by
  have meets : RunMeets {} true (ReachesListener {}) (started {} (fun _ => false) 0) sampleDelivery := by
    refine .intro trivial <| .intro trivial <| .intro trivial <| .intro trivial <| .intro ⟨?_, .inl rfl⟩ trivial
    rintro _ ⟨⟩
    rfl
  have run : Run (Run.Guarded (ReachesListener {}) (Step {} true)) (started {} (fun _ => false) 0)
      sampleDelivery (sampleState true sampleDelivery) := guarded_of_runActions rfl meets
  exact ⟨_, run, rfl, (delivered_in_order run).2.1⟩

/-- A stop between the arrival of an ASDU and its task takes the listener away. -/
theorem not_delivered :
    ∃ c, Run (Step {} true) (started {} (fun _ => false) 0)
        [.setConnectionListener (some 7), .receive (sampleUnnumbered .STARTDT_ACT),
          .receive (sampleIFormat 0 0), .receive (sampleUnnumbered .STOPDT_ACT), .runTask] c ∧
      c.events.filterMap Event.handedOver = [(some sampleCommand, some 7)] ∧
      c.events.filterMap Event.hasRun = [(some sampleCommand, none)] ∧
      c.serialExecutor.queue = [] ∧ c.acknowledgedReceiveSequenceNumber = 1 :=
  ⟨_, run_of_runActions rfl, rfl, rfl, rfl, rfl⟩

end Connection

end J60870
