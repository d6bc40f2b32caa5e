import J60870.Connection.Watching

/-! A connection and the thread of its timer manager. The thread takes a timer that is due, looks whether it is
cancelled, runs it and marks it as done. Only the run itself holds the lock of the connection: in between, the
reader and the application go on. -/

namespace J60870

open Lib Method

namespace Connection

/-- Where the thread of the manager is. -/
inductive ManagerPoint
  | waiting
  /-- a timer that is due is off the queue -/
  | taken (id : TimerId)
  /-- it was not cancelled -/
  | tested (id : TimerId)
  /-- it has run, and is not marked as done yet -/
  | executed (id : TimerId)

structure Managed where
  connection : Connection
  manager : ManagerPoint := .waiting

namespace Managed

inductive Action
  /-- what happens besides -/
  | own (action : Connection.Action)
  | take (id : TimerId)
  | test
  | execute
  | finish

def firesNone : Connection.Action → Bool
  | .fire _ => false
  | _ => true

section System

variable (settings : ConnectionSettings) (server : Bool)

/-- `execute` of a timer, unless the pool of the thread is shut down: it is interrupted then. -/
def runs (id : TimerId) (c : Connection) : Connection :=
  if managerRuns settings c then (execute settings id).outcome c else c

def step (m : Managed) : Action → Option Managed
  | .own action =>
    if firesNone action then
      (Connection.step settings server m.connection action).map fun d => { m with connection := d }
    else none
  | .take id =>
    match m.manager with
    | .waiting =>
      if id ∈ m.connection.timeoutManager.queue ∧
          (m.connection.timer id).dueTime ≤ m.connection.currentTimeMillis ∧ managerRuns settings m.connection then
        some ⟨m.connection.dequeued id, .taken id⟩
      else none
    | _ => none
  | .test =>
    match m.manager with
    | .taken id =>
      some { m with manager := if (m.connection.timer id).canceled then .waiting else .tested id }
    | _ => none
  | .execute =>
    match m.manager with
    | .tested id => some ⟨runs settings id m.connection, .executed id⟩
    | _ => none
  | .finish =>
    match m.manager with
    | .executed id => some ⟨m.connection.finishes id, .waiting⟩
    | _ => none

def Step (m : Managed) (action : Action) (n : Managed) : Prop := step settings server m action = some n

def started (ioFails : Nat → Bool) (now : Nat) : Managed := ⟨.started settings ioFails now, .waiting⟩

/-- What the steps do. -/
inductive Moves (m : Managed) : Action → Managed → Prop
  | own {action : Connection.Action} {d : Connection} (fires : firesNone action = true)
      (taken : Connection.Step settings server m.connection action d) : Moves m (.own action) ⟨d, m.manager⟩
  | take {id : TimerId} (waits : m.manager = .waiting) (queued : id ∈ m.connection.timeoutManager.queue)
      (due : (m.connection.timer id).dueTime ≤ m.connection.currentTimeMillis) :
      Moves m (.take id) ⟨m.connection.dequeued id, .taken id⟩
  | passes {id : TimerId} (taken : m.manager = .taken id) (live : (m.connection.timer id).canceled = false) :
      Moves m .test ⟨m.connection, .tested id⟩
  | drops {id : TimerId} (taken : m.manager = .taken id) (gone : (m.connection.timer id).canceled = true) :
      Moves m .test ⟨m.connection, .waiting⟩
  | execute {id : TimerId} (tested : m.manager = .tested id) :
      Moves m .execute ⟨runs settings id m.connection, .executed id⟩
  | finish {id : TimerId} (executed : m.manager = .executed id) :
      Moves m .finish ⟨m.connection.finishes id, .waiting⟩

end System

variable {settings : ConnectionSettings} {server : Bool} {m n : Managed} {action : Action} {c d : Connection}

theorem moves_of_step (taken : Step settings server m action n) : Moves settings server m action n := by
  cases action with
  | own action =>
    obtain ⟨fires, moved⟩ := Option.ite_none_right_eq_some.mp taken
    obtain ⟨d, step, rfl⟩ := Option.map_eq_some_iff.mp moved
    exact .own fires step
  | take id =>
    cases point : m.manager <;> simp only [Step, step, point, reduceCtorEq] at taken
    obtain ⟨⟨queued, due, -⟩, ⟨⟩⟩ := Option.ite_none_right_eq_some.mp taken
    exact .take point queued due
  | test =>
    cases point : m.manager <;> simp only [Step, step, point, reduceCtorEq] at taken
    cases Option.some.inj taken
    cases live : (m.connection.timer _).canceled
    · exact .passes point live
    · exact .drops point live
  | execute =>
    cases point : m.manager <;> simp only [Step, step, point, reduceCtorEq] at taken
    cases Option.some.inj taken
    exact .execute point
  | finish =>
    cases point : m.manager <;> simp only [Step, step, point, reduceCtorEq] at taken
    cases Option.some.inj taken
    exact .finish point

private theorem run_of_fire {id : TimerId} (taken : Connection.Step settings server c (.fire id) d) :
    ∃ actions, Run (Step settings server) ⟨c, .waiting⟩ actions ⟨d, .waiting⟩ := by
  -- What a timer did as one step, its manager does in a row.
  obtain ⟨_, found, rfl⟩ := step_eq_some taken
  obtain ⟨ready, ⟨⟩⟩ := Option.ite_none_right_eq_some.mp found
  have take : Step settings server ⟨c, .waiting⟩ (.take id) ⟨c.dequeued id, .taken id⟩ := if_pos ready
  have run : Run (Step settings server) ⟨c, .waiting⟩ [.take id] ⟨c.dequeued id, .taken id⟩ := .single take
  refine Post.outcome (P := fun d => ∃ actions, Run (Step settings server) ⟨c, .waiting⟩ actions ⟨d, .waiting⟩) ?_
  rw [post_fire, post_executeManually]
  refine ⟨fun gone => ⟨_, run.next (a := .test) (by simp [Step, step, gone])⟩, fun live => ?_⟩
  have tested := run.next (show Step settings server _ .test ⟨c.dequeued id, .tested id⟩ by simp [Step, step, live])
  have runs : runs settings id (c.dequeued id) = (execute settings id).outcome (c.dequeued id) :=
    if_pos ready.2.2
  have executed := tested.next (show Step settings server _ .execute ⟨_, .executed id⟩ from rfl)
  have done : ∃ actions, Run (Step settings server) ⟨c, .waiting⟩ actions
      ⟨((execute settings id).outcome (c.dequeued id)).finishes id, .waiting⟩ :=
    ⟨_, runs ▸ executed.next (show Step settings server _ .finish ⟨_, .waiting⟩ from rfl)⟩
  exact (post_outcome _ _).mono (fun _ _ left => left ▸ done) fun _ _ left => left ▸ done

/-- Every run of the connection is one of the connection and its manager. -/
theorem run_of_connection {actions : List Connection.Action}
    (run : Run (Connection.Step settings server) c actions d) :
    ∃ actions, Run (Step settings server) ⟨c, .waiting⟩ actions ⟨d, .waiting⟩ := by
  have matched : ∀ (c : Connection) (action : Connection.Action) (d : Connection) (m : Managed), m = ⟨c, .waiting⟩ →
      Connection.Step settings server c action d →
      ∃ actions n, Run (Step settings server) m actions n ∧ n = ⟨d, .waiting⟩ := by
    rintro c action d _ rfl taken
    by_cases fires : firesNone action = true
    · refine ⟨[.own action], _, .single ?_, rfl⟩
      rw [Step, step, if_pos fires, taken]
      rfl
    · cases action with
      | fire id =>
        obtain ⟨actions, run⟩ := run_of_fire taken
        exact ⟨actions, _, run, rfl⟩
      | _ => exact absurd rfl fires
  obtain ⟨actions, _, managed, rfl⟩ := run.simulates matched rfl
  exact ⟨actions, managed⟩

/-- The counters are in range, and nothing reopens what has ended or what a timer has closed. -/
structure Sound (settings : ConnectionSettings) (m : Managed) : Prop where
  bounded : Bounded settings m.connection
  ended : EndedClosed m.connection
  executed : ∀ id, m.manager = .executed id → TimerId.Closes id → m.connection.closed = true

/-- An interrupted thread belongs to a connection that is closed. -/
theorem Sound.managerRuns (sound : Sound settings m) (isOpen : m.connection.closed = false) :
    managerRuns settings m.connection = true := by
  by_contra stopped
  simp only [Connection.managerRuns, poolRuns, Bool.or_eq_true, bne_iff_ne, not_or, not_not] at stopped
  exact absurd ((sound.ended stopped.1).symm.trans isOpen) Bool.false_ne_true.symm

theorem Sound.runs_closed {id : TimerId} (sound : Sound settings m) (closes : TimerId.Closes id) :
    (runs settings id m.connection).closed = true := by
  rw [runs]
  split
  · exact Post.outcome (P := fun d : Connection => d.closed = true)
      ((execute_closes closes).mono (fun _ _ closed => congrArg Prod.snd closed) fun _ _ thrown => thrown)
  · rename_i stopped
    exact Bool.not_eq_false _ |>.mp fun isOpen => stopped (sound.managerRuns isOpen)

theorem always_runs {I : Connection → Prop} {id : TimerId} (holds : I c)
    (always : Always I c (execute settings id)) :
    I (runs settings id c) := by
  rw [runs]
  split
  · exact Post.outcome always
  · exact holds

theorem Sound.step (sound : Sound settings m) (taken : Step settings server m action n) : Sound settings n := by
  obtain ⟨bounded, ended, executed⟩ := sound
  cases moves_of_step taken with
  | own _ step =>
    exact ⟨Bounded.preserves.step bounded trivial step, ended.step step,
      fun id point closes => Connection.closed_stays bounded step (executed id point closes)⟩
  | take | passes | drops => exact ⟨bounded.congr rfl, ended, fun _ point => by cases point⟩
  | @execute id =>
    refine ⟨always_runs bounded (bounded.always_execute id), always_runs ended ?_, ?_⟩
    · by_cases closes : TimerId.Closes id
      · exact (execute_closes closes).mono (fun _ d closed _ => congrArg Prod.snd closed) fun _ _ thrown => thrown
      · refine (execute_keeps_phase closes).post fun d same => ?_
        obtain ⟨reader, closed⟩ := Prod.mk.inj same
        rw [EndedClosed, reader, closed]
        exact ended
    · rintro _ ⟨⟩ closes
      exact Sound.runs_closed ⟨bounded, ended, executed⟩ closes
  | finish => exact ⟨bounded.congr rfl, ended, fun _ point => by cases point⟩

theorem Sound.started (ioFails : Nat → Bool) (now : Nat) : Sound settings (started settings ioFails now) :=
  ⟨.started ioFails now, fun ended => (by cases ended), fun _ point => by cases point⟩

theorem Sound.of_run {actions : List Action} {ioFails : Nat → Bool} {now : Nat}
    (run : Run (Step settings server) (Managed.started settings ioFails now) actions m) : Sound settings m :=
  run.invariant (.started ioFails now) fun _ _ _ sound taken => sound.step taken

/-- Nothing opens a closed connection again. -/
theorem closed_stays (taken : Step settings server m action n) (closed : m.connection.closed = true) :
    n.connection.closed = true := by
  cases moves_of_step taken with
  | own _ step =>
    cases phaseStep_of_step step with
    | stays same | fails _ _ same => exact (congrArg Prod.snd same).trans closed
    | closes same | ends _ same | expires _ _ _ _ same => exact congrArg Prod.snd same
  | take | passes | drops | finish => exact closed
  | @execute id =>
    refine always_runs (I := fun d : Connection => d.closed = true) closed ?_
    by_cases closes : TimerId.Closes id
    · exact (execute_closes closes).mono (fun _ _ same => congrArg Prod.snd same) fun _ _ thrown => thrown
    · exact (execute_keeps_phase closes).post fun _ same => (congrArg Prod.snd same).trans closed

/-- An invariant of the timers is one of the connection and its manager. -/
theorem timerInvariant_step {testing confirming : Prop} {I : Connection → Prop}
    (invariant : TimerInvariant settings testing confirming I) (sound : Sound settings m) (holds : I m.connection)
    (tests : action = .execute → m.manager = .tested .maxIdleTimeTimer → testing)
    (confirms : ∀ aPdu, action = .own (.receive aPdu) → aPdu.apciType = .TESTFR_CON → confirming)
    (taken : Step settings server m action n) : I n.connection := by
  cases moves_of_step taken with
  | own fires step =>
    refine invariant.preserves.step holds ⟨⟨?_, ?_⟩, sound.bounded⟩ step
    · rintro rfl
      cases fires
    · rintro aPdu rfl
      exact confirms aPdu rfl
  | take => exact invariant.dequeue _ _ holds
  | passes | drops => exact holds
  | @execute id tested =>
    exact always_runs holds (invariant.always_execute holds id fun idle => tests rfl (idle ▸ tested))
  | @finish id point => exact invariant.finish _ id holds (sound.executed id point)

section Tests

/-- A test is not confirmed before the idle timer that has begun it is marked as done. -/
def Unhurried (m : Managed) (action : Action) : Prop :=
  ∀ aPdu, action = .own (.receive aPdu) → aPdu.apciType = .TESTFR_CON →
    m.manager ≠ .executed .maxIdleTimeTimer

private theorem testGoesOn : TimerInvariant settings True False
    (fun c => Timely settings c ∧ (c.closed = false → TestPlanned c)) where
  congr c d holds same := by
    have timely := Timely.invariant.congr c d holds.1 same
    obtain ⟨timers, -, -, closed⟩ : _ ∧ _ ∧ _ ∧ _ := by simpa only [timerSide, Prod.mk.injEq] using same
    refine ⟨timely, ?_⟩
    rw [closed, TestPlanned, timer, timers]
    exact holds.2
  tick c milliseconds holds := ⟨Timely.invariant.tick c milliseconds holds.1, holds.2⟩
  plan c id holds _ _ := by
    refine ⟨holds.1.addTimerTask id, fun isOpen => ?_⟩
    by_cases same : TimerId.maxTimeNoTestConReceived = id
    · subst same
      have value := (holds.1 .maxTimeNoTestConReceived _ rfl).1
      have range := settings.t1_range
      rw [TestPlanned, plans_timer_self]
      exact TimeoutTask.updateDueTime_isPlanned _ _ (by omega)
    · rw [TestPlanned, plans_timer_other same]
      exact holds.2 isOpen
  cancel c id holds other := by
    refine ⟨holds.1.cancel id, fun isOpen => ?_⟩
    rw [TestPlanned, cancels_timer_other fun same => other same.symm]
    exact holds.2 isOpen
  finish c id holds closes := by
    refine ⟨holds.1.done id, fun isOpen => ?_⟩
    by_cases same : TimerId.maxTimeNoTestConReceived = id
    · exact absurd ((closes (.inl same.symm)).symm.trans isOpen) Bool.false_ne_true.symm
    · rw [TestPlanned, finishes_timer_other same]
      exact holds.2 isOpen
  create c object timeout holds := by
    refine ⟨Timely.invariant.create c object timeout holds.1, fun isOpen => ?_⟩
    rw [TestPlanned, creates_timer_other (by simp)]
    exact holds.2 isOpen
  dequeue _ _ holds := ⟨holds.1.congr rfl, holds.2⟩
  number _ holds _ _ := ⟨holds.1.congr rfl, holds.2⟩
  arm c holds _ := by
    refine ⟨holds.1.addTimerTask .maxTimeNoAckReceived, fun isOpen => ?_⟩
    rw [TestPlanned, plans_timer_other (by simp)]
    exact holds.2 isOpen
  acknowledge c receiveSeqNumber holds counting number_lt inside := by
    refine ⟨Timely.invariant.acknowledge c receiveSeqNumber holds.1 counting number_lt inside, fun isOpen => ?_⟩
    rw [TestPlanned, acknowledged_timer_other _ _ (by simp)]
    exact holds.2 isOpen
  close _ holds _ := ⟨holds.1.congr rfl, fun isOpen => by cases isOpen⟩

/-- One of the two timers is planned, and the test timer where the idle timer is about to be done. -/
structure Overseen (settings : ConnectionSettings) (m : Managed) : Prop where
  watched : Watched settings m.connection
  testing : m.manager = .executed .maxIdleTimeTimer → m.connection.closed = false → TestPlanned m.connection

private theorem Overseen.step (overseen : Overseen settings m) (sound : Sound settings m)
    (meets : Unhurried m action) (taken : Step settings server m action n) : Overseen settings n := by
  obtain ⟨watched, testing⟩ := overseen
  cases moves_of_step taken with
  | own fires step =>
    refine ⟨Watched.preserves.step watched ⟨trivial, sound.bounded⟩ step, fun point isOpen => ?_⟩
    have goesOn := timerInvariant_step testGoesOn sound ⟨watched.timely, testing point⟩ (fun _ _ => trivial)
      (fun aPdu receives confirms => meets aPdu receives confirms point) taken
    exact goesOn.2 isOpen
  | take => exact ⟨watched.congr rfl, fun point => by cases point⟩
  | passes | drops => exact ⟨watched, fun point => by cases point⟩
  | @execute id =>
    refine ⟨always_runs watched (watched.always_execute id), ?_⟩
    rintro ⟨⟩ isOpen
    have wasOpen : m.connection.closed = false :=
      Bool.eq_false_iff.mpr fun closed => Bool.eq_false_iff.mp isOpen (closed_stays taken closed)
    change TestPlanned (runs settings .maxIdleTimeTimer m.connection)
    rw [runs, if_pos (sound.managerRuns wasOpen)]
    exact Post.outcome (Watched.testPlanned_of_execute watched.timely)
  | @finish id point =>
    refine ⟨watched.finishes (sound.executed id point) fun idle isOpen _ => testing (idle ▸ point) isOpen, ?_⟩
    exact fun point => by cases point

private theorem untested {aPdu : ReceivedAPdu} {o : Managed} (confirms : aPdu.apciType = .TESTFR_CON)
    (point : m.manager = .executed .maxIdleTimeTimer) (isOpen : m.connection.closed = false)
    (receives : Step settings server m (.own (.receive aPdu)) n) (finishes : Step settings server n .finish o) :
    o.connection.IsOpen ∧ ¬ Tested o.connection := by
  -- A test that is confirmed too early: neither of the two timers is planned behind it.
  cases moves_of_step receives with | @own _ d _ step
  cases moves_of_step finishes with | finish executed
  obtain rfl := ManagerPoint.executed.inj (executed.symm.trans point)
  obtain ⟨_, found, rfl⟩ := step_eq_some step
  obtain ⟨running, ⟨⟩⟩ := Option.ite_none_right_eq_some.mp found
  refine Post.outcome (P := fun d : Connection => (d.finishes .maxIdleTimeTimer).IsOpen ∧
    ¬ Tested (d.finishes .maxIdleTimeTimer)) ?_
  rw [post_readerTurn, dispatch, confirms]
  refine ⟨⟨isOpen, running⟩, ?_⟩
  simp [Tested, TestPlanned, Connection.finishes, timer, TimeoutTask.isPlanned, TimeoutTask.cancel]

/-- In every reachable state of an open connection the idle timer or the test timer is planned and is due within
its timeout, if no test is confirmed between the run of the idle timer and its end. Where one is, neither is
planned then. -/
theorem idle_supervised {actions : List Action} {ioFails : Nat → Bool} {now : Nat}
    (run : Run (Run.Guarded Unhurried (Step settings server)) (started settings ioFails now) actions m)
    (isOpen : m.connection.IsOpen) :
    ((m.connection.timer .maxIdleTimeTimer).isPlanned = true ∧
        (m.connection.timer .maxIdleTimeTimer).dueTime ≤ m.connection.currentTimeMillis + settings.maxIdleTime ∨
      (m.connection.timer .maxTimeNoTestConReceived).isPlanned = true ∧
        (m.connection.timer .maxTimeNoTestConReceived).dueTime ≤
          m.connection.currentTimeMillis + settings.maxTimeNoAckReceived) ∧
    ∀ action n o, ¬ Unhurried m action → Step settings server m action n → Step settings server n .finish o →
      o.connection.IsOpen ∧ (o.connection.timer .maxIdleTimeTimer).isPlanned = false ∧
        (o.connection.timer .maxTimeNoTestConReceived).isPlanned = false := by
  have start : Overseen settings (started settings ioFails now) :=
    ⟨.started ioFails now, fun point => by cases point⟩
  have overseen : Sound settings m ∧ Overseen settings m :=
    run.invariant (I := fun m => Sound settings m ∧ Overseen settings m) ⟨.started ioFails now, start⟩
      fun _ _ _ holds taken => ⟨holds.1.step taken.2, holds.2.step holds.1 taken.1 taken.2⟩
  obtain ⟨timely, tested⟩ := overseen.2.watched
  refine ⟨(tested isOpen.1 isOpen.2).imp (fun planned => ⟨planned, (timely _ _ rfl).2⟩)
    fun planned => ⟨planned, (timely _ _ rfl).2⟩, fun action n o hurried receives finishes => ?_⟩
  simp only [Unhurried, not_forall, not_not] at hurried
  obtain ⟨aPdu, rfl, confirms, point⟩ := hurried
  obtain ⟨still, neither⟩ := untested confirms point isOpen.1 receives finishes
  obtain ⟨idle, test⟩ := not_or.mp neither
  exact ⟨still, Bool.eq_false_iff.mpr idle, Bool.eq_false_iff.mpr test⟩

def sampleTest : List Action :=
  [.own (.tick 20000), .take .maxIdleTimeTimer, .test, .execute]

def sampleManaged (settings : ConnectionSettings) (actions : List Action) : Managed :=
  (Run.perform (step settings false) (started settings (fun _ => false) 0) actions).getD
    (started settings (fun _ => false) 0)

private theorem sample_run : Run (Run.Guarded Unhurried (Step {} false)) (started {} (fun _ => false) 0) sampleTest
    (sampleManaged {} sampleTest) := by
  refine (Run.of_perform_getD (by decide +kernel)).guarded_of_mem ?_
  rintro action member m aPdu rfl
  simp [sampleTest] at member

/-- Its confirmation is handled before the idle timer is done. -/
theorem idle_supervised_sample :
    (sampleManaged {} sampleTest).connection.frames = [unnumbered .TESTFR_ACT] ∧
    ((sampleManaged {} (sampleTest ++ [.own (.receive (sampleUnnumbered .TESTFR_CON)), .finish])).connection.timer
      .maxIdleTimeTimer).isPlanned = false ∧
    ((sampleManaged {} (sampleTest ++ [.own (.receive (sampleUnnumbered .TESTFR_CON)), .finish])).connection.timer
      .maxTimeNoTestConReceived).isPlanned = false := by
  let confirmed := sampleManaged {} (sampleTest ++ [.own (.receive (sampleUnnumbered .TESTFR_CON))])
  have hurried : ¬ Unhurried (sampleManaged {} sampleTest) (.own (.receive (sampleUnnumbered .TESTFR_CON))) :=
    fun unhurried => unhurried _ rfl rfl rfl
  have receives : Step {} false (sampleManaged {} sampleTest) (.own (.receive (sampleUnnumbered .TESTFR_CON)))
      confirmed := rfl
  have finishes : Step {} false confirmed .finish
      (sampleManaged {} (sampleTest ++ [.own (.receive (sampleUnnumbered .TESTFR_CON)), .finish])) := rfl
  exact ⟨rfl, ((idle_supervised sample_run ⟨rfl, rfl⟩).2 _ _ _ hurried receives finishes).2⟩

end Tests

end Managed

end Connection

end J60870
