import J60870.Connection.Managing

/-! Why a connection closes: its timers close it only if the other side has been silent for t1. What counts is
the time at which the manager finds that a timer is not cancelled. -/

namespace J60870

open Lib Method

namespace Connection

variable {settings : ConnectionSettings} {server : Bool} {c d e : Connection}

/-- A timer that will run when it is due: it is in the queue, or `held` already. -/
def Armed (held : Prop) (c : Connection) (id : TimerId) : Prop :=
  (id ∈ c.timeoutManager.queue ∨ held) ∧ (c.timer id).canceled = false

/-- A timer that is armed in `d` was armed in `c`, and has not changed. -/
def Leaves (held : Prop) (id : TimerId) (c d : Connection) : Prop :=
  d.Armed held id → c.Armed held id ∧ d.timer id = c.timer id

section Leaves

variable {held : Prop} {id other : TimerId}

theorem Leaves.of_same (same : d.timeoutManager = c.timeoutManager) : Leaves held id c d := by
  rw [Leaves, Armed, Armed, timer, timer, same]
  exact fun armed => ⟨armed, rfl⟩

theorem Leaves.trans (first : Leaves held id c d) (second : Leaves held id d e) : Leaves held id c e := by
  intro armed
  obtain ⟨armed, last⟩ := second armed
  obtain ⟨armed, before⟩ := first armed
  exact ⟨armed, last.trans before⟩

theorem leaves_plans (different : id ≠ other) : Leaves held id c (c.plans other) := by
  intro ⟨queued, live⟩
  rw [plans_timer_other different] at live
  exact ⟨⟨queued.imp_left fun queued => ((TimeoutManager.mem_addTimerTask _ different).mp queued).1, live⟩,
    plans_timer_other different⟩

theorem leaves_cancels : Leaves held id c (c.cancels other) := by
  intro ⟨queued, live⟩
  by_cases same : id = other
  · subst same
    rw [cancels_timer_self] at live
    cases live
  · rw [cancels_timer_other same] at live
    exact ⟨⟨queued, live⟩, cancels_timer_other same⟩

theorem leaves_finishes (different : id ≠ other) : Leaves held id c (c.finishes other) := by
  intro ⟨queued, live⟩
  rw [finishes_timer_other different] at live
  exact ⟨⟨queued, live⟩, finishes_timer_other different⟩

theorem leaves_creates (object : Nat) (timeout : Int) (different : id ≠ .stopDtOutstandingSFormatTimer object) :
    Leaves held id c (c.creates object timeout) := by
  intro ⟨queued, live⟩
  rw [creates_timer_other different] at live
  exact ⟨⟨queued, live⟩, creates_timer_other different⟩

theorem leaves_dequeued : Leaves held id c (c.dequeued other) := fun ⟨queued, live⟩ =>
  ⟨⟨queued.imp_left List.mem_of_mem_erase, live⟩, rfl⟩

theorem leaves_cancelledIfPlanned : Leaves held id c (c.cancelledIfPlanned other) := by
  rw [cancelledIfPlanned]
  split
  · exact leaves_cancels
  · exact .of_same rfl

/-- The timers behind an acknowledgement. -/
theorem acknowledged_cases (c : Connection) (receiveSeqNumber : Nat) :
    c.acknowledgedSendSequenceNumber = receiveSeqNumber ∧
      (c.acknowledged receiveSeqNumber).timeoutManager = c.timeoutManager ∨
    c.sendSequenceNumber = receiveSeqNumber ∧ (c.acknowledged receiveSeqNumber).timeoutManager =
      (c.cancelledIfPlanned .maxTimeNoAckReceived).timeoutManager ∨
    c.sendSequenceNumber ≠ receiveSeqNumber ∧ (c.acknowledged receiveSeqNumber).timeoutManager =
      ((c.cancelledIfPlanned .maxTimeNoAckReceived).plans .maxTimeNoAckReceived).timeoutManager := by
  have timers : (c.acknowledged receiveSeqNumber).timeoutManager = c.acknowledgedTimers receiveSeqNumber := rfl
  rw [timers, acknowledgedTimers]
  by_cases same : c.acknowledgedSendSequenceNumber = receiveSeqNumber
  · exact .inl ⟨same, if_pos same⟩
  rw [if_neg same]
  by_cases all : c.sendSequenceNumber = receiveSeqNumber
  · exact .inr (.inl ⟨all, if_neg (not_not.mpr all)⟩)
  · exact .inr (.inr ⟨all, if_pos all⟩)

theorem leaves_acknowledged {receiveSeqNumber : Nat} (different : id ≠ .maxTimeNoAckReceived) :
    Leaves held id c (c.acknowledged receiveSeqNumber) := by
  have cancelled : Leaves held id c (c.cancelledIfPlanned .maxTimeNoAckReceived) := leaves_cancelledIfPlanned
  rcases c.acknowledged_cases receiveSeqNumber with ⟨-, timers⟩ | ⟨-, timers⟩ | ⟨-, timers⟩
  · exact .of_same timers
  · exact cancelled.trans (.of_same timers)
  · exact (cancelled.trans (leaves_plans different)).trans (.of_same timers)

end Leaves

/-- A timer that is armed in `d` was armed like that in `c` and `still` holds, or it was armed later and
`fresh` holds. -/
structure Renews (settings : ConnectionSettings) (held : Prop) (id : TimerId) (still fresh : Connection → Prop)
    (c d : Connection) : Prop where
  timely : Timely settings d
  later : c.currentTimeMillis ≤ d.currentTimeMillis
  armed : d.closed = false → d.Armed held id → (d.timer id).isPlanned = true ∧
    (c.Armed held id ∧ (d.timer id).dueTime = (c.timer id).dueTime ∧ still d ∨
      c.currentTimeMillis + settings.maxTimeNoAckReceived ≤ (d.timer id).dueTime ∧ fresh d)

namespace Renews

variable {held : Prop} {id : TimerId} {still fresh : Connection → Prop}

theorem leaves (renews : Renews settings held id still fresh c d) (timely : Timely settings e)
    (leaves : Leaves held id d e) (isStill : still d → still e) (isFresh : fresh d → fresh e)
    (later : d.currentTimeMillis ≤ e.currentTimeMillis := by exact Nat.le_refl _)
    (closed : e.closed = d.closed := by rfl) : Renews settings held id still fresh c e := by
  refine ⟨timely, renews.later.trans later, fun isOpen armed => ?_⟩
  obtain ⟨armed, task⟩ := leaves armed
  rw [task]
  obtain ⟨planned, before | now⟩ := renews.armed (closed ▸ isOpen) armed
  · exact ⟨planned, .inl ⟨before.1, before.2.1, isStill before.2.2⟩⟩
  · exact ⟨planned, .inr ⟨now.1, isFresh now.2⟩⟩

theorem of_closed (renews : Renews settings held id still fresh c d) (timely : Timely settings e)
    (later : d.currentTimeMillis ≤ e.currentTimeMillis) (closed : e.closed = true) :
    Renews settings held id still fresh c e :=
  ⟨timely, renews.later.trans later, fun isOpen => absurd (closed.symm.trans isOpen) Bool.false_ne_true.symm⟩

theorem plans (timely : Timely settings d) (later : c.currentTimeMillis ≤ d.currentTimeMillis)
    (limited : id.limit settings = some settings.maxTimeNoAckReceived) (isFresh : fresh (d.plans id)) :
    Renews settings held id still fresh c (d.plans id) := by
  have value := (timely id _ limited).1
  have positive := TimerId.limit_pos limited
  refine ⟨timely.addTimerTask id, later, fun _ _ => ?_⟩
  rw [plans_timer_self]
  refine ⟨TimeoutTask.updateDueTime_isPlanned _ _ (by omega), .inr ⟨?_, isFresh⟩⟩
  rw [TimeoutTask.updateDueTime]
  simp only [value]
  omega

end Renews

section Timers

variable {held : Prop}

private theorem testRenewed (held testing : Prop) (c : Connection) : TimerInvariant settings testing True
    (Renews settings held .maxTimeNoTestConReceived (fun _ => True) (fun _ => testing) c) where
  congr d e renews same := by
    obtain ⟨timers, now, -, closed⟩ : _ ∧ _ ∧ _ ∧ _ := by simpa only [timerSide, Prod.mk.injEq] using same
    exact renews.leaves (Timely.invariant.congr d e renews.timely same) (.of_same timers) id id now.ge closed
  tick d milliseconds renews := renews.leaves (Timely.invariant.tick d milliseconds renews.timely)
    (.of_same rfl) id id (Nat.le_add_right _ _)
  plan d other renews _ tests := by
    by_cases same : TimerId.maxTimeNoTestConReceived = other
    · subst same
      exact .plans renews.timely renews.later rfl (tests rfl)
    · exact renews.leaves (renews.timely.addTimerTask other) (leaves_plans same) id id
  cancel _ other renews _ := renews.leaves (renews.timely.cancel other) leaves_cancels id id
  finish d other renews closes := by
    have timely := Timely.invariant.finish d other renews.timely closes
    by_cases same : TimerId.maxTimeNoTestConReceived = other
    · exact renews.of_closed timely (Nat.le_refl _) (closes (.inl same.symm))
    · exact renews.leaves timely (leaves_finishes same) id id
  create d object timeout renews := renews.leaves (Timely.invariant.create d object timeout renews.timely)
    (leaves_creates object timeout (by simp)) id id
  dequeue d other renews := renews.leaves (Timely.invariant.dequeue d other renews.timely) leaves_dequeued id id
  number _ renews _ _ := renews.leaves (renews.timely.congr rfl) (.of_same rfl) id id
  arm _ renews _ := renews.leaves (renews.timely.addTimerTask _) (leaves_plans (by simp)) id id
  acknowledge d receiveSeqNumber renews counting number_lt inside := by
    have timely := Timely.invariant.acknowledge d receiveSeqNumber renews.timely counting number_lt inside
    exact renews.leaves timely (leaves_acknowledged (by simp)) id id
  close _ renews _ := renews.of_closed (renews.timely.congr rfl) (Nat.le_refl _) rfl

private theorem acknowledgementRenewed (held : Prop) (c : Connection) : TimerInvariant settings True True
    (Renews settings held .maxTimeNoAckReceived
      (fun d => d.acknowledgedSendSequenceNumber = c.acknowledgedSendSequenceNumber)
      (fun d => d.sendSequenceNumber ≠ d.acknowledgedSendSequenceNumber) c) where
  congr d e renews same := by
    have timely := Timely.invariant.congr d e renews.timely same
    obtain ⟨timers, now, ⟨send, acknowledged⟩, closed⟩ : _ ∧ _ ∧ (_ ∧ _) ∧ _ := by
      simpa only [timerSide, Prod.mk.injEq] using same
    exact renews.leaves timely (.of_same timers) acknowledged.trans (by rw [send, acknowledged]; exact id)
      now.ge closed
  tick d milliseconds renews := renews.leaves (Timely.invariant.tick d milliseconds renews.timely)
    (.of_same rfl) id id (Nat.le_add_right _ _)
  plan _ other renews different _ :=
    renews.leaves (renews.timely.addTimerTask other) (leaves_plans different.symm) id id
  cancel _ other renews _ := renews.leaves (renews.timely.cancel other) leaves_cancels id id
  finish d other renews closes := by
    have timely := Timely.invariant.finish d other renews.timely closes
    by_cases same : TimerId.maxTimeNoAckReceived = other
    · exact renews.of_closed timely (Nat.le_refl _) (closes (.inr same.symm))
    · exact renews.leaves timely (leaves_finishes same) id id
  create d object timeout renews := renews.leaves (Timely.invariant.create d object timeout renews.timely)
    (leaves_creates object timeout (by simp)) id id
  dequeue d other renews := renews.leaves (Timely.invariant.dequeue d other renews.timely) leaves_dequeued id id
  number _ renews counting window := renews.leaves (renews.timely.congr rfl) (.of_same rfl) id
    fun _ => Supervised.numbered_outstanding counting window
  arm _ renews outstanding := .plans renews.timely renews.later rfl outstanding
  acknowledge d receiveSeqNumber renews counting number_lt inside := by
    have timely := Timely.invariant.acknowledge d receiveSeqNumber renews.timely counting number_lt inside
    have cancelled := renews.timely.cancelledIfPlanned .maxTimeNoAckReceived
    rcases d.acknowledged_cases receiveSeqNumber with ⟨same, timers⟩ | ⟨all, timers⟩ | ⟨more, timers⟩
    · refine renews.leaves timely (.of_same timers) (fun still => ?_) fun fresh => ?_
      · exact same.symm.trans still
      · rw [same] at fresh
        exact fresh
    · -- the timer was planned, and is cancelled
      refine ⟨timely, renews.later, fun isOpen armed => ?_⟩
      have left : Leaves held .maxTimeNoAckReceived d (d.cancelledIfPlanned .maxTimeNoAckReceived) :=
        leaves_cancelledIfPlanned
      obtain ⟨armed, task⟩ := left ((Leaves.of_same timers) armed).1
      obtain ⟨planned, -⟩ := renews.armed isOpen armed
      rw [← task, cancelledIfPlanned_isPlanned] at planned
      cases planned
    · let counted := { d.cancelledIfPlanned .maxTimeNoAckReceived with
        acknowledgedSendSequenceNumber := receiveSeqNumber }
      have same : Timely settings counted := cancelled.congr rfl
      have renewed : Renews settings held .maxTimeNoAckReceived
          (fun d => d.acknowledgedSendSequenceNumber = c.acknowledgedSendSequenceNumber)
          (fun d => d.sendSequenceNumber ≠ d.acknowledgedSendSequenceNumber) c
          (counted.plans .maxTimeNoAckReceived) := .plans same renews.later rfl more
      exact renewed.leaves timely (.of_same timers) id id
  close _ renews _ := renews.of_closed (renews.timely.congr rfl) (Nat.le_refl _) rfl

private theorem testDue : TimerInvariant settings False True
    (fun c => (c.timer .maxTimeNoTestConReceived).canceled = false →
      (c.timer .maxTimeNoTestConReceived).dueTime ≤ c.currentTimeMillis) where
  congr c d due same := by
    obtain ⟨timers, now, -⟩ : _ ∧ _ ∧ _ := by simpa only [timerSide, Prod.mk.injEq] using same
    rw [timer, timers, now]
    exact due
  tick _ _ due live := (due live).trans (Int.ofNat_le.mpr (Nat.le_add_right _ _))
  plan c id due _ other := by
    rw [plans_timer_other fun same => other same.symm]
    exact due
  cancel c id due _ := by
    by_cases same : TimerId.maxTimeNoTestConReceived = id
    · subst same
      rw [cancels_timer_self]
      exact fun live => by cases live
    · rw [cancels_timer_other same]
      exact due
  finish c id due _ := by
    by_cases same : TimerId.maxTimeNoTestConReceived = id
    · subst same
      rw [finishes_timer_self]
      exact due
    · rw [finishes_timer_other same]
      exact due
  create _ _ _ due := by
    rw [creates_timer_other (by simp)]
    exact due
  dequeue _ _ due := due
  number _ due _ _ := due
  arm _ due _ := by
    rw [plans_timer_other (by simp)]
    exact due
  acknowledge _ _ due _ _ _ := by
    rw [acknowledged_timer_other _ _ (by simp)]
    exact due
  close _ due _ := due

end Timers

namespace Managed

variable {m n s : Managed} {actions : List Action} {action : Action}

section History

def Outstanding (_ : Managed) (_ : Action) (n : Managed) : Prop :=
  n.connection.sendSequenceNumber ≠ n.connection.acknowledgedSendSequenceNumber

def Unacknowledging (m : Managed) (_ : Action) (n : Managed) : Prop :=
  n.connection.acknowledgedSendSequenceNumber = m.connection.acknowledgedSendSequenceNumber

/-- The idle timer runs, which writes a test frame unless the socket fails. -/
def BeginsTest (m : Managed) (action : Action) (n : Managed) : Prop :=
  action = .execute ∧ m.manager = .tested .maxIdleTimeTimer ∧
    (m.connection.ioFails m.connection.ioCalls = false →
      n.connection.written = m.connection.written ++ [⟨unnumbered .TESTFR_ACT, m.connection.stopped⟩])

def Unconfirming (_ : Managed) (action : Action) (_ : Managed) : Prop :=
  ∀ aPdu, action = .own (.receive aPdu) → aPdu.apciType ≠ .TESTFR_CON

/-- At some time the other side is given t1 for what `began`, and all has been `quiet` since. -/
def Awaited (settings : ConnectionSettings) (server : Bool) (began quiet : Managed → Action → Managed → Prop)
    (s : Managed) (actions : List Action) (m : Managed) (dueTime : Int) : Prop :=
  ∃ b, Run.Since (Step settings server) began quiet s actions b m ∧
    b.connection.currentTimeMillis + settings.maxTimeNoAckReceived ≤ dueTime

/-- A timer that is in the queue, or with the manager. -/
def Armed (m : Managed) (id : TimerId) : Prop := m.connection.Armed (m.manager = .taken id) id

/-- What an armed timer waits for. -/
def Waits (settings : ConnectionSettings) (server : Bool) (began quiet : Managed → Action → Managed → Prop)
    (s : Managed) (actions : List Action) (m : Managed) (id : TimerId) : Prop :=
  m.connection.closed = false → m.Armed id → (m.connection.timer id).isPlanned = true ∧
    Awaited settings server began quiet s actions m (m.connection.timer id).dueTime

/-- The two timers that close the connection wait for something. -/
structure Justified (settings : ConnectionSettings) (server : Bool) (s : Managed) (actions : List Action)
    (m : Managed) : Prop where
  acknowledgement : Waits settings server Outstanding Unacknowledging s actions m .maxTimeNoAckReceived
  test : Waits settings server BeginsTest Unconfirming s actions m .maxTimeNoTestConReceived

section Waits

variable {began quiet : Managed → Action → Managed → Prop} {id : TimerId} {still fresh : Connection → Prop}

private theorem Waits.step (before : Run (Step settings server) s actions m)
    (taken : Step settings server m action n) (waits : Waits settings server began quiet s actions m id)
    (renews : n.connection.closed = false → n.Armed id → (n.connection.timer id).isPlanned = true ∧
      (m.Armed id ∧ (n.connection.timer id).dueTime = (m.connection.timer id).dueTime ∧ quiet m action n ∨
        m.connection.currentTimeMillis + settings.maxTimeNoAckReceived ≤ (n.connection.timer id).dueTime ∧
          began m action n)) : Waits settings server began quiet s (actions ++ [action]) n id := by
  -- The timer waits on if what is armed behind a step was armed before or is renewed.
  intro isOpen armed
  have wasOpen : m.connection.closed = false :=
    Bool.eq_false_iff.mpr fun closed => Bool.eq_false_iff.mp isOpen (closed_stays taken closed)
  obtain ⟨planned, ⟨wasArmed, due, still⟩ | ⟨due, begins⟩⟩ := renews isOpen armed
  · obtain ⟨b, since, elapsed⟩ := (waits wasOpen wasArmed).2
    rw [due]
    exact ⟨planned, b, since.next taken still, elapsed⟩
  · exact ⟨planned, m, .begins before taken begins, due⟩

private theorem Waits.take {taken : TimerId} (before : Run (Step settings server) s actions m)
    (step : Step settings server m (.take taken) n) (waits : Waits settings server began quiet s actions m id)
    (quietly : quiet m (.take taken) n) :
    Waits settings server began quiet s (actions ++ [.take taken]) n id := by
  refine waits.step before step fun isOpen armed => ?_
  cases moves_of_step step with | take _ queued _
  have wasArmed : m.Armed id := by
    obtain ⟨held, live⟩ := armed
    refine ⟨.inl ?_, live⟩
    rcases held with queued | held
    · exact List.mem_of_mem_erase queued
    · exact ManagerPoint.taken.inj held ▸ queued
  exact ⟨(waits isOpen wasArmed).1, .inl ⟨wasArmed, rfl, quietly⟩⟩

private theorem Waits.renewed (before : Run (Step settings server) s actions m)
    (step : Step settings server m action n) (waits : Waits settings server began quiet s actions m id)
    (others : ∀ id, action ≠ .take id)
    (renews : Renews settings (m.manager = .taken id) id still fresh m.connection n.connection)
    (quietly : still n.connection → n.Armed id → quiet m action n)
    (begins : fresh n.connection → n.connection.closed = false → began m action n) :
    Waits settings server began quiet s (actions ++ [action]) n id := by
  refine waits.step before step fun isOpen armed => ?_
  have held : n.manager = .taken id → m.manager = .taken id := by
    cases moves_of_step step with
    | own => exact fun point => point
    | take => exact absurd rfl (others _)
    | passes | drops | execute | finish => exact fun point => by cases point
  obtain ⟨planned, before | now⟩ := renews.armed isOpen ⟨armed.1.imp_right held, armed.2⟩
  · exact ⟨planned, .inl ⟨before.1, before.2.1, quietly before.2.2 armed⟩⟩
  · exact ⟨planned, .inr ⟨now.1, begins now.2 isOpen⟩⟩

end Waits

private theorem not_armed_of_testCon {held : Prop} {aPdu : ReceivedAPdu} (confirms : aPdu.apciType = .TESTFR_CON)
    (taken : Connection.Step settings server c (.receive aPdu) d) : ¬ d.Armed held .maxTimeNoTestConReceived := by
  obtain ⟨method, found, rfl⟩ := step_eq_some taken
  obtain ⟨_, ⟨⟩⟩ := Option.ite_none_right_eq_some.mp found
  refine Post.outcome (P := fun d : Connection => ¬ d.Armed held .maxTimeNoTestConReceived) ?_
  rw [post_readerTurn, dispatch, confirms]
  rintro ⟨-, live⟩
  simp [timer, TimeoutTask.cancel] at live

private theorem beginsTest_of_execute (sound : Sound settings m) (point : m.manager = .tested .maxIdleTimeTimer)
    (taken : Step settings server m .execute n) (isOpen : n.connection.closed = false) :
    BeginsTest m .execute n := by
  refine ⟨rfl, point, fun works => ?_⟩
  have wasOpen : m.connection.closed = false :=
    Bool.eq_false_iff.mpr fun closed => Bool.eq_false_iff.mp isOpen (closed_stays taken closed)
  cases moves_of_step taken with | @execute id tested
  obtain rfl := ManagerPoint.tested.inj (tested.symm.trans point)
  have interrupted : managerRuns settings m.connection = true :=
    sound.managerRuns wasOpen
  change (runs settings .maxIdleTimeTimer m.connection).written = _
  rw [runs, if_pos interrupted]
  refine Post.outcome (P := fun d : Connection =>
    d.written = m.connection.written ++ [⟨unnumbered .TESTFR_ACT, m.connection.stopped⟩]) ?_
  simp [execute, works]

private theorem Justified.step (before : Run (Step settings server) s actions m) (timely : Timely settings m.connection)
    (sound : Sound settings m) (justified : Justified settings server s actions m)
    (taken : Step settings server m action n) : Justified settings server s (actions ++ [action]) n := by
  obtain ⟨acknowledgement, test⟩ := justified
  by_cases takes : ∃ id, action = .take id
  · obtain ⟨id, rfl⟩ := takes
    refine ⟨acknowledgement.take before taken ?_, test.take before taken fun _ other => by cases other⟩
    cases moves_of_step taken with | take
    rfl
  have others (id : TimerId) : action ≠ .take id := fun same => takes ⟨id, same⟩
  constructor
  · have renews := timerInvariant_step (acknowledgementRenewed (m.manager = .taken .maxTimeNoAckReceived) m.connection)
      sound ⟨timely, Nat.le_refl _, fun isOpen armed => ⟨(acknowledgement isOpen armed).1, .inl ⟨armed, rfl, rfl⟩⟩⟩
      (fun _ _ => trivial) (fun _ _ _ => trivial) taken
    exact acknowledgement.renewed before taken others renews (fun still _ => still) fun fresh _ => fresh
  · have renews := timerInvariant_step (testRenewed (m.manager = .taken .maxTimeNoTestConReceived)
        (action = .execute ∧ m.manager = .tested .maxIdleTimeTimer) m.connection)
      sound ⟨timely, Nat.le_refl _, fun isOpen armed => ⟨(test isOpen armed).1, .inl ⟨armed, rfl, trivial⟩⟩⟩
      (fun executes point => ⟨executes, point⟩) (fun _ _ _ => trivial) taken
    refine test.renewed before taken others renews (fun _ armed => ?_) ?_
    · rintro aPdu rfl confirms
      cases moves_of_step taken with | own _ step
      exact not_armed_of_testCon confirms step armed
    · rintro ⟨rfl, point⟩ isOpen
      exact beginsTest_of_execute sound point taken isOpen

variable {ioFails : Nat → Bool} {now : Nat}

private theorem timely_of_run (run : Run (Step settings server) (.started settings ioFails now) actions m) :
    Timely settings m.connection :=
  run.invariant_where (I := fun m => Timely settings m.connection) (fun _ _ before => Sound.of_run before)
    (Watched.started ioFails now).timely fun _ _ _ sound timely taken =>
      timerInvariant_step Timely.invariant sound timely (fun _ _ => trivial) (fun _ _ _ => trivial) taken

theorem justified_of_run (run : Run (Step settings server) (.started settings ioFails now) actions m) :
    Justified settings server (.started settings ioFails now) actions m := by
  induction run with
  | start =>
    have idle {id : TimerId} (other : id ≠ .maxIdleTimeTimer) : ¬ (started settings ioFails now).Armed id := by
      rintro ⟨queued | held, -⟩
      · exact other (by simpa [started, Connection.started, newTimers, TimeoutManager.addTimerTask] using queued)
      · cases held
    exact ⟨fun _ armed => absurd armed (idle (by simp)), fun _ armed => absurd armed (idle (by simp))⟩
  | next before last ih => exact ih.step before (timely_of_run before) (.of_run before) last

end History

section Closes

/-- The last thing the manager has done is `entry`, and `P` held of the actions before it and of the state they
led to. -/
def Last (settings : ConnectionSettings) (server : Bool) (s : Managed) (actions : List Action) (entry : Action)
    (P : List Action → Managed → Prop) : Prop :=
  ∃ earlier b later, actions = earlier ++ entry :: later ∧ Run (Step settings server) s earlier b ∧ P earlier b ∧
    ∀ action ∈ later, ∃ own, action = .own own

private theorem last_of_point {point : ManagerPoint} (run : Run (Step settings server) s actions m)
    (start : s.manager = .waiting) (moved : point ≠ .waiting) (reached : m.manager = point) :
    ∃ entry, Last settings server s actions entry fun _ b => (∀ own, entry ≠ .own own) ∧
      (∃ n, Step settings server b entry n ∧ n.manager = point) ∧
      (b.connection.closed = true → m.connection.closed = true) := by
  induction run with
  | start => exact absurd (reached.symm.trans start) moved
  | @next actions m n action before last ih =>
    have stays := closed_stays last
    by_cases own : ∃ own, action = .own own
    · obtain ⟨own, rfl⟩ := own
      have same : m.manager = point := by
        cases moves_of_step last with | own
        exact reached
      obtain ⟨entry, earlier, b, later, rfl, run, ⟨enters, entered, closed⟩, owns⟩ := ih same
      refine ⟨entry, earlier, b, later ++ [.own own], by simp, run, ⟨enters, entered, stays ∘ closed⟩, ?_⟩
      exact List.forall_mem_append.mpr ⟨owns, List.forall_mem_singleton.mpr ⟨own, rfl⟩⟩
    · exact ⟨action, actions, m, [], rfl, before, ⟨fun other same => own ⟨other, same⟩, ⟨n, last, reached⟩, stays⟩,
        fun _ none => by cases none⟩

variable {ioFails : Nat → Bool} {now : Nat} {id : TimerId}

private theorem last_take (run : Run (Step settings server) (.started settings ioFails now) actions m)
    (taken : m.manager = .taken id) :
    Last settings server (.started settings ioFails now) actions (.take id) fun _ b =>
      (b.connection.timer id).dueTime ≤ b.connection.currentTimeMillis := by
  obtain ⟨entry, earlier, b, later, order, before, ⟨enters, ⟨n, step, point⟩, -⟩, owns⟩ :=
    last_of_point run rfl (by simp) taken
  cases moves_of_step step with
  | own => exact absurd rfl (enters _)
  | take _ _ due =>
    cases point
    exact ⟨earlier, b, later, order, before, due, owns⟩
  | passes | drops | execute | finish => cases point

private theorem last_test (run : Run (Step settings server) (.started settings ioFails now) actions m)
    (tested : m.manager = .tested id) (isOpen : m.connection.closed = false) :
    Last settings server (.started settings ioFails now) actions .test fun _ b =>
      b.connection.closed = false ∧ b.manager = .taken id ∧ (b.connection.timer id).canceled = false := by
  obtain ⟨entry, earlier, b, later, order, before, ⟨enters, ⟨n, step, point⟩, closed⟩, owns⟩ :=
    last_of_point run rfl (by simp) tested
  have wasOpen : b.connection.closed = false :=
    Bool.eq_false_iff.mpr fun shut => Bool.eq_false_iff.mp isOpen (closed shut)
  cases moves_of_step step with
  | own => exact absurd rfl (enters _)
  | passes taken live =>
    cases point
    exact ⟨earlier, b, later, order, before, ⟨wasOpen, taken, live⟩, owns⟩
  | take | drops | execute | finish => cases point

private theorem testDue_of_run (run : Run (Step settings server) (.started settings ioFails now) actions m)
    (taken : m.manager = .taken .maxTimeNoTestConReceived)
    (live : (m.connection.timer .maxTimeNoTestConReceived).canceled = false) :
    (m.connection.timer .maxTimeNoTestConReceived).dueTime ≤ m.connection.currentTimeMillis := by
  -- None but the manager begins a test.
  refine run.invariant_where (I := fun m => m.manager = .taken .maxTimeNoTestConReceived →
    (m.connection.timer .maxTimeNoTestConReceived).canceled = false →
      (m.connection.timer .maxTimeNoTestConReceived).dueTime ≤ m.connection.currentTimeMillis)
    (fun _ _ before => Sound.of_run before) (fun point => by cases point) ?_ taken live
  intro m action n sound due step point
  cases moves_of_step step with
  | own _ _ =>
    exact timerInvariant_step testDue sound (due point) (fun executes => by cases executes)
      (fun _ _ _ => trivial) step
  | take _ _ now =>
    cases point
    exact fun _ => now
  | passes | drops | execute | finish => cases point

/-- The reasons for which a connection closes behind some actions. -/
inductive ClosesFor (settings : ConnectionSettings) (server : Bool) (s : Managed) (actions : List Action)
    (m : Managed) : Action → Prop
  | application : ClosesFor settings server s actions m (.own .close)
  /-- an exception has ended the loop of the reader -/
  | reader (leaving : m.connection.reader = .leaving) : ClosesFor settings server s actions m (.own .endReader)
  /-- an I frame had not been acknowledged for t1 when the t1 timer was tested -/
  | unacknowledged (point : m.manager = .tested .maxTimeNoAckReceived)
      (awaited : Last settings server s actions .test fun actions b =>
        Awaited settings server Outstanding Unacknowledging s actions b b.connection.currentTimeMillis) :
      ClosesFor settings server s actions m .execute
  /-- the t1 timer was due when it was taken, and was armed anew before it was tested -/
  | armedAnew (point : m.manager = .tested .maxTimeNoAckReceived)
      (later : Last settings server s actions .test fun actions b =>
        b.connection.currentTimeMillis < (b.connection.timer .maxTimeNoAckReceived).dueTime ∧
          Last settings server s actions (.take .maxTimeNoAckReceived) fun _ a =>
            (a.connection.timer .maxTimeNoAckReceived).dueTime ≤ a.connection.currentTimeMillis) :
      ClosesFor settings server s actions m .execute
  /-- a test had not been confirmed for t1 when the test timer was tested -/
  | unconfirmed (point : m.manager = .tested .maxTimeNoTestConReceived)
      (awaited : Last settings server s actions .test fun actions b =>
        Awaited settings server BeginsTest Unconfirming s actions b b.connection.currentTimeMillis) :
      ClosesFor settings server s actions m .execute

private theorem Awaited.mono {began quiet : Managed → Action → Managed → Prop} {dueTime later : Int}
    (awaited : Awaited settings server began quiet s actions m dueTime) (le : dueTime ≤ later) :
    Awaited settings server began quiet s actions m later := by
  obtain ⟨b, since, elapsed⟩ := awaited
  exact ⟨b, since, elapsed.trans le⟩

/-- Whatever the peer sends, and whatever becomes of the socket: a connection closes because the application
wants it to, because its reader has ended, or because the other side has been silent for t1, either on
something that was sent or on a test. The manager looks at the t1 timer twice, and takes it for due though it
was armed anew in between. -/
theorem closes_for_reason (run : Run (Step settings server) (.started settings ioFails now) actions m)
    (taken : Step settings server m action n) (isOpen : m.connection.closed = false)
    (closed : n.connection.closed = true) :
    ClosesFor settings server (.started settings ioFails now) actions m action := by
  have still {c : Connection} (closed : c.closed = true) (same : c.closed = m.connection.closed) : False :=
    absurd (closed.symm.trans (same.trans isOpen)) Bool.false_ne_true.symm
  cases moves_of_step taken with
  | own fires step =>
    cases phaseStep_of_step step with
    | stays same | fails _ _ same => exact (still closed (congrArg Prod.snd same)).elim
    | closes => exact .application
    | ends leaving => exact .reader leaving
    | expires => cases fires
  | take | passes | drops | finish => exact (still closed rfl).elim
  | @execute id point =>
    have closing : TimerId.Closes id := by
      by_contra other
      refine still closed (always_runs (I := fun d => d.closed = m.connection.closed) rfl ?_)
      exact (execute_keeps_phase other).post fun _ same => congrArg Prod.snd same
    obtain ⟨earlier, b, later, order, before, ⟨wasOpen, held, live⟩, owns⟩ := last_test run point isOpen
    have justified := justified_of_run before
    rcases closing with rfl | rfl
    · have awaited := (justified.test wasOpen ⟨.inr held, live⟩).2.mono (testDue_of_run before held live)
      exact .unconfirmed point ⟨earlier, b, later, order, before, awaited, owns⟩
    · have awaited := (justified.acknowledgement wasOpen ⟨.inr held, live⟩).2
      rcases le_or_gt (b.connection.timer .maxTimeNoAckReceived).dueTime b.connection.currentTimeMillis with due | ahead
      · exact .unacknowledged point ⟨earlier, b, later, order, before, awaited.mono due, owns⟩
      · exact .armedAnew point ⟨earlier, b, later, order, before, ⟨ahead, last_take before held⟩, owns⟩

def sampleUnanswered : List Action :=
  sampleTest ++ [.finish, .own (.tick 15000), .take .maxTimeNoTestConReceived, .test]

theorem closes_for_reason_sample :
    (sampleManaged {} (sampleUnanswered ++ [.execute])).connection.closed = true ∧
    ClosesFor {} false (started {} (fun _ => false) 0) sampleUnanswered (sampleManaged {} sampleUnanswered)
      .execute := by
  have run : Run (Step {} false) (started {} (fun _ => false) 0) sampleUnanswered
      (sampleManaged {} sampleUnanswered) := Run.of_perform_getD (by decide +kernel)
  have taken : Step {} false (sampleManaged {} sampleUnanswered) .execute
      (sampleManaged {} (sampleUnanswered ++ [.execute])) := rfl
  exact ⟨rfl, closes_for_reason run taken rfl rfl⟩

end Closes

end Managed

end Connection

end J60870
