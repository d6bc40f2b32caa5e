import J60870.TimerThread

namespace J60870

open Lib

namespace TimerThread

variable {ι : Type} {s t : TimerThread ι}

def dueTime (s : TimerThread ι) (id : ι) : Int := (s.manager.task id).dueTime

/-- When the thread is going to wake, if it has taken a task and waits for it now. -/
def plannedWakeTime (s : TimerThread ι) : Option Int :=
  match s.point with
  | .taken id => some (s.dueTime id)
  | .puttingBack _ sleepMillis | .entering sleepMillis => some (s.currentTimeMillis + sleepMillis)
  | .waiting wakeTime => some wakeTime
  | _ => none

/-- The tasks that are in the queue, or will be when the thread waits. -/
def Pending (s : TimerThread ι) (id : ι) : Prop :=
  id ∈ s.manager.queue ∨ ∃ sleepMillis, s.point = .puttingBack id sleepMillis

/-- The thread wakes before any pending task is due. -/
def WakesInTime (s : TimerThread ι) : Prop :=
  ∀ wakeTime, s.plannedWakeTime = some wakeTime → ∀ id, s.Pending id → wakeTime ≤ s.dueTime id

/-- What has to be seen to between the taking of a task and the wait, as far as no call
of `addTimerTask` is about to notify anyway. The task taken is the one due first. The
clock does not go on once the time is read. A call that notifies before the thread waits
has armed nothing that is due before the thread wakes. -/
def InTime (s : TimerThread ι) : PartAction ι → Prop
  | .run (.take id) => s.Quiet → ∀ other ∈ s.manager.queue, s.dueTime id ≤ s.dueTime other
  | .run (.tick milliseconds) =>
    match s.point with
    | .puttingBack _ _ | .entering _ => s.Quiet → milliseconds = 0
    | _ => True
  | .notifyLock thread =>
    match s.point with
    | .taken _ | .puttingBack _ _ | .entering _ =>
      (∀ other, other ≠ thread → s.calls other = .idle) → s.WakesInTime
    | _ => True
  | _ => True

namespace Quiet

private theorem not_setCall {thread : Nat} {call : AddCall ι} (inside : call ≠ .idle) :
    ¬ (s.setCall thread call).Quiet := by
  intro quiet
  have now := quiet thread
  simp only [setCall, Function.update_self] at now
  exact inside now

private theorem others [DecidableEq ι] {thread : Nat} (quiet : (s.notifyLock.setCall thread .idle).Quiet) :
    ∀ other, other ≠ thread → s.calls other = .idle := by
  intro other different
  have now := quiet other
  simpa [setCall, Function.update_of_ne different] using now

end Quiet

namespace WakesInTime

private theorem of_unplanned (unplanned : t.plannedWakeTime = none) : t.WakesInTime := by
  intro wakeTime planned
  rw [unplanned] at planned
  cases planned

private theorem congr (wakes : s.WakesInTime) (planned : t.plannedWakeTime = s.plannedWakeTime)
    (pending : ∀ id, t.Pending id → s.Pending id) (due : t.dueTime = s.dueTime) : t.WakesInTime := by
  intro wakeTime planned' id pending'
  rw [due]
  exact wakes wakeTime (planned ▸ planned') id (pending id pending')

private theorem take [DecidableEq ι] {id : ι} (first : ∀ other ∈ s.manager.queue, s.dueTime id ≤ s.dueTime other) :
    WakesInTime { s with manager := s.manager.take id, point := .taken id } := by
  intro wakeTime planned other pending
  obtain rfl : s.dueTime id = wakeTime := Option.some.inj planned
  rcases pending with queued | ⟨_, point⟩
  · exact first other (List.mem_of_mem_erase queued)
  · cases point

private theorem readTime {id : ι} (wakes : s.WakesInTime) (point : s.point = .taken id) :
    WakesInTime { s with
      point := .puttingBack id ((s.manager.task id).sleepTimeFromDueTime s.currentTimeMillis) } := by
  intro wakeTime planned other pending
  have due : s.dueTime id = wakeTime := by
    rw [← Option.some.inj planned]
    simp only [dueTime, TimeoutTask.sleepTimeFromDueTime]
    omega
  have before : s.plannedWakeTime = some wakeTime := by simp only [plannedWakeTime, point, due]
  rcases pending with queued | ⟨_, held⟩
  · exact wakes wakeTime before other (.inl queued)
  · cases held
    exact Int.le_of_eq due.symm

private theorem putBack {id : ι} {sleepMillis : Int} (wakes : s.WakesInTime)
    (point : s.point = .puttingBack id sleepMillis) :
    WakesInTime { s with manager := s.manager.add id, point := .entering sleepMillis } := by
  intro wakeTime planned other pending
  have before : s.plannedWakeTime = some wakeTime := by simpa only [plannedWakeTime, point] using planned
  refine wakes wakeTime before other ?_
  rcases pending with queued | ⟨_, held⟩
  · rcases List.mem_append.mp queued with before | back
    · exact .inl before
    · rw [List.mem_singleton.mp back]
      exact .inr ⟨sleepMillis, point⟩
  · cases held

private theorem runStep [DecidableEq ι] {action : RunAction ι} (wakes : s.WakesInTime) (quiet : s.Quiet)
    (inTime : InTime s (.run action)) (taken : TimerThread.runStep s action = some t) : t.WakesInTime := by
  cases action with
  | loop =>
    obtain ⟨_, ⟨⟩⟩ := Option.ite_none_right_eq_some.mp taken
    apply of_unplanned
    cases s.canceled <;> rfl
  | take id =>
    obtain ⟨_, ⟨⟩⟩ := Option.ite_none_right_eq_some.mp taken
    exact WakesInTime.take (inTime quiet)
  | readTime =>
    cases point : s.point <;> simp only [TimerThread.runStep, point] at taken
    case taken id =>
      split at taken
      · cases taken
        exact wakes.readTime point
      · cases taken
        exact of_unplanned rfl
    all_goals cases taken
  | putBack =>
    cases point : s.point <;> simp only [TimerThread.runStep, point] at taken <;> cases taken
    exact wakes.putBack point
  | enterWait =>
    cases point : s.point <;> simp only [TimerThread.runStep, point] at taken <;> cases taken
    refine wakes.congr (by simp only [plannedWakeTime, point]) ?_ rfl
    rintro id (queued | ⟨_, held⟩)
    · exact .inl queued
    · cases held
  | wake =>
    cases point : s.point <;> simp only [TimerThread.runStep, point] at taken <;> cases taken
    exact of_unplanned rfl
  | execute =>
    cases point : s.point <;> simp only [TimerThread.runStep, point] at taken <;> cases taken
    exact of_unplanned rfl
  | interrupt =>
    cases point : s.point <;> simp only [TimerThread.runStep, point] at taken <;> cases taken <;>
      exact of_unplanned rfl
  | tick milliseconds =>
    cases taken
    refine wakes.congr ?_ (fun _ pending => pending) rfl
    cases point : s.point <;> simp only [InTime, point] at inTime <;> simp only [plannedWakeTime, point]
    case taken id => rfl
    all_goals simp [inTime quiet]
  | cancelTask id =>
    cases taken
    have due : TimerThread.dueTime { s with manager := s.manager.cancel id } = s.dueTime := by
      funext other
      by_cases same : other = id
      · subst same
        simp [TimerThread.dueTime, TimeoutTask.cancel]
      · simp [TimerThread.dueTime, same]
    refine wakes.congr ?_ (fun _ pending => pending) due
    cases point : s.point <;> simp only [plannedWakeTime, point]
    exact congrArg some (congrFun due _)
  | cancel =>
    cases taken
    exact wakes.congr rfl (fun _ pending => pending) rfl

end WakesInTime

section Steps

variable [DecidableEq ι]

private theorem runStep_calls {action : RunAction ι} (taken : runStep s action = some t) :
    t.calls = s.calls := by
  cases action <;> cases point : s.point <;> simp only [runStep, point] at taken <;> grind

omit [DecidableEq ι] in
private theorem woken {thread : Nat} (same : s.notifyLock = s) (wakes : s.WakesInTime) :
    (s.notifyLock.setCall thread .idle).WakesInTime := by
  rw [same]
  exact wakes.congr rfl (fun _ pending => pending) rfl

private theorem wakesInTime_step {action : PartAction ι} (wakes : s.Quiet → s.WakesInTime)
    (inTime : InTime s action) (taken : partStep s action = some t) (quiet : t.Quiet) : t.WakesInTime := by
  -- Unless a call of `addTimerTask` is about to notify, the thread wakes in time.
  cases action with
  | run action =>
    have before : s.Quiet := fun thread => by rw [← runStep_calls taken, quiet thread]
    exact (wakes before).runStep before inTime taken
  | updateDueTime thread id =>
    cases call : s.calls thread <;> simp only [partStep, call] at taken <;> cases taken
    exact absurd quiet (Quiet.not_setCall (by simp))
  | removeDuplicates thread =>
    cases call : s.calls thread <;> simp only [partStep, call] at taken <;> cases taken
    exact absurd quiet (Quiet.not_setCall (by simp))
  | add thread =>
    cases call : s.calls thread <;> simp only [partStep, call] at taken <;> cases taken
    exact absurd quiet (Quiet.not_setCall (by simp))
  | notifyLock thread =>
    cases call : s.calls thread <;> simp only [partStep, call] at taken <;> cases taken
    have others := Quiet.others quiet
    cases point : s.point <;> simp only [InTime, point] at inTime
    case taken id => exact woken (by simp [notifyLock, point]) (inTime others)
    case puttingBack id sleepMillis => exact woken (by simp [notifyLock, point]) (inTime others)
    case entering sleepMillis => exact woken (by simp [notifyLock, point]) (inTime others)
    all_goals exact WakesInTime.of_unplanned (by simp [plannedWakeTime, setCall, notifyLock, point])

/-- As long as the thread goes from the taking of a task to the wait with nothing in
between that makes it sleep too long, it never sleeps past the due time of a queued task:
in every state in which it waits and no call of `addTimerTask` is in progress, the wait
ends before any of them is due. -/
theorem never_oversleeps {task : ι → TimeoutTask} {now : Nat} {actions : List (PartAction ι)}
    (run : Run (Run.Guarded InTime fun s action t => partStep s action = some t) (new task now) actions s)
    (quiet : s.Quiet) {wakeTime : Int} (waiting : s.point = .waiting wakeTime) :
    ∀ id ∈ s.manager.queue, wakeTime ≤ (s.manager.task id).dueTime := by
  have wakes : s.Quiet → s.WakesInTime :=
    run.invariant (fun _ => WakesInTime.of_unplanned rfl) fun _ _ _ wakes taken quiet =>
      wakesInTime_step wakes taken.1 taken.2 quiet
  intro id queued
  exact wakes quiet wakeTime (by simp only [plannedWakeTime, waiting]) id (.inl queued)

end Steps

def sampleTimeouts (id : Nat) : TimeoutTask := ⟨if id = 0 then 1000 else 10, 0, false, false⟩

def sampleCall (thread id : Nat) : List (PartAction Nat) :=
  [.updateDueTime thread id, .removeDuplicates thread, .add thread, .notifyLock thread]

def sampleWait : List (PartAction Nat) :=
  sampleCall 0 0 ++ [.run .loop, .run (.take 0), .run .readTime, .run .putBack, .run .enterWait]

theorem never_oversleeps_sample :
    ∃ s, Run (fun s action t => partStep s action = some t) (new sampleTimeouts 0) sampleWait s ∧
      s.point = .waiting 1000 ∧ s.manager.queue = [0] ∧ 1000 ≤ (s.manager.task 0).dueTime := by
  have ends : ∃ s, Run.perform partStep (new sampleTimeouts 0) sampleWait = some s ∧ s.Quiet ∧
      s.point = .waiting 1000 ∧ s.manager.queue = [0] ∧
      Run.Meets partStep InTime (new sampleTimeouts 0) sampleWait := by
    refine ⟨_, rfl, fun thread => ?_, rfl, rfl, trivial, trivial, trivial, trivial, trivial, fun _ => ?_,
      trivial, trivial, trivial, trivial⟩
    · cases thread <;> rfl
    · intro other queued
      obtain rfl := List.mem_singleton.mp queued
      exact Int.le_refl _
  obtain ⟨s, ends, quiet, waiting, queue, meets⟩ := ends
  have run := Run.guarded_of_perform ends meets
  have due := never_oversleeps run quiet waiting
  exact ⟨s, run.unguarded, waiting, queue, due 0 (by rw [queue]; exact List.mem_singleton_self 0)⟩

/-- A task of ten milliseconds is armed between the time at which the thread puts the task
of a second back and the time at which it waits. -/
theorem oversleeps :
    ∃ actions s, Run (fun s action t => partStep s action = some t) (new sampleTimeouts 0) actions s ∧
      s.Quiet ∧ s.point = .waiting 1000 ∧ s.manager.queue = [0, 1] ∧ (s.manager.task 1).dueTime = 10 := by
  refine ⟨sampleCall 0 0 ++ [.run .loop, .run (.take 0), .run .readTime, .run .putBack] ++ sampleCall 1 1 ++
    [.run .enterWait], _, Run.of_perform rfl, fun thread => ?_, rfl, rfl, rfl⟩
  rcases thread with _ | _ | thread <;> rfl

end TimerThread

end J60870
