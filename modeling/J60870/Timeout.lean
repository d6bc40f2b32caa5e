import Mathlib.Logic.Function.Basic

namespace J60870

/-- A timer. Times are in milliseconds; a due time of zero stands for none. -/
structure TimeoutTask where
  timeout : Int
  dueTime : Int := 0
  canceled : Bool := false
  done : Bool := false
  deriving DecidableEq, Repr

namespace TimeoutTask

def updateDueTime (task : TimeoutTask) (currentTimeMillis : Nat) : TimeoutTask :=
  { task with dueTime := currentTimeMillis + task.timeout, canceled := false, done := false }

def isPlanned (task : TimeoutTask) : Bool := !task.canceled && !task.done && task.dueTime != 0

def cancel (task : TimeoutTask) : TimeoutTask := { task with canceled := true }

def sleepTimeFromDueTime (task : TimeoutTask) (currentTimeMillis : Nat) : Int :=
  task.dueTime - currentTimeMillis

@[simp] theorem cancel_isPlanned (task : TimeoutTask) : task.cancel.isPlanned = false := by
  simp [cancel, isPlanned]

theorem updateDueTime_isPlanned (task : TimeoutTask) (currentTimeMillis : Nat)
    (positive : 0 < task.timeout) : (task.updateDueTime currentTimeMillis).isPlanned = true := by
  have due : (currentTimeMillis : Int) + task.timeout ≠ 0 := by omega
  simp [updateDueTime, isPlanned, due]

end TimeoutTask

/-- A call of `addTimerTask`: the task, the time, and what the call found. -/
structure Arming (ι : Type) where
  id : ι
  currentTimeMillis : Nat
  task : ι → TimeoutTask
  queue : List ι

/-- No other task in the queue is, by value, what the new one becomes. -/
def Arming.Alone {ι : Type} (arming : Arming ι) : Prop :=
  ∀ other ∈ arming.queue, other ≠ arming.id →
    arming.task other ≠ (arming.task arming.id).updateDueTime arming.currentTimeMillis

instance {ι : Type} [DecidableEq ι] (arming : Arming ι) : Decidable arming.Alone :=
  inferInstanceAs (Decidable (∀ other ∈ arming.queue, _))

/-- The timer objects and the queue of the manager, which holds references to them. The
calls of `addTimerTask` are kept for the statements. -/
structure TimeoutManager (ι : Type) where
  task : ι → TimeoutTask
  queue : List ι := []
  armings : List (Arming ι) := []

namespace TimeoutManager

variable {ι : Type} [DecidableEq ι] (manager : TimeoutManager ι)

def set (id : ι) (task : TimeoutTask) : TimeoutManager ι :=
  { manager with task := Function.update manager.task id task }

/-- Every queued task that equals the new one, by value, is removed with it. -/
def addTimerTask (currentTimeMillis : Nat) (id : ι) : TimeoutManager ι :=
  let updated := manager.set id ((manager.task id).updateDueTime currentTimeMillis)
  { updated with
    queue := manager.queue.filter (fun other => updated.task other ≠ updated.task id) ++ [id]
    armings := manager.armings ++ [⟨id, currentTimeMillis, manager.task, manager.queue⟩] }

def cancel (id : ι) : TimeoutManager ι := manager.set id (manager.task id).cancel

@[simp] theorem set_self (id : ι) (task : TimeoutTask) : (manager.set id task).task id = task := by
  simp [set]

@[simp] theorem set_other (id other : ι) (task : TimeoutTask) (different : other ≠ id) :
    (manager.set id task).task other = manager.task other := by
  simp [set, different]

@[simp] theorem addTimerTask_self (currentTimeMillis : Nat) (id : ι) :
    (manager.addTimerTask currentTimeMillis id).task id =
      (manager.task id).updateDueTime currentTimeMillis :=
  set_self ..

@[simp] theorem addTimerTask_other (currentTimeMillis : Nat) (id other : ι) (different : other ≠ id) :
    (manager.addTimerTask currentTimeMillis id).task other = manager.task other :=
  set_other _ _ _ _ different

@[simp] theorem cancel_self (id : ι) : (manager.cancel id).task id = (manager.task id).cancel :=
  set_self ..

@[simp] theorem cancel_other (id other : ι) (different : other ≠ id) :
    (manager.cancel id).task other = manager.task other :=
  set_other _ _ _ _ different

@[simp] theorem addTimerTask_timeout (currentTimeMillis : Nat) (id other : ι) :
    ((manager.addTimerTask currentTimeMillis id).task other).timeout = (manager.task other).timeout := by
  by_cases same : other = id
  · rw [same, addTimerTask_self]
    rfl
  · rw [addTimerTask_other _ _ _ _ same]

@[simp] theorem cancel_timeout (id other : ι) :
    ((manager.cancel id).task other).timeout = (manager.task other).timeout := by
  by_cases same : other = id
  · rw [same, cancel_self]
    rfl
  · rw [cancel_other _ _ _ same]

/-- The next call of `addTimerTask` for a task. -/
def arming (currentTimeMillis : Nat) (id : ι) : Arming ι :=
  ⟨id, currentTimeMillis, manager.task, manager.queue⟩

/-- What a call keeps of the queue: the tasks that do not equal the new one. -/
theorem mem_addTimerTask {currentTimeMillis : Nat} {id other : ι} (different : other ≠ id) :
    other ∈ (manager.addTimerTask currentTimeMillis id).queue ↔
      other ∈ manager.queue ∧ manager.task other ≠ (manager.task id).updateDueTime currentTimeMillis := by
  simp [addTimerTask, different]

theorem self_mem_addTimerTask (currentTimeMillis : Nat) (id : ι) :
    id ∈ (manager.addTimerTask currentTimeMillis id).queue :=
  List.mem_append_right _ (List.mem_singleton_self id)

theorem count_addTimerTask (currentTimeMillis : Nat) (id : ι) :
    (manager.addTimerTask currentTimeMillis id).queue.count id = 1 := by
  have removed : id ∉ manager.queue.filter (fun other =>
      (manager.set id ((manager.task id).updateDueTime currentTimeMillis)).task other ≠
        (manager.set id ((manager.task id).updateDueTime currentTimeMillis)).task id) := by simp
  rw [addTimerTask, List.count_append, List.count_eq_zero_of_not_mem removed, List.count_singleton_self]

/-- A call loses no other task exactly if none in the queue equals the new one. -/
theorem addTimerTask_keeps_iff (currentTimeMillis : Nat) (id : ι) :
    (∀ other ∈ manager.queue, other ≠ id →
      other ∈ (manager.addTimerTask currentTimeMillis id).queue) ↔
      (manager.arming currentTimeMillis id).Alone := by
  constructor
  · intro kept other queued different
    exact ((manager.mem_addTimerTask different).mp (kept other queued different)).2
  · intro alone other queued different
    exact (manager.mem_addTimerTask different).mpr ⟨queued, alone other queued different⟩

/-- Unless some call has lost a task, every planned task is in the queue, the one the
manager has taken apart. -/
def Queued (taken : Option ι) : Prop :=
  (∀ arming ∈ manager.armings, arming.Alone) →
    ∀ id, some id ≠ taken → (manager.task id).isPlanned = true → id ∈ manager.queue

namespace Queued

variable {manager} {taken : Option ι}

theorem addTimerTask (queued : manager.Queued taken) (currentTimeMillis : Nat) (id : ι) :
    (manager.addTimerTask currentTimeMillis id).Queued taken := by
  intro alone other untaken planned
  by_cases same : other = id
  · rw [same]
    exact manager.self_mem_addTimerTask currentTimeMillis id
  · have before : ∀ arming ∈ manager.armings, arming.Alone := fun arming member =>
      alone arming (List.mem_append_left _ member)
    have last : (manager.arming currentTimeMillis id).Alone :=
      alone _ (List.mem_append_right _ (List.mem_singleton_self _))
    rw [manager.addTimerTask_other _ _ _ same] at planned
    exact (manager.addTimerTask_keeps_iff currentTimeMillis id).mpr last other
      (queued before other untaken planned) same

theorem set (queued : manager.Queued taken) (id : ι) {task : TimeoutTask}
    (idle : task.isPlanned = false) : (manager.set id task).Queued taken := by
  intro alone other untaken planned
  by_cases same : other = id
  · subst same
    rw [set_self, idle] at planned
    cases planned
  · rw [set_other _ _ _ _ same] at planned
    exact queued alone other untaken planned

theorem cancel (queued : manager.Queued taken) (id : ι) : (manager.cancel id).Queued taken :=
  queued.set id (TimeoutTask.cancel_isPlanned _)

theorem take (queued : manager.Queued none) (id : ι) :
    TimeoutManager.Queued { manager with queue := manager.queue.erase id } (some id) := by
  intro alone other untaken planned
  have different : other ≠ id := fun same => untaken (congrArg some same)
  exact (List.mem_erase_of_ne different).mpr (queued alone other (by simp) planned)

omit [DecidableEq ι] in
theorem back {id : ι} (queued : manager.Queued (some id)) (idle : (manager.task id).isPlanned = false) :
    manager.Queued none := by
  intro alone other _ planned
  refine queued alone other (fun same => ?_) planned
  obtain rfl := Option.some.inj same
  rw [idle] at planned
  cases planned

end Queued

end TimeoutManager

end J60870
