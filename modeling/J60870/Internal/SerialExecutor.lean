import Mathlib.Logic.Basic

namespace J60870

/-- The queued tasks, and the one its pool has been given. -/
structure SerialExecutor (R : Type) where
  tasks : List R := []
  active : Option R := none

namespace SerialExecutor

variable {R : Type} (executor : SerialExecutor R)

def scheduleNext : SerialExecutor R :=
  match executor.tasks with
  | r :: rest => ⟨rest, some r⟩
  | [] => ⟨[], none⟩

def execute (r : R) : SerialExecutor R :=
  let offered := { executor with tasks := executor.tasks ++ [r] }
  if executor.active.isNone then offered.scheduleNext else offered

/-- The tasks that have not been run, the next one first. -/
def queue : List R := executor.active.toList ++ executor.tasks

/-- The pool has a task as long as there is one. -/
def Scheduled : Prop := executor.active = none → executor.tasks = []

variable {executor}

@[simp] theorem execute_queue (r : R) : (executor.execute r).queue = executor.queue ++ [r] := by
  cases active : executor.active with
  | none => cases tasks : executor.tasks <;> simp [execute, scheduleNext, queue, active, tasks]
  | some first => simp [execute, queue, active]

theorem scheduleNext_queue {r : R} (active : executor.active = some r) :
    executor.queue = r :: executor.scheduleNext.queue := by
  cases tasks : executor.tasks <;> simp [scheduleNext, queue, active, tasks]

theorem execute_scheduled (r : R) (scheduled : executor.Scheduled) : (executor.execute r).Scheduled := by
  cases active : executor.active with
  | none => simp [execute, scheduleNext, Scheduled, active, scheduled active]
  | some first => simp [execute, Scheduled, active]

theorem scheduleNext_scheduled : executor.scheduleNext.Scheduled := by
  cases tasks : executor.tasks <;> simp [scheduleNext, Scheduled, tasks]

theorem Scheduled.exists_active (scheduled : executor.Scheduled) (pending : executor.queue ≠ []) :
    ∃ r, executor.active = some r := by
  cases active : executor.active with
  | none => simp [queue, active, scheduled active] at pending
  | some r => exact ⟨r, rfl⟩

end SerialExecutor

end J60870
