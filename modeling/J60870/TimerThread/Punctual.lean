import J60870.TimerThread.Oversleeping

namespace J60870

open Lib

namespace TimerThread

variable {ι : Type} {s t : TimerThread ι} {id : ι}

def Arms (id : ι) (_ : TimerThread ι) (action : PartAction ι) (_ : TimerThread ι) : Prop :=
  ∃ thread, action = .updateDueTime thread id

/-- The task is neither armed nor cancelled. -/
def LeavesAlone (id : ι) (_ : TimerThread ι) (action : PartAction ι) (_ : TimerThread ι) : Prop :=
  (∀ thread, action ≠ .updateDueTime thread id) ∧ action ≠ .run (.cancelTask id)

/-- The manager, its thread or a call of `addTimerTask` holds the task. -/
def Holds (s : TimerThread ι) (id : ι) : Prop :=
  id ∈ s.manager.queue ∨ (s.point = .taken id ∨ s.point = .executing id ∨
    ∃ sleepMillis, s.point = .puttingBack id sleepMillis) ∨
  ∃ thread, s.calls thread = .dueTimeSet id ∨ s.calls thread = .duplicatesRemoved id

/-- What a step does to a task that it neither arms nor cancels. -/
structure Spares (id : ι) (s t : TimerThread ι) : Prop where
  later : s.currentTimeMillis ≤ t.currentTimeMillis
  dueTime : (t.manager.task id).dueTime = (s.manager.task id).dueTime
  timeout : (t.manager.task id).timeout = (s.manager.task id).timeout
  canceled : (t.manager.task id).canceled = (s.manager.task id).canceled
  holds : t.Holds id → s.Holds id
  executing : t.point = .executing id → s.point = .executing id ∨
    (s.manager.task id).dueTime ≤ s.currentTimeMillis

private theorem Spares.of_tasks (task : t.manager.task = s.manager.task) (holds : t.Holds id → s.Holds id)
    (executing : t.point = .executing id → s.point = .executing id ∨
      (s.manager.task id).dueTime ≤ s.currentTimeMillis)
    (later : s.currentTimeMillis ≤ t.currentTimeMillis := by exact Nat.le_refl _) : Spares id s t := by
  constructor
  · exact later
  · rw [task]
  · rw [task]
  · rw [task]
  · exact holds
  · exact executing

variable [DecidableEq ι]

private theorem executed_task (s : TimerThread ι) (other id : ι) :
    ∃ done, (s.executed other).task id = { s.manager.task id with done := done } := by
  rw [executed]
  split
  · exact ⟨_, rfl⟩
  · by_cases same : id = other
    · subst same
      exact ⟨true, TimeoutManager.set_self ..⟩
    · exact ⟨_, TimeoutManager.set_other _ _ _ _ same⟩

private theorem executed_queue (s : TimerThread ι) (other : ι) :
    (s.executed other).queue = s.manager.queue := by
  rw [executed]
  split <;> rfl

private theorem spares_runStep {action : RunAction ι} (other : action ≠ .cancelTask id)
    (taken : runStep s action = some t) : Spares id s t := by
  cases action with
  | loop =>
    obtain ⟨point, ⟨⟩⟩ := Option.ite_none_right_eq_some.mp taken
    refine .of_tasks rfl (fun holds => ?_) fun executing => ?_
    · cases canceled : s.canceled <;> simpa [Holds, canceled, point] using holds
    · cases canceled : s.canceled <;> simp [canceled] at executing
  | take id =>
    obtain ⟨⟨point, queued⟩, ⟨⟩⟩ := Option.ite_none_right_eq_some.mp taken
    refine .of_tasks rfl (fun holds => ?_) fun executing => by cases executing
    rcases holds with inQueue | ⟨held | held | ⟨_, held⟩⟩ | called
    · exact .inl (List.mem_of_mem_erase inQueue)
    · cases held
      exact .inl queued
    · cases held
    · cases held
    · exact .inr (.inr called)
  | readTime =>
    cases point : s.point <;> simp only [runStep, point] at taken
    case taken id =>
      split at taken
      · cases taken
        refine .of_tasks rfl (fun holds => ?_) fun executing => by cases executing
        rcases holds with inQueue | ⟨held | held | ⟨_, held⟩⟩ | called
        · exact .inl inQueue
        · cases held
        · cases held
        · cases held
          exact .inr (.inl (.inl point))
        · exact .inr (.inr called)
      · rename_i due
        cases taken
        refine .of_tasks rfl (fun holds => ?_) fun executing => ?_
        · rcases holds with inQueue | ⟨held | held | ⟨_, held⟩⟩ | called
          · exact .inl inQueue
          · cases held
          · cases held
            exact .inr (.inl (.inl point))
          · cases held
          · exact .inr (.inr called)
        · cases executing
          simp only [TimeoutTask.sleepTimeFromDueTime] at due
          exact .inr (by omega)
    all_goals cases taken
  | putBack =>
    cases point : s.point <;> simp only [runStep, point] at taken <;> cases taken
    refine .of_tasks rfl (fun holds => ?_) fun executing => by cases executing
    rcases holds with inQueue | ⟨held | held | ⟨_, held⟩⟩ | called
    · rcases List.mem_append.mp inQueue with before | back
      · exact .inl before
      · rw [List.mem_singleton.mp back]
        exact .inr (.inl (.inr (.inr ⟨_, point⟩)))
    · cases held
    · cases held
    · cases held
    · exact .inr (.inr called)
  | enterWait =>
    cases point : s.point <;> simp only [runStep, point] at taken <;> cases taken
    exact .of_tasks rfl (fun holds => by simpa [Holds, point] using holds) fun executing => by cases executing
  | wake =>
    cases point : s.point <;> simp only [runStep, point] at taken <;> cases taken
    exact .of_tasks rfl (fun holds => by simpa [Holds, point] using holds) fun executing => by cases executing
  | execute =>
    cases point : s.point <;> simp only [runStep, point] at taken <;> cases taken
    rename_i other
    obtain ⟨done, task⟩ := executed_task s other id
    refine ⟨Nat.le_refl _, by rw [task], by rw [task], by rw [task], fun holds => ?_,
      fun executing => by cases executing⟩
    rcases holds with inQueue | ⟨held | held | ⟨_, held⟩⟩ | called
    · rw [executed_queue] at inQueue
      exact .inl inQueue
    · cases held
    · cases held
    · cases held
    · exact .inr (.inr called)
  | interrupt =>
    cases point : s.point <;> simp only [runStep, point] at taken <;> cases taken <;>
      exact .of_tasks rfl (fun holds => by simpa [Holds, point] using holds) fun executing => by cases executing
  | tick milliseconds =>
    cases taken
    exact .of_tasks rfl (fun holds => holds) .inl (Nat.le_add_right _ _)
  | cancelTask cancelled =>
    cases taken
    have task : (s.manager.cancel cancelled).task id = s.manager.task id :=
      TimeoutManager.cancel_other _ _ _ fun same => other (congrArg RunAction.cancelTask same.symm)
    exact ⟨Nat.le_refl _, by rw [task], by rw [task], by rw [task], fun holds => holds, .inl⟩
  | cancel =>
    cases taken
    exact .of_tasks rfl (fun holds => holds) .inl

omit [DecidableEq ι] in
private theorem holds_setCall {thread : Nat} {call : AddCall ι} (calls : t.calls = s.calls)
    (queue : id ∈ t.manager.queue → s.Holds id)
    (point : (t.point = .taken id ∨ t.point = .executing id ∨
      ∃ sleepMillis, t.point = .puttingBack id sleepMillis) → s.Holds id)
    (called : call = .dueTimeSet id ∨ call = .duplicatesRemoved id → s.Holds id)
    (holds : (t.setCall thread call).Holds id) : s.Holds id := by
  rcases holds with inQueue | held | ⟨other, inside⟩
  · exact queue inQueue
  · exact point held
  · by_cases same : other = thread
    · simp only [setCall, same, Function.update_self] at inside
      exact called inside
    · simp only [setCall, Function.update_of_ne same, calls] at inside
      exact .inr (.inr ⟨other, inside⟩)

private theorem spares_partStep {action : PartAction ι} (alone : LeavesAlone id s action t)
    (taken : partStep s action = some t) : Spares id s t := by
  obtain ⟨unarmed, uncancelled⟩ := alone
  cases action with
  | run action => exact spares_runStep (fun same => uncancelled (congrArg PartAction.run same)) taken
  | updateDueTime thread other =>
    cases call : s.calls thread <;> simp only [partStep, call] at taken <;> cases taken
    have different : id ≠ other := fun same => unarmed thread (by rw [same])
    have task : (s.manager.updateDueTime s.currentTimeMillis other).task id = s.manager.task id :=
      TimeoutManager.set_other _ _ _ _ different
    refine ⟨Nat.le_refl _, congrArg _ task, congrArg _ task, congrArg _ task, ?_, .inl⟩
    refine holds_setCall rfl .inl (fun held => .inr (.inl held)) fun begun => ?_
    rcases begun with begun | begun
    · cases begun
      exact absurd rfl different
    · cases begun
  | removeDuplicates thread =>
    cases call : s.calls thread <;> simp only [partStep, call] at taken <;> cases taken
    refine .of_tasks rfl (holds_setCall rfl (fun inQueue => .inl ((List.mem_filter.mp inQueue).1))
      (fun held => .inr (.inl held)) fun begun => ?_) .inl
    rcases begun with begun | begun
    · cases begun
    · cases begun
      exact .inr (.inr ⟨thread, .inl call⟩)
  | add thread =>
    cases call : s.calls thread <;> simp only [partStep, call] at taken <;> cases taken
    refine .of_tasks rfl (holds_setCall rfl (fun inQueue => ?_) (fun held => .inr (.inl held)) fun begun => ?_) .inl
    · rcases List.mem_append.mp inQueue with before | added
      · exact .inl before
      · rw [List.mem_singleton.mp added]
        exact .inr (.inr ⟨thread, .inr call⟩)
    · rcases begun with begun | begun <;> cases begun
  | notifyLock thread =>
    cases call : s.calls thread <;> simp only [partStep, call] at taken <;> cases taken
    have point {p : RunPoint ι} (same : s.notifyLock.point = p) (other : p ≠ .taking) : s.point = p := by
      cases now : s.point <;> simp only [notifyLock, now] at same <;>
        first | exact same | exact absurd same.symm other
    have task : (s.notifyLock.setCall thread .idle).manager.task = s.manager.task :=
      congrArg TimeoutManager.task s.notifyLock_manager
    have later : s.currentTimeMillis ≤ (s.notifyLock.setCall thread .idle).currentTimeMillis := by
      cases now : s.point <;> simp [notifyLock, now, setCall]
    refine .of_tasks task (holds_setCall s.notifyLock_calls (fun inQueue => ?_) (fun held => ?_) fun begun => ?_)
      (fun executing => .inl (point executing (by simp))) later
    · rw [notifyLock_manager] at inQueue
      exact .inl inQueue
    · rcases held with held | held | ⟨sleepMillis, held⟩
      · exact .inr (.inl (.inl (point held (by simp))))
      · exact .inr (.inl (.inr (.inl (point held (by simp)))))
      · exact .inr (.inl (.inr (.inr ⟨sleepMillis, point held (by simp)⟩)))
    · rcases begun with begun | begun <;> cases begun

section Runs

variable {task : ι → TimeoutTask} {now : Nat} {actions : List (PartAction ι)}

private theorem armed_of_run (run : Run (fun s action t => partStep s action = some t) (new task now) actions s)
    (holds : s.Holds id) (live : (s.manager.task id).canceled = false) :
    ∃ b, Run.Since (fun s action t => partStep s action = some t) (Arms id) (LeavesAlone id) (new task now)
        actions b s ∧
      (s.manager.task id).dueTime = b.currentTimeMillis + (s.manager.task id).timeout ∧
      (s.point = .executing id →
        (s.manager.task id).dueTime ≤ s.currentTimeMillis ∨ b.point = .executing id) := by
  -- A task that is held and not cancelled was armed at some time and let alone since. If it is
  -- about to run it is due, or the thread was about to run it then already.
  induction run with
  | start =>
    rcases holds with inQueue | ⟨held | held | ⟨_, held⟩⟩ | ⟨_, inside | inside⟩
    · cases inQueue
    · cases held
    · cases held
    · cases held
    · cases inside
    · cases inside
  | @next actions s t action before last ih =>
    by_cases arms : ∃ thread, action = .updateDueTime thread id
    · refine ⟨s, .begins before last arms, ?_⟩
      obtain ⟨thread, rfl⟩ := arms
      cases call : s.calls thread <;> simp only [partStep, call] at last <;> cases last
      have task : (s.manager.updateDueTime s.currentTimeMillis id).task id =
          (s.manager.task id).updateDueTime s.currentTimeMillis := TimeoutManager.set_self ..
      refine ⟨?_, .inr⟩
      simp only [arm, setCall, task, TimeoutTask.updateDueTime]
    by_cases cancels : action = .run (.cancelTask id)
    · subst cancels
      cases last
      rw [TimeoutManager.cancel_self] at live
      cases live
    have alone : LeavesAlone id s action t := ⟨fun thread armed => arms ⟨thread, armed⟩, cancels⟩
    have spares := spares_partStep alone last
    rw [spares.canceled] at live
    obtain ⟨b, since, due, executing⟩ := ih (spares.holds holds) live
    refine ⟨b, since.next last alone, ?_, fun runs => ?_⟩
    · rw [spares.dueTime, spares.timeout, due]
    · have later := spares.later
      rw [spares.dueTime]
      rcases spares.executing runs with already | found
      · rcases executing already with due | early
        · exact .inl (by omega)
        · exact .inr early
      · exact .inl (by omega)

/-- Whatever threads call `addTimerTask` meanwhile: where the thread of the manager is about to run a task
that is not cancelled, the whole timeout has passed since the task was armed and neither armed again nor
cancelled. The only exception is a task that is armed again after the thread has found it due. -/
theorem never_runs_early
    (run : Run (fun s action t => partStep s action = some t) (new task now) actions s)
    (executing : s.point = .executing id) (live : (s.manager.task id).canceled = false) :
    ∃ b, Run.Since (fun s action t => partStep s action = some t) (Arms id) (LeavesAlone id) (new task now)
        actions b s ∧
      (b.currentTimeMillis + (s.manager.task id).timeout ≤ s.currentTimeMillis ∨ b.point = .executing id) := by
  obtain ⟨b, since, due, found⟩ := armed_of_run run (.inr (.inl (.inr (.inl executing)))) live
  rw [due] at found
  exact ⟨b, since, found executing⟩

end Runs

def sampleDue : List (PartAction Nat) :=
  sampleCall 0 0 ++ [.run (.tick 1000), .run .loop, .run (.take 0), .run .readTime]

theorem never_runs_early_sample :
    ∃ s b, Run.Since (fun s action t => partStep s action = some t) (Arms 0) (LeavesAlone 0)
        (new sampleTimeouts 0) sampleDue b s ∧ s.currentTimeMillis = 1000 ∧
      (b.currentTimeMillis + 1000 ≤ s.currentTimeMillis ∨ b.point = .executing 0) := by
  have ends : ∃ s, Run.perform partStep (new sampleTimeouts 0) sampleDue = some s ∧ s.point = .executing 0 ∧
      s.manager.task 0 = ⟨1000, 1000, false, false⟩ ∧ s.currentTimeMillis = 1000 :=
    ⟨_, rfl, rfl, rfl, rfl⟩
  obtain ⟨s, ends, executing, task, now⟩ := ends
  obtain ⟨b, since, punctual⟩ := never_runs_early (.of_perform ends) executing (by rw [task])
  rw [task] at punctual
  exact ⟨s, b, since, now, punctual.imp_left Int.ofNat_le.mp⟩

/-- The exception: the task is armed again when the thread has found it due, and runs a second early. -/
theorem runs_early :
    ∃ actions s, Run (fun s action t => partStep s action = some t) (new sampleTimeouts 0) actions s ∧
      s.point = .executing 0 ∧ (s.manager.task 0).canceled = false ∧ s.currentTimeMillis = 1000 ∧
      (s.manager.task 0).dueTime = 2000 :=
  ⟨sampleDue ++ sampleCall 0 0, _, Run.of_perform rfl, rfl, rfl, rfl, rfl⟩

end TimerThread

end J60870
