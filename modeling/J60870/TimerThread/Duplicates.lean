import J60870.TimerThread
import Mathlib.Data.List.Nodup

namespace J60870

open Lib

namespace TimerThread

variable {ι : Type} [DecidableEq ι] {s t : TimerThread ι}

/-- The task in the hand of the thread, before the thread has given it back or has found
it due. -/
def held (s : TimerThread ι) : Option ι :=
  match s.point with
  | .taken id | .puttingBack id _ => some id
  | _ => none

/-- What the thread gives back, and what it finds due, has not come into the queue again
since it was taken. -/
def NotRearmed (s : TimerThread ι) : CallAction ι → Prop
  | .run .putBack =>
    match s.point with
    | .puttingBack id _ => id ∉ s.manager.queue
    | _ => True
  | .run .readTime =>
    match s.point with
    | .taken id =>
      (s.manager.task id).sleepTimeFromDueTime s.currentTimeMillis ≤ 0 → id ∉ s.manager.queue
    | _ => True
  | _ => True

/-- A task that was armed is in the queue, in the hand of the thread, or was found due, and
once in all. If it was armed again in the hand of the thread it is the queued one that
counts. -/
structure Single (s : TimerThread ι) : Prop where
  once : ∀ id, s.runs id + s.manager.queue.count id ≤ 1
  held : ∀ id, s.held = some id → id ∉ s.manager.queue → s.runs id = 0

namespace Single

private theorem congr (single : Single s) (queue : t.manager.queue = s.manager.queue)
    (held : t.held = s.held) (runs : t.runs = s.runs) : Single t where
  once := by rw [queue, runs]; exact single.once
  held := by rw [queue, held, runs]; exact single.held

private theorem letGo (single : Single s) (queue : t.manager.queue = s.manager.queue)
    (held : t.held = none) (runs : t.runs = s.runs) : Single t where
  once := by rw [queue, runs]; exact single.once
  held id now := by
    rw [held] at now
    cases now

private theorem take (single : Single s) {id : ι} (queued : id ∈ s.manager.queue) :
    Single { s with manager := s.manager.take id, point := .taken id } where
  once other := by
    have once := single.once other
    have fewer : (s.manager.queue.erase id).count other ≤ s.manager.queue.count other :=
      List.Sublist.count_le other List.erase_sublist
    simp only [TimeoutManager.take]
    omega
  held other now _ := by
    obtain rfl : id = other := Option.some.inj now
    have once := single.once id
    have positive : 0 < s.manager.queue.count id := List.count_pos_iff.mpr queued
    simp only
    omega

private theorem putBack (single : Single s) {id : ι} {sleepMillis : Int}
    (point : s.point = .puttingBack id sleepMillis) (absent : id ∉ s.manager.queue) :
    Single { s with manager := s.manager.add id, point := .entering sleepMillis } where
  once other := by
    by_cases same : other = id
    · subst same
      have none := single.held other (by rw [TimerThread.held, point]) absent
      simp [TimeoutManager.add, List.count_append, List.count_eq_zero_of_not_mem absent, none]
    · have once := single.once other
      simpa [TimeoutManager.add, List.count_append, Ne.symm same] using once
  held other now := by cases now

private theorem foundDue (single : Single s) {id : ι} (point : s.point = .taken id)
    (absent : id ∉ s.manager.queue) :
    Single { s with point := .executing id, runs := Function.update s.runs id (s.runs id + 1) } where
  once other := by
    by_cases same : other = id
    · subst same
      have none := single.held other (by rw [TimerThread.held, point]) absent
      simp [List.count_eq_zero_of_not_mem absent, none]
    · have once := single.once other
      simpa [same] using once
  held other now := by cases now

private theorem addTimerTask (single : Single s) (id : ι) : Single (s.addTimerTask id) := by
  have armed : Single { s with
      manager := s.manager.addTimerTask s.currentTimeMillis id
      runs := Function.update s.runs id 0 } := by
    constructor
    case once =>
      intro other
      by_cases same : other = id
      · subst same
        simp [TimeoutManager.count_addTimerTask]
      · have once := single.once other
        have fewer : (s.manager.addTimerTask s.currentTimeMillis id).queue.count other ≤
            s.manager.queue.count other := by
          rw [TimeoutManager.addTimerTask, List.count_append, List.count_singleton, if_neg (by simpa using Ne.symm same)]
          exact List.Sublist.count_le other List.filter_sublist
        simp only [Function.update_of_ne same]
        omega
    case held =>
      intro other now absent
      by_cases same : other = id
      · rw [same]
        exact Function.update_self ..
      · simp only [Function.update_of_ne same]
        by_cases before : other ∈ s.manager.queue
        · -- The call has removed it with the duplicates, and it was not found due before.
          have once := single.once other
          have positive : 0 < s.manager.queue.count other := List.count_pos_iff.mpr before
          omega
        · exact single.held other now before
  refine armed.congr (congrArg TimeoutManager.queue (notifyLock_manager _)) ?_ (notifyLock_runs _)
  cases point : s.point <;> simp [TimerThread.addTimerTask, notifyLock, point, TimerThread.held]

private theorem step {action : CallAction ι} (single : Single s) (alone : NotRearmed s action)
    (taken : callStep s action = some t) : Single t := by
  cases action with
  | addTimerTask id =>
    cases taken
    exact single.addTimerTask id
  | run action =>
    cases action with
    | loop =>
      obtain ⟨point, ⟨⟩⟩ := Option.ite_none_right_eq_some.mp taken
      refine single.letGo rfl ?_ rfl
      cases s.canceled <;> rfl
    | take id =>
      obtain ⟨⟨_, queued⟩, ⟨⟩⟩ := Option.ite_none_right_eq_some.mp taken
      exact single.take queued
    | readTime =>
      cases point : s.point <;> simp only [callStep, runStep, NotRearmed, point] at taken alone
      case taken id =>
        split at taken
        · cases taken
          exact single.congr rfl (by rw [TimerThread.held, TimerThread.held, point]) rfl
        · next due =>
          cases taken
          exact single.foundDue point (alone (Int.not_lt.mp due))
      all_goals cases taken
    | putBack =>
      cases point : s.point <;> simp only [callStep, runStep, NotRearmed, point] at taken alone
      case puttingBack id sleepMillis =>
        cases taken
        exact single.putBack point alone
      all_goals cases taken
    | enterWait =>
      cases point : s.point <;> simp only [callStep, runStep, point] at taken <;> cases taken
      exact single.letGo rfl rfl rfl
    | wake =>
      cases point : s.point <;> simp only [callStep, runStep, point] at taken <;> cases taken
      exact single.letGo rfl rfl rfl
    | execute =>
      cases point : s.point <;> simp only [callStep, runStep, point] at taken <;> cases taken
      refine single.letGo ?_ rfl rfl
      simp only [executed]
      split <;> rfl
    | interrupt =>
      cases point : s.point <;> simp only [callStep, runStep, point] at taken <;> cases taken <;>
        exact single.letGo rfl rfl rfl
    | tick milliseconds =>
      cases taken
      exact single.congr rfl rfl rfl
    | cancelTask id =>
      cases taken
      exact single.congr rfl rfl rfl
    | cancel =>
      cases taken
      exact single.congr rfl rfl rfl

end Single

/-- As long as the thread never gives back, and never finds due, a task that was armed again
while the thread had it in hand, no task is in the queue twice, and one that was armed is
found due at most once. -/
theorem no_duplicates {task : ι → TimeoutTask} {now : Nat} {actions : List (CallAction ι)}
    (run : Run (Run.Guarded NotRearmed fun s action t => callStep s action = some t) (new task now) actions s) :
    s.manager.queue.Nodup ∧ ∀ id, s.runs id ≤ 1 := by
  have start : Single (new task now) := ⟨fun _ => by simp [new], fun _ _ _ => rfl⟩
  have single : Single s := run.invariant start fun _ _ _ single taken => single.step taken.1 taken.2
  refine ⟨List.nodup_iff_count_le_one.mpr fun id => ?_, fun id => ?_⟩
  · have once := single.once id
    omega
  · have once := single.once id
    omega

def sampleTask (_ : Nat) : TimeoutTask := ⟨1000, 0, false, false⟩

def sampleArmed : List (CallAction Nat) :=
  [.addTimerTask 0, .run .loop, .run (.take 0), .run .readTime, .run .putBack, .run .enterWait,
    .addTimerTask 0, .run (.tick 1000), .run (.take 0), .run .readTime, .run .execute]

theorem no_duplicates_sample :
    ∃ s, Run (fun s action t => callStep s action = some t) (new sampleTask 0) sampleArmed s ∧
      s.manager.queue.Nodup ∧ s.runs 0 = 1 ∧ s.runs 0 ≤ 1 := by
  have ends : ∃ s, Run.perform callStep (new sampleTask 0) sampleArmed = some s ∧ s.runs 0 = 1 ∧
      Run.Meets callStep NotRearmed (new sampleTask 0) sampleArmed :=
    ⟨_, rfl, rfl, trivial, trivial, trivial, fun _ => by decide, (by decide : (0 : Nat) ∉ []), trivial, trivial,
      trivial, trivial, fun _ => by decide, trivial, trivial⟩
  obtain ⟨s, ends, one, meets⟩ := ends
  have run := Run.guarded_of_perform ends meets
  obtain ⟨nodup, runs⟩ := no_duplicates run
  exact ⟨s, run.unguarded, nodup, one, runs 0⟩

/-- The task is armed again when the thread has read its time and has not put it back. -/
def sampleRearmed : List (CallAction Nat) :=
  [.addTimerTask 0, .run .loop, .run (.take 0), .run .readTime, .addTimerTask 0, .run .putBack]

/-- The task is in the queue twice then, and runs twice when it is due. -/
theorem duplicates :
    (∃ s, Run (fun s action t => callStep s action = some t) (new sampleTask 0) sampleRearmed s ∧
      ¬ s.manager.queue.Nodup) ∧
    ∃ s, Run (fun s action t => callStep s action = some t) (new sampleTask 0)
        (sampleRearmed ++ [.run .enterWait, .run (.tick 1000), .run .wake, .run (.take 0), .run .readTime,
          .run .execute, .run .loop, .run (.take 0), .run .readTime]) s ∧
      s.runs 0 = 2 := by
  have first : ∃ s, Run.perform callStep (new sampleTask 0) sampleRearmed = some s ∧
      s.manager.queue = [0, 0] := ⟨_, rfl, rfl⟩
  obtain ⟨s, ends, queue⟩ := first
  refine ⟨⟨s, Run.of_perform ends, ?_⟩, _, Run.of_perform rfl, rfl⟩
  rw [queue]
  decide

end TimerThread

end J60870
