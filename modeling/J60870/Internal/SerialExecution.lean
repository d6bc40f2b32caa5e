import J60870.Internal.SerialExecutor
import J60870.Lib.Run
import Mathlib.Data.List.Range
import Mathlib.Data.List.Nodup
import Mathlib.Logic.Function.Basic

/-! A serial executor over an executor that runs every submitted task once, at any time and
on any thread. The calls of `execute` take the lock one after the other, and wrap task
number `n` in the `n`th of them. -/

namespace J60870

open Lib

/-- How far a task is. -/
inductive Phase
  | offered
  /-- given to the underlying executor, which has not begun to run it -/
  | submitted
  | running
  /-- `r.run()` has returned or thrown, and `scheduleNext` is still to come -/
  | leaving
  | finished
  deriving DecidableEq, Repr

structure SerialExecution (R : Type) where
  executor : SerialExecutor Nat := {}
  /-- the arguments of `execute`, in the order the lock was acquired in -/
  order : List R := []
  /-- the calls of the underlying executor -/
  submitted : List Nat := []
  /-- the tasks whose `run` was called -/
  begun : List Nat := []
  phase : Nat → Phase := fun _ => .offered

namespace SerialExecution

variable {R : Type} (s : SerialExecution R)

/-- `executor.execute(active)`, unless `active` is `null` -/
def submit : SerialExecution R :=
  match s.executor.active with
  | some task =>
    { s with
      submitted := s.submitted ++ [task]
      phase := Function.update s.phase task .submitted }
  | none => s

def scheduleNext : SerialExecution R := submit { s with executor := s.executor.scheduleNext }

/-- `execute`, which submits the task itself if none is active. -/
def execute (r : R) : SerialExecution R :=
  let offered := { s with order := s.order ++ [r], executor := s.executor.execute s.order.length }
  if s.executor.active.isNone then offered.submit else offered

inductive Action (R : Type)
  /-- any thread calls `execute`, a running task included -/
  | execute (r : R)
  | begin (task : Nat)
  /-- `r.run()` returns, or throws -/
  | leave (task : Nat) (throws : Bool)
  /-- the `finally` block of a task -/
  | scheduleNext (task : Nat)

def enter (task : Nat) (phase : Phase) : SerialExecution R :=
  { s with phase := Function.update s.phase task phase }

def step : Action R → Option (SerialExecution R)
  | .execute r => some (s.execute r)
  | .begin task =>
    if s.phase task = .submitted then some { s.enter task .running with begun := s.begun ++ [task] }
    else none
  | .leave task _ => if s.phase task = .running then some (s.enter task .leaving) else none
  | .scheduleNext task =>
    if s.phase task = .leaving then some (s.enter task .finished).scheduleNext else none

def Step (s : SerialExecution R) (action : Action R) (t : SerialExecution R) : Prop :=
  s.step action = some t

/-- A task is with the underlying executor until it has handed over to the next one. -/
def Unfinished (task : Nat) : Prop :=
  s.phase task = .submitted ∨ s.phase task = .running ∨ s.phase task = .leaving

/-- The active task is the one that is unfinished, and the last one submitted. -/
structure Serial : Prop where
  unfinished : ∀ task, s.Unfinished task ↔ s.executor.active = some task
  scheduled : s.executor.Scheduled
  order : s.submitted ++ s.executor.tasks = List.range s.order.length
  submitted : ∀ task, s.phase task ≠ .offered → task ∈ s.submitted
  begun : ∀ task ∈ s.begun, s.phase task ≠ .offered ∧ s.phase task ≠ .submitted
  once : s.begun.Nodup

variable {s}

namespace Serial

/-- The next task is submitted when none is unfinished. -/
theorem scheduleNext (scheduled : ∀ task, ¬ s.Unfinished task)
    (order : s.submitted ++ s.executor.tasks = List.range s.order.length)
    (submitted : ∀ task, s.phase task ≠ .offered → task ∈ s.submitted)
    (begun : ∀ task ∈ s.begun, s.phase task ≠ .offered ∧ s.phase task ≠ .submitted)
    (once : s.begun.Nodup) : s.scheduleNext.Serial := by
  cases tasks : s.executor.tasks with
  | nil =>
    have idle : s.scheduleNext = { s with executor := ⟨[], none⟩ } := by
      simp [SerialExecution.scheduleNext, SerialExecutor.scheduleNext, submit, tasks]
    rw [idle]
    rw [tasks] at order
    exact ⟨fun task => iff_of_false (scheduled task) (by simp), fun _ => rfl, order, submitted, begun,
      once⟩
  | cons first rest =>
    have next : s.scheduleNext = { s with
        executor := ⟨rest, some first⟩
        submitted := s.submitted ++ [first]
        phase := Function.update s.phase first .submitted } := by
      simp [SerialExecution.scheduleNext, SerialExecutor.scheduleNext, submit, tasks]
    rw [tasks] at order
    -- the task comes out of the queue, so it has not been submitted before
    have fresh : first ∉ s.submitted := by
      have distinct := List.nodup_range (n := s.order.length)
      rw [← order] at distinct
      intro member
      exact List.disjoint_of_nodup_append distinct member (List.mem_cons_self)
    have unknown : s.phase first = .offered := by
      by_contra known
      exact fresh (submitted first known)
    rw [next]
    refine ⟨fun task => ?_, ?_, ?_, fun task known => ?_, fun task member => ?_, once⟩
    · by_cases same : task = first
      · subst same
        simp [Unfinished]
      · have other := scheduled task
        simp only [Unfinished] at other ⊢
        simp [same, Ne.symm same, other]
    · intro idle
      cases idle
    · rw [List.append_assoc]
      exact order
    · by_cases same : task = first
      · exact List.mem_append_right _ (List.mem_singleton.mpr same)
      · simp only [Function.update_of_ne same] at known
        exact List.mem_append_left _ (submitted task known)
    · have different : task ≠ first := by
        rintro rfl
        exact (begun task member).1 unknown
      simp only [Function.update_of_ne different]
      exact begun task member

/-- A task that goes on was submitted before, so what is known of the phases stays true. -/
theorem enter_submitted (serial : s.Serial) {task : Nat} (phase : Phase)
    (known : s.phase task ≠ .offered) :
    ∀ other, (s.enter task phase).phase other ≠ .offered → other ∈ s.submitted := by
  intro other entered
  by_cases same : other = task
  · subst same
    exact serial.submitted other known
  · simp only [SerialExecution.enter, Function.update_of_ne same] at entered
    exact serial.submitted other entered

theorem enter_begun (serial : s.Serial) {task : Nat} {phase : Phase}
    (inside : phase ≠ .offered ∧ phase ≠ .submitted) :
    ∀ other ∈ s.begun, (s.enter task phase).phase other ≠ .offered ∧
      (s.enter task phase).phase other ≠ .submitted := by
  intro other member
  by_cases same : other = task
  · subst same
    simpa [SerialExecution.enter] using inside
  · simp only [SerialExecution.enter, Function.update_of_ne same]
    exact serial.begun other member

theorem enter (serial : s.Serial) {task : Nat} {phase : Phase} (unfinished : s.Unfinished task)
    (goesOn : phase = .running ∨ phase = .leaving) : (s.enter task phase).Serial := by
  have known : s.phase task ≠ .offered := by
    rcases unfinished with now | now | now <;> simp [now]
  have inside : phase ≠ .offered ∧ phase ≠ .submitted := by
    rcases goesOn with rfl | rfl <;> simp
  refine { serial with unfinished := fun other => ?_, submitted := serial.enter_submitted phase known,
                       begun := serial.enter_begun inside }
  rw [SerialExecution.enter, ← serial.unfinished other]
  by_cases same : other = task
  · subst same
    refine iff_of_true ?_ unfinished
    rcases goesOn with rfl | rfl <;> simp [Unfinished]
  · simp [Unfinished, Function.update_of_ne same]

theorem step (serial : s.Serial) {action : Action R} {t : SerialExecution R} (taken : Step s action t) :
    t.Serial := by
  cases action with
  | execute r =>
    obtain rfl := Option.some.inj taken
    have order : s.submitted ++ (s.executor.tasks ++ [s.order.length]) =
        List.range (s.order ++ [r]).length := by
      rw [← List.append_assoc, serial.order, List.length_append, List.length_singleton,
        List.range_succ]
    cases active : s.executor.active with
    | none =>
      have idle (task) : ¬ s.Unfinished task := by
        rw [serial.unfinished, active]
        simp
      have next : s.execute r = SerialExecution.scheduleNext { s with
          order := s.order ++ [r]
          executor := ⟨s.executor.tasks ++ [s.order.length], none⟩ } := by
        simp [execute, SerialExecutor.execute, SerialExecution.scheduleNext, active]
      rw [next]
      exact scheduleNext idle order serial.submitted serial.begun serial.once
    | some task =>
      have queued : s.execute r = { s with
          order := s.order ++ [r]
          executor := ⟨s.executor.tasks ++ [s.order.length], some task⟩ } := by
        simp [execute, SerialExecutor.execute, active]
      rw [queued]
      exact { serial with
        unfinished := fun other => active ▸ serial.unfinished other
        scheduled := fun none => absurd none (by simp)
        order := order }
  | begin task =>
    obtain ⟨now, ⟨⟩⟩ := Option.ite_none_right_eq_some.mp taken
    have fresh : task ∉ s.begun := fun member => (serial.begun task member).2 now
    have entered := serial.enter (.inl now) (.inl rfl)
    refine { entered with begun := fun other member => ?_, once := ?_ }
    · rcases List.mem_append.mp member with before | now
      · exact entered.begun other before
      · obtain rfl := List.mem_singleton.mp now
        simp [SerialExecution.enter]
    · refine List.nodup_append.mpr ⟨serial.once, List.nodup_singleton task, fun other member last => ?_⟩
      rintro only rfl
      rw [List.mem_singleton.mp only] at member
      exact fresh member
  | leave task throws =>
    obtain ⟨now, ⟨⟩⟩ := Option.ite_none_right_eq_some.mp taken
    exact serial.enter (.inr (.inl now)) (.inr rfl)
  | scheduleNext task =>
    obtain ⟨now, ⟨⟩⟩ := Option.ite_none_right_eq_some.mp taken
    have active : s.executor.active = some task := (serial.unfinished task).mp (.inr (.inr now))
    refine scheduleNext (fun other unfinished => ?_) serial.order
      (serial.enter_submitted .finished (by simp [now])) (serial.enter_begun (by simp)) serial.once
    by_cases same : other = task
    · subst same
      simp [Unfinished, SerialExecution.enter] at unfinished
    · simp only [Unfinished, SerialExecution.enter, Function.update_of_ne same] at unfinished
      have also := (serial.unfinished other).mp unfinished
      exact same (Option.some.inj (also.symm.trans active))

theorem of_run {actions : List (Action R)} (run : Run Step {} actions s) : s.Serial := by
  refine run.invariant ?_ fun _ _ _ serial taken => serial.step taken
  refine ⟨fun task => iff_of_false (by simp [Unfinished]) (by simp), fun _ => rfl, rfl,
    fun _ known => absurd rfl known, fun _ member => ?_, List.nodup_nil⟩
  cases member

end Serial

/-- In every state reached at most one task is with the underlying executor and unfinished;
the tasks were submitted in the order the lock was acquired in, and none of them has been begun
twice; and where none is unfinished, none is queued. -/
theorem serial_execution {actions : List (Action R)} (run : Run Step {} actions s) :
    (∀ task other, s.Unfinished task → s.Unfinished other → task = other) ∧
    s.submitted ++ s.executor.tasks = List.range s.order.length ∧
    s.begun.Nodup ∧
    ((∀ task, ¬ s.Unfinished task) → s.executor.tasks = []) := by
  have serial := Serial.of_run run
  refine ⟨fun task other first second => ?_, serial.order, serial.once, fun finished => ?_⟩
  · have one := (serial.unfinished task).mp first
    have two := (serial.unfinished other).mp second
    exact Option.some.inj (one.symm.trans two)
  · refine serial.scheduled ?_
    cases active : s.executor.active with
    | none => rfl
    | some task => exact absurd ((serial.unfinished task).mpr active) (finished task)

/-- Three tasks, the last one handed over by the first one, which then throws. -/
theorem serial_execution_sample :
    ∃ s : SerialExecution Char, Run Step {} [.execute 'a', .execute 'b', .begin 0, .execute 'c',
        .leave 0 true, .scheduleNext 0, .begin 1] s ∧
      s.order = ['a', 'b', 'c'] ∧ s.submitted = [0, 1] ∧ s.begun = [0, 1] ∧
      s.submitted ++ s.executor.tasks = List.range 3 := by
  have reached : Run Step ({} : SerialExecution Char) [.execute 'a', .execute 'b', .begin 0,
      .execute 'c', .leave 0 true, .scheduleNext 0, .begin 1] _ := Run.of_perform rfl
  exact ⟨_, reached, rfl, rfl, rfl, (serial_execution reached).2.1⟩

end SerialExecution

end J60870
