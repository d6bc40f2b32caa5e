import Mathlib.Logic.Basic

/-! Runs of labelled systems, and invariants over all states they reach. -/

namespace Lib

variable {σ A : Type}

/-- `Run step s actions t`: the actions lead from `s` to `t`, each from the state the
ones before it have left. -/
inductive Run (step : σ → A → σ → Prop) (s : σ) : List A → σ → Prop
  | start : Run step s [] s
  | next {actions : List A} {t u : σ} {a : A} (before : Run step s actions t)
      (last : step t a u) : Run step s (actions ++ [a]) u

namespace Run

variable {step : σ → A → σ → Prop} {s t : σ} {actions : List A}

/-- What holds at the start and is kept by every step holds in every state reached. -/
theorem invariant {I : σ → Prop} (run : Run step s actions t) (start : I s)
    (kept : ∀ t a u, I t → step t a u → I u) : I t := by
  induction run with
  | start => exact start
  | next before last ih => exact kept _ _ _ ih last

/-- An invariant that every step keeps where another one holds. -/
theorem invariant_where {I J : σ → Prop} (run : Run step s actions t)
    (others : ∀ actions t, Run step s actions t → J t) (start : I s)
    (kept : ∀ t a u, J t → I t → step t a u → I u) : I t := by
  induction run with
  | start => exact start
  | next before last ih => exact kept _ _ _ (others _ _ before) ih last

/-- A run that makes a measure smaller with every step is no longer than the measure was. -/
theorem length_le {I : σ → Prop} {measure : σ → Nat} (run : Run step s actions t) (start : I s)
    (shrinks : ∀ t a u, I t → step t a u → I u ∧ measure u < measure t) :
    I t ∧ actions.length + measure t ≤ measure s := by
  induction run with
  | start => exact ⟨start, by simp⟩
  | next before last ih =>
    obtain ⟨holds, bound⟩ := ih
    obtain ⟨holds, less⟩ := shrinks _ _ _ holds last
    refine ⟨holds, ?_⟩
    rw [List.length_append, List.length_singleton]
    omega

/-- The same for steps that meet a condition, in a run whose steps all meet it. -/
def Guarded (good : σ → A → Prop) (step : σ → A → σ → Prop) : σ → A → σ → Prop :=
  fun t a u => good t a ∧ step t a u

theorem unguarded {good : σ → A → Prop} (run : Run (Guarded good step) s actions t) :
    Run step s actions t := by
  induction run with
  | start => exact .start
  | next before last ih => exact ih.next last.2

/-- A run whose steps meet what every step meets. -/
theorem guarded {good : σ → A → Prop} (run : Run step s actions t) (always : ∀ t a, good t a) :
    Run (Guarded good step) s actions t := by
  induction run with
  | start => exact .start
  | next before last ih => exact ih.next ⟨always _ _, last⟩

/-- A run of actions that meet the condition wherever they are taken. -/
theorem guarded_of_mem {good : σ → A → Prop} (run : Run step s actions t)
    (meets : ∀ a ∈ actions, ∀ t, good t a) : Run (Guarded good step) s actions t := by
  induction run with
  | start => exact .start
  | next before last ih =>
    obtain ⟨earlier, now⟩ := List.forall_mem_append.mp meets
    exact (ih earlier).next ⟨List.forall_mem_singleton.mp now _, last⟩

/-- A run whose steps meet a condition meets any other that follows from it behind a run that meets the
other. -/
theorem reguarded {good better : σ → A → Prop} {I : σ → Prop} (run : Run (Guarded good step) s actions t)
    (start : I s) (kept : ∀ actions t a u, Run (Guarded better step) s actions t → I t →
      Guarded good step t a u → better t a ∧ I u) : Run (Guarded better step) s actions t ∧ I t := by
  induction run with
  | start => exact ⟨.start, start⟩
  | next before last ih =>
    obtain ⟨earlier, holds⟩ := ih
    obtain ⟨meets, holds⟩ := kept _ _ _ _ earlier holds last
    exact ⟨earlier.next ⟨meets, last.2⟩, holds⟩

theorem single {a : A} (one : step s a t) : Run step s [a] t := Run.start.next one

theorem append {more : List A} {u : σ} (first : Run step s actions t) (second : Run step t more u) :
    Run step s (actions ++ more) u := by
  induction second with
  | start => rwa [List.append_nil]
  | next before last ih =>
    rw [← List.append_assoc]
    exact ih.next last

/-- If every step of one system is matched by some steps of another, so is every run. -/
theorem simulates {τ B : Type} {step' : τ → B → τ → Prop} {R : σ → τ → Prop} {s' : τ}
    (matched : ∀ t a u t', R t t' → step t a u → ∃ bs u', Run step' t' bs u' ∧ R u u')
    (run : Run step s actions t) (start : R s s') : ∃ bs t', Run step' s' bs t' ∧ R t t' := by
  induction run with
  | start => exact ⟨[], s', .start, start⟩
  | next before last ih =>
    obtain ⟨bs, t', first, related⟩ := ih
    obtain ⟨more, u', second, related⟩ := matched _ _ _ _ related last
    exact ⟨bs ++ more, u', first.append second, related⟩

/-- `Since step began quiet s actions b t`: on the way from `s` to `t` there was a step that `began` holds
of, taken in `b`, and `quiet` holds of every step since. -/
inductive Since (step began quiet : σ → A → σ → Prop) (s : σ) : List A → σ → σ → Prop
  | begins {actions : List A} {b t : σ} {a : A} (before : Run step s actions b) (last : step b a t)
      (begins : began b a t) : Since step began quiet s (actions ++ [a]) b t
  | next {actions : List A} {b t u : σ} {a : A} (since : Since step began quiet s actions b t)
      (last : step t a u) (still : quiet t a u) : Since step began quiet s (actions ++ [a]) b u

section Tracked

variable {γ : Type} {note : σ → A → γ → γ}

/-- The same system with a note that every step adds to. -/
def Tracked (note : σ → A → γ → γ) (step : σ → A → σ → Prop) : σ × γ → A → σ × γ → Prop :=
  fun t a u => step t.1 a u.1 ∧ u.2 = note t.1 a t.2

end Tracked

section Perform

/-- Take a list of actions from the first to the last. -/
def perform (next : σ → A → Option σ) (s : σ) : List A → Option σ
  | [] => some s
  | a :: actions => (next s a).bind fun t => perform next t actions

theorem perform_append {next : σ → A → Option σ} (first second : List A) :
    perform next s (first ++ second) = (perform next s first).bind fun t => perform next t second := by
  induction first generalizing s with
  | nil => rfl
  | cons a first ih =>
    simp only [List.cons_append, perform]
    cases next s a with
    | none => rfl
    | some u => exact ih

/-- Every action of the list meets a condition in the state it is taken in. -/
def Meets (next : σ → A → Option σ) (good : σ → A → Prop) (s : σ) : List A → Prop
  | [] => True
  | a :: actions =>
    good s a ∧
      match next s a with
      | some t => Meets next good t actions
      | none => True

variable {next : σ → A → Option σ}

theorem guarded_of_perform {good : σ → A → Prop} (ends : perform next s actions = some t)
    (meets : Meets next good s actions) :
    Run (Guarded good fun s a t => next s a = some t) s actions t := by
  induction actions generalizing s with
  | nil =>
    cases ends
    exact .start
  | cons a actions ih =>
    obtain ⟨u, first, rest⟩ := Option.bind_eq_some_iff.mp ends
    obtain ⟨now, later⟩ := meets
    rw [first] at later
    exact (Run.single ⟨now, first⟩).append (ih rest later)

/-- The note behind a list of actions. -/
def notes {γ : Type} (next : σ → A → Option σ) (note : σ → A → γ → γ) (s : σ) (g : γ) : List A → γ
  | [] => g
  | a :: actions =>
    match next s a with
    | some t => notes next note t (note s a g) actions
    | none => g

theorem tracked_of_perform {γ : Type} {note : σ → A → γ → γ} {good : σ → A → Prop} (g : γ)
    (ends : perform next s actions = some t) (meets : Meets next good s actions) :
    Run (Tracked note (Guarded good fun s a t => next s a = some t)) (s, g) actions
      (t, notes next note s g actions) := by
  induction actions generalizing s g with
  | nil =>
    cases ends
    exact .start
  | cons a actions ih =>
    obtain ⟨u, first, rest⟩ := Option.bind_eq_some_iff.mp ends
    obtain ⟨now, later⟩ := meets
    rw [first] at later
    rw [notes, first]
    exact (Run.single ⟨⟨now, first⟩, rfl⟩).append (ih (note s a g) rest later)

theorem of_perform (ends : perform next s actions = some t) :
    Run (fun s a t => next s a = some t) s actions t := by
  induction actions generalizing s with
  | nil =>
    cases ends
    exact .start
  | cons a actions ih =>
    obtain ⟨u, first, rest⟩ := Option.bind_eq_some_iff.mp ends
    exact (Run.single first).append (ih rest)

theorem of_perform_getD (ends : (perform next s actions).isSome = true) :
    Run (fun s a t => next s a = some t) s actions ((perform next s actions).getD s) := by
  obtain ⟨t, found⟩ := Option.isSome_iff_exists.mp ends
  rw [found]
  exact of_perform found

end Perform

end Run

end Lib
