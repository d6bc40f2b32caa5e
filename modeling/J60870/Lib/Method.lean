import Mathlib.Logic.Basic

/-! Methods of an object: they change its state, return or throw, and what they did
before they threw stays done. `Post` is what holds in either case. -/

namespace Lib

/-- A method on states `σ` that may throw `ε`. -/
abbrev Method (ε σ α : Type) := EStateM ε σ α

namespace Method

variable {ε σ α β γ : Type}

/-- From `s` the method returns so that `Q` holds, or throws so that `E` holds. -/
def Post (m : Method ε σ α) (s : σ) (Q : α → σ → Prop) (E : ε → σ → Prop) : Prop :=
  match m s with
  | .ok a t => Q a t
  | .error e t => E e t

/-- The state a method leaves behind, whether it returns or throws. -/
def outcome (m : Method ε σ α) (s : σ) : σ :=
  match m s with
  | .ok _ t => t
  | .error _ t => t

/-- The exception a method ends with, if it throws. -/
def thrown (m : Method ε σ α) (s : σ) : Option ε :=
  match m s with
  | .ok _ _ => none
  | .error e _ => some e

section Post

variable {s : σ} {Q : α → σ → Prop} {R : β → σ → Prop} {E : ε → σ → Prop}

@[simp] theorem post_pure (a : α) : Post (pure a) s Q E ↔ Q a s := Iff.rfl

@[simp] theorem post_throw (e : ε) : Post (throw e : Method ε σ α) s Q E ↔ E e s := Iff.rfl

@[simp] theorem post_get {Q : σ → σ → Prop} : Post (get : Method ε σ σ) s Q E ↔ Q s s := Iff.rfl

@[simp] theorem post_modify {Q : Unit → σ → Prop} (f : σ → σ) :
    Post (modify f : Method ε σ Unit) s Q E ↔ Q () (f s) := Iff.rfl

@[simp] theorem post_bind (m : Method ε σ α) (k : α → Method ε σ β) :
    Post (m >>= k) s R E ↔ Post m s (fun a t => Post (k a) t R E) E := by
  have sequence : (m >>= k) s = match m s with
      | .ok a t => k a t
      | .error e t => .error e t := rfl
  simp only [Post, sequence]
  cases m s <;> rfl

@[simp] theorem post_map (m : Method ε σ α) (f : α → β) :
    Post (f <$> m) s R E ↔ Post m s (fun a t => R (f a) t) E := by
  rw [← bind_pure_comp, post_bind]
  rfl

@[simp] theorem post_tryCatch (m : Method ε σ α) (h : ε → Method ε σ α) :
    Post (tryCatch m h) s Q E ↔ Post m s Q (fun e t => Post (h e) t Q E) := by
  have handled : (tryCatch m h) s = match m s with
      | .ok a t => .ok a t
      | .error e t => h e t := by
    change EStateM.tryCatch m h s = _
    delta EStateM.tryCatch
    cases m s <;> rfl
  simp only [Post, handled]
  cases m s <;> rfl

@[simp] theorem post_ite (c : Prop) [Decidable c] (m n : Method ε σ α) :
    Post (if c then m else n) s Q E ↔ (c → Post m s Q E) ∧ (¬ c → Post n s Q E) := by
  by_cases c <;> simp [*]

theorem Post.mono {m : Method ε σ α} {Q' : α → σ → Prop} {E' : ε → σ → Prop} (post : Post m s Q E)
    (returns : ∀ a t, Q a t → Q' a t) (throws : ∀ e t, E e t → E' e t) : Post m s Q' E' := by
  unfold Post at post ⊢
  cases h : m s with
  | ok a t =>
    rw [h] at post
    exact returns a t post
  | error e t =>
    rw [h] at post
    exact throws e t post

theorem Post.and {m : Method ε σ α} {Q' : α → σ → Prop} {E' : ε → σ → Prop} (post : Post m s Q E)
    (also : Post m s Q' E') :
    Post m s (fun a t => Q a t ∧ Q' a t) (fun e t => E e t ∧ E' e t) := by
  unfold Post at post also ⊢
  cases h : m s with
  | ok a t =>
    rw [h] at post also
    exact ⟨post, also⟩
  | error e t =>
    rw [h] at post also
    exact ⟨post, also⟩

/-- Sequencing over what holds in between. -/
theorem Post.seq {m : Method ε σ α} {k : α → Method ε σ β} {P : α → σ → Prop} (first : Post m s P E)
    (second : ∀ a t, P a t → Post (k a) t R E) : Post (m >>= k) s R E := by
  rw [post_bind]
  exact first.mono second fun _ _ thrown => thrown

theorem Post.outcome {m : Method ε σ α} {P : σ → Prop} (post : Post m s (fun _ => P) (fun _ => P)) :
    P (m.outcome s) := by
  unfold Post at post
  unfold Method.outcome
  cases h : m s with
  | ok a t => rwa [h] at post
  | error e t => rwa [h] at post

/-- Whether it returns or throws, the state is the one it leaves behind. -/
theorem post_outcome (m : Method ε σ α) (s : σ) :
    Post m s (fun _ t => t = m.outcome s) (fun _ t => t = m.outcome s) := by
  unfold Post Method.outcome
  cases m s <;> rfl

/-- What holds when a method throws, of the exception and the state it leaves. -/
theorem Post.thrown {m : Method ε σ α} {e : ε} (post : Post m s Q E) (thrown : m.thrown s = some e) :
    E e (m.outcome s) := by
  unfold Post at post
  unfold Method.thrown at thrown
  unfold Method.outcome
  cases h : m s with
  | ok a t =>
    rw [h] at thrown
    cases thrown
  | error e' t =>
    rw [h] at post thrown
    cases thrown
    exact post

/-- A method that can only throw does so. -/
theorem Post.threw {m : Method ε σ α} {e : ε} {t : σ}
    (post : Post m s (fun _ _ => False) (fun e' t' => e' = e ∧ t' = t)) : m s = .error e t := by
  unfold Post at post
  cases h : m s with
  | ok a t =>
    rw [h] at post
    exact post.elim
  | error e' t' =>
    rw [h] at post
    rw [post.1, post.2]

end Post

/-- Whether it returns or throws, the method leaves what `f` sees of the state as it
was. -/
def Keeps (f : σ → β) (m : Method ε σ α) : Prop :=
  ∀ s, Post m s (fun _ t => f t = f s) (fun _ t => f t = f s)

namespace Keeps

variable {f : σ → β}

theorem pure (a : α) : Keeps f (pure a : Method ε σ α) := fun _ => rfl

theorem throw (e : ε) : Keeps f (throw e : Method ε σ α) := fun _ => rfl

theorem get : Keeps f (get : Method ε σ σ) := fun _ => rfl

theorem bind {m : Method ε σ α} {k : α → Method ε σ γ} (first : Keeps f m)
    (second : ∀ a, Keeps f (k a)) : Keeps f (m >>= k) := by
  intro s
  rw [post_bind]
  refine (first s).mono (fun a t before => ?_) fun _ _ before => before
  exact (second a t).mono (fun _ _ after => after.trans before) fun _ _ after => after.trans before

/-- What depends on `f` only stays true. -/
theorem post {m : Method ε σ α} {s : σ} {P : σ → Prop} (keeps : Keeps f m)
    (depends : ∀ t, f t = f s → P t) : Post m s (fun _ => P) (fun _ => P) :=
  (keeps s).mono (fun _ => depends) fun _ => depends

theorem outcome {m : Method ε σ α} (keeps : Keeps f m) (s : σ) : f (m.outcome s) = f s :=
  (keeps s).outcome (P := fun t => f t = f s)

end Keeps

end Method

end Lib
