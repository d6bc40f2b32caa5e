import J60870.Lib.Method

/-! Methods of an object that is a part of a larger one. -/

namespace Lib

/-- A part of the states `σ` that can be read and replaced. -/
structure Part (σ τ : Type) where
  get : σ → τ
  set : σ → τ → σ
  get_set : ∀ s t, get (set s t) = t
  set_get : ∀ s, set s (get s) = s
  set_set : ∀ s t u, set (set s t) u = set s u

namespace Part

open Method

variable {ε σ τ α β : Type} (part : Part σ τ)

/-- A method of the part, as a method of the whole. -/
def on (m : Method ε τ α) : Method ε σ α := fun s =>
  match m (part.get s) with
  | .ok a t => .ok a (part.set s t)
  | .error e t => .error e (part.set s t)

variable {part} {s : σ}

@[simp] theorem post_on {m : Method ε τ α} {Q : α → σ → Prop} {E : ε → σ → Prop} :
    Post (part.on m) s Q E ↔
      Post m (part.get s) (fun a t => Q a (part.set s t)) (fun e t => E e (part.set s t)) := by
  simp only [Post, on]
  cases m (part.get s) <;> rfl

/-- What the whole has besides the part stays as it is. -/
theorem keeps_on {f : σ → β} (apart : ∀ s t, f (part.set s t) = f s) (m : Method ε τ α) :
    Keeps f (part.on m) := by
  intro s
  rw [post_on]
  unfold Post
  cases m (part.get s) <;> exact apart s _

/-- In the states of `P` a method does what the method of the part does. -/
def Agrees (part : Part σ τ) (P : σ → Prop) (m : Method ε σ α) (n : Method ε τ α) : Prop :=
  ∀ s, P s → m s = part.on n s

namespace Agrees

variable {P : σ → Prop} {m : Method ε σ α} {n : Method ε τ α}

theorem on (n : Method ε τ α) : Agrees part P (part.on n) n := fun _ _ => rfl

theorem pure (a : α) : Agrees part P (pure a : Method ε σ α) (pure a) := fun s _ =>
  congrArg (EStateM.Result.ok a) (part.set_get s).symm

theorem bind (apart : ∀ s t, P s → P (part.set s t)) {k : α → Method ε σ β} {l : α → Method ε τ β}
    (first : Agrees part P m n) (second : ∀ a, Agrees part P (k a) (l a)) :
    Agrees part P (m >>= k) (n >>= l) := by
  intro s holds
  have left : (m >>= k) s = match m s with
      | .ok a t => k a t
      | .error e t => .error e t := rfl
  have right : (n >>= l) (part.get s) = match n (part.get s) with
      | .ok a t => l a t
      | .error e t => .error e t := rfl
  rw [left, first s holds]
  simp only [Part.on, right]
  cases n (part.get s) with
  | error e t => rfl
  | ok a t =>
    simp only
    rw [second a _ (apart s t holds), Part.on, part.get_set]
    cases l a t <;> simp only [part.set_set]

/-- A method that does nothing in these states may come first. -/
theorem after {d : Method ε σ Unit} (nothing : ∀ s, P s → d s = .ok () s) (rest : Agrees part P m n) :
    Agrees part P (d >>= fun _ => m) n := by
  intro s holds
  change EStateM.bind d (fun _ => m) s = _
  simp only [EStateM.bind, nothing s holds]
  exact rest s holds

theorem tryCatch (apart : ∀ s t, P s → P (part.set s t)) {h : ε → Method ε σ α} {i : ε → Method ε τ α}
    (first : Agrees part P m n) (second : ∀ e, Agrees part P (h e) (i e)) :
    Agrees part P (tryCatch m h) (tryCatch n i) := by
  intro s holds
  have left : (MonadExcept.tryCatch m h) s = match m s with
      | .ok a t => .ok a t
      | .error e t => h e t := by
    change EStateM.tryCatch m h s = _
    delta EStateM.tryCatch
    cases m s <;> rfl
  have right : (MonadExcept.tryCatch n i) (part.get s) = match n (part.get s) with
      | .ok a t => .ok a t
      | .error e t => i e t := by
    change EStateM.tryCatch n i (part.get s) = _
    delta EStateM.tryCatch
    cases n (part.get s) <;> rfl
  rw [left, first s holds]
  simp only [Part.on, right]
  cases n (part.get s) with
  | ok a t => rfl
  | error e t =>
    simp only
    rw [second e _ (apart s t holds), Part.on, part.get_set]
    cases i e t <;> simp only [part.set_set]

theorem ite {c : Prop} [Decidable c] {m' : Method ε σ α} {n' : Method ε τ α} (first : Agrees part P m n)
    (second : Agrees part P m' n') : Agrees part P (if c then m else m') (if c then n else n') := by
  by_cases holds : c
  · rw [if_pos holds, if_pos holds]
    exact first
  · rw [if_neg holds, if_neg holds]
    exact second

end Agrees

end Part

end Lib
