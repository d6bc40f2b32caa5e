import Mathlib.Data.Vector.Basic

/-! Positional writing into a buffer of fixed size. A writer is told where to
start and reports how many places it used; `Lays` says that it writes one word
contiguously, reports its length, and fails exactly when the word does not fit. -/

namespace Lib

variable {α ε : Type} {n : Nat}

@[simp] theorem ok_bind {β γ : Type} (b : β) (f : β → Except ε γ) :
    (Except.ok b >>= f) = f b := rfl

@[simp] theorem error_bind {β γ : Type} (e : ε) (f : β → Except ε γ) :
    (Except.error e >>= f) = .error e := rfl

theorem mapM_ok {β γ : Type} {xs : List β} {f : β → Except ε γ} {g : β → γ}
    (each : ∀ x ∈ xs, f x = .ok (g x)) : xs.mapM f = .ok (xs.map g) := by
  induction xs with
  | nil => rfl
  | cons x xs ih =>
    have head := each x (by simp)
    have tail := ih fun other member => each other (by simp [member])
    rw [List.mapM_cons, head, ok_bind, tail]
    rfl

/-- Store one symbol, or fail with `e` outside the buffer. -/
def store (e : ε) (buf : Vector α n) (i : Nat) (b : α) : Except ε (Vector α n) :=
  if h : i < n then .ok (buf.set i b h) else .error e

/-- Load one symbol, or fail with `e` outside the buffer. -/
def load (e : ε) (buf : Vector α n) (i : Nat) : Except ε α :=
  if h : i < n then .ok (buf[i]) else .error e

/-- The buffer with a word written over it from position `i` on. -/
def overwrite (buf : Vector α n) (i : Nat) : List α → Vector α n
  | [] => buf
  | b :: bs => overwrite (buf.setIfInBounds i b) (i + 1) bs

/-- Store the symbols of a word one after the other. -/
def storeAll (e : ε) (buf : Vector α n) (i : Nat) : List α → Except ε (Vector α n)
  | [] => .ok buf
  | b :: bs => store e buf i b >>= fun buf => storeAll e buf (i + 1) bs

/-- Write from a position on; the second component is the number of places the
writer says it used. -/
abbrev Writer (ε α : Type) (n : Nat) := Vector α n → Nat → Except ε (Vector α n × Nat)

theorem overwrite_append (buf : Vector α n) (i : Nat) (bs cs : List α) :
    overwrite buf i (bs ++ cs) = overwrite (overwrite buf i bs) (i + bs.length) cs := by
  induction bs generalizing buf i with
  | nil => rfl
  | cons b bs ih =>
    rw [List.cons_append, overwrite, ih, overwrite, List.length_cons]
    congr 1
    omega

theorem overwrite_setIfInBounds (buf : Vector α n) (i j : Nat) (b : α) (bs : List α)
    (before : i < j) :
    (overwrite buf j bs).setIfInBounds i b = overwrite (buf.setIfInBounds i b) j bs := by
  induction bs generalizing buf j with
  | nil => rfl
  | cons c bs ih =>
    rw [overwrite, ih _ _ (by omega), overwrite, Vector.setIfInBound_comm _ _ (by omega)]

/-- Writing before a word that is already there prepends to it. -/
theorem overwrite_prepend (buf : Vector α n) (i : Nat) (bs cs : List α) :
    overwrite (overwrite buf (i + bs.length) cs) i bs = overwrite buf i (bs ++ cs) := by
  rw [overwrite_append]
  induction bs generalizing buf i with
  | nil => rfl
  | cons b bs ih =>
    have later : i + (b :: bs).length = i + 1 + bs.length := by
      rw [List.length_cons]
      omega
    rw [overwrite, overwrite_setIfInBounds _ _ _ _ _ (by omega), later, ih, overwrite]

/-- A position outside the word keeps its symbol. -/
theorem getElem_overwrite_of_notMem (buf : Vector α n) (i j : Nat) (bs : List α) (h : j < n)
    (outside : j < i ∨ i + bs.length ≤ j) : (overwrite buf i bs)[j] = buf[j] := by
  induction bs generalizing buf i with
  | nil => rfl
  | cons b bs ih =>
    rw [List.length_cons] at outside
    rw [overwrite, ih _ _ (by omega)]
    exact Vector.getElem_setIfInBounds_ne h (by omega)

/-- A position inside the word holds the symbol of the word. -/
theorem getElem_overwrite_of_mem (buf : Vector α n) (i j : Nat) (bs : List α) (h : i + j < n)
    (inside : j < bs.length) : (overwrite buf i bs)[i + j] = bs[j] := by
  induction bs generalizing buf i j with
  | nil => simp at inside
  | cons b bs ih =>
    rw [List.length_cons] at inside
    cases j with
    | zero =>
      simp only [overwrite, Nat.add_zero, List.getElem_cons_zero]
      rw [getElem_overwrite_of_notMem _ _ _ _ _ (by omega)]
      exact Vector.getElem_setIfInBounds_self _
    | succ j =>
      have tail := ih (buf.setIfInBounds i b) (i + 1) j (by omega) (by omega)
      simp only [overwrite, List.getElem_cons_succ]
      rw [← tail]
      congr 1
      omega

/-- The symbols of a buffer from a position on, as many as are asked for. -/
def stretch (buf : Vector α n) (i length : Nat) : List α := (buf.toList.drop i).take length

/-- Read back, the written stretch is the word, whatever was there before. -/
theorem stretch_overwrite (buf : Vector α n) (i : Nat) (bs : List α) (fits : i + bs.length ≤ n) :
    stretch (overwrite buf i bs) i bs.length = bs := by
  apply List.ext_getElem
  · simp [stretch]
    omega
  · intro j bound within
    simp only [stretch, List.getElem_take, List.getElem_drop, Vector.getElem_toList]
    exact getElem_overwrite_of_mem buf i j bs (by omega) within

theorem take_overwrite (buf : Vector α n) (bs : List α) (fits : bs.length ≤ n) :
    (overwrite buf 0 bs).toList.take bs.length = bs :=
  stretch_overwrite buf 0 bs (by omega)

theorem store_of_lt (e : ε) (buf : Vector α n) (i : Nat) (b : α) (inside : i < n) :
    store e buf i b = .ok (buf.setIfInBounds i b) := by
  have same : buf.set i b inside = buf.setIfInBounds i b := by
    apply Vector.ext
    intro j bound
    rw [Vector.getElem_set, Vector.getElem_setIfInBounds]
  rw [store, dif_pos inside, same]

theorem store_of_le (e : ε) (buf : Vector α n) (i : Nat) (b : α) (outside : n ≤ i) :
    store e buf i b = .error e := by
  rw [store, dif_neg (Nat.not_lt.mpr outside)]

theorem storeAll_fits (e : ε) (buf : Vector α n) (i : Nat) (bs : List α) (fits : i + bs.length ≤ n) :
    storeAll e buf i bs = .ok (overwrite buf i bs) := by
  induction bs generalizing buf i with
  | nil => rfl
  | cons b bs ih =>
    rw [List.length_cons] at fits
    rw [storeAll, store_of_lt e buf i b (by omega)]
    exact ih _ _ (by omega)

theorem storeAll_overflows (e : ε) (buf : Vector α n) (i : Nat) (bs : List α) (start : i ≤ n)
    (full : n < i + bs.length) : storeAll e buf i bs = .error e := by
  induction bs generalizing buf i with
  | nil => simp at full; omega
  | cons b bs ih =>
    rw [List.length_cons] at full
    rw [storeAll]
    by_cases inside : i < n
    · rw [store_of_lt e buf i b inside]
      exact ih _ _ inside (by omega)
    · rw [store_of_le e buf i b (by omega)]
      rfl

/-- The writer lays down the word `bs`: where it fits it is written over the
buffer and its length reported, where it does not the writer fails. -/
structure Lays (w : Writer ε α n) (bs : List α) : Prop where
  fits : ∀ buf i, i + bs.length ≤ n → w buf i = .ok (overwrite buf i bs, bs.length)
  overflows : ∀ buf i, i ≤ n → n < i + bs.length → ∃ e, w buf i = .error e

/-- One writer after another; the second starts where the first says it ended. -/
def Writer.andThen (v w : Writer ε α n) : Writer ε α n := fun buf i => do
  let (buf, a) ← v buf i
  let (buf, b) ← w buf (i + a)
  return (buf, a + b)

theorem Writer.andThen_apply (v w : Writer ε α n) (buf : Vector α n) (i : Nat) :
    v.andThen w buf i =
      v buf i >>= fun r => w r.1 (i + r.2) >>= fun q => .ok (q.1, r.2 + q.2) := rfl

/-- Writers in a row. -/
def Writer.inOrder (ws : List (Writer ε α n)) : Writer ε α n :=
  ws.foldr Writer.andThen fun buf _ => .ok (buf, 0)

/-- The writer fails wherever it starts. -/
def Refuses (w : Writer ε α n) : Prop := ∀ buf i, ∃ e, w buf i = .error e

namespace Refuses

theorem andThen_left {v : Writer ε α n} (never : Refuses v) (w : Writer ε α n) :
    Refuses (v.andThen w) := by
  intro buf i
  obtain ⟨e, failed⟩ := never buf i
  exact ⟨e, by rw [Writer.andThen_apply, failed, error_bind]⟩

theorem andThen_right (v : Writer ε α n) {w : Writer ε α n} (never : Refuses w) :
    Refuses (v.andThen w) := by
  intro buf i
  rw [Writer.andThen_apply]
  cases first : v buf i with
  | error e => exact ⟨e, rfl⟩
  | ok r =>
    obtain ⟨e, failed⟩ := never r.1 (i + r.2)
    exact ⟨e, by rw [ok_bind, failed, error_bind]⟩

/-- One refusing writer makes the row refuse. -/
theorem inOrder {ws : List (Writer ε α n)} {w : Writer ε α n} (member : w ∈ ws)
    (never : Refuses w) : Refuses (Writer.inOrder ws) := by
  induction ws with
  | nil => cases member
  | cons v ws ih =>
    cases member with
    | head => exact never.andThen_left _
    | tail _ later => exact andThen_right v (ih later)

end Refuses

namespace Lays

theorem nil : Lays (fun buf _ => .ok (buf, 0) : Writer ε α n) [] :=
  ⟨fun _ _ _ => rfl, fun _ _ start full => by simp at full; omega⟩

/-- A writer lays down one word only. -/
theorem unique {w : Writer ε α n} {bs cs : List α} (first : Lays w bs) (second : Lays w cs)
    (buf : Vector α n) (room : bs.length ≤ n) (otherRoom : cs.length ≤ n) : bs = cs := by
  have written := (first.fits buf 0 (by omega)).symm.trans (second.fits buf 0 (by omega))
  obtain ⟨same, size⟩ := Prod.mk.inj (Except.ok.inj written)
  rw [← take_overwrite buf bs room, same, size, take_overwrite buf cs otherRoom]

/-- A method that stores a fixed word and returns its length by hand. -/
theorem storing (e : ε) (bs : List α) {w : Writer ε α n}
    (body : ∀ buf i, w buf i = storeAll e buf i bs >>= fun buf => .ok (buf, bs.length)) :
    Lays w bs where
  fits buf i fits := by rw [body, storeAll_fits e buf i bs fits]; rfl
  overflows buf i start full :=
    ⟨e, by rw [body, storeAll_overflows e buf i bs start full]; rfl⟩

theorem andThen {v w : Writer ε α n} {bs cs : List α} (first : Lays v bs) (second : Lays w cs) :
    Lays (v.andThen w) (bs ++ cs) where
  fits buf i fits := by
    rw [List.length_append] at fits
    rw [Writer.andThen_apply, first.fits buf i (by omega), ok_bind, second.fits _ _ (by omega),
      ok_bind, List.length_append, overwrite_append]
  overflows buf i start full := by
    rw [List.length_append] at full
    rw [Writer.andThen_apply]
    by_cases room : i + bs.length ≤ n
    · obtain ⟨e, failed⟩ := second.overflows (overwrite buf i bs) (i + bs.length) room (by omega)
      refine ⟨e, ?_⟩
      rw [first.fits buf i room, ok_bind, failed, error_bind]
    · obtain ⟨e, failed⟩ := first.overflows buf i start (by omega)
      exact ⟨e, by rw [failed, error_bind]⟩

theorem inOrder {ι : Type} {items : List ι} {w : ι → Writer ε α n} {word : ι → List α}
    (each : ∀ item ∈ items, Lays (w item) (word item)) :
    Lays (Writer.inOrder (items.map w)) (items.flatMap word) := by
  induction items with
  | nil => exact nil
  | cons item items ih =>
    rw [List.map_cons, List.flatMap_cons]
    exact (each item (by simp)).andThen (ih fun other member => each other (by simp [member]))

end Lays

end Lib
