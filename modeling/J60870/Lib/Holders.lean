import Mathlib.Data.List.Count

/-! Counting the entries of a list that hold something, when one entry changes. -/

namespace Lib

variable {α : Type} {entries : List α} {i : Nat} {old new : α} {holds : α → Bool}

/-- What holds of all entries and of the new one holds behind the change. -/
theorem forall_mem_set {P : α → Prop} (all : ∀ entry ∈ entries, P entry) (fresh : P new) :
    ∀ entry ∈ entries.set i new, P entry := by
  intro entry member
  rcases List.mem_or_eq_of_mem_set member with before | rfl
  · exact all entry before
  · exact fresh

theorem countP_set_same (found : entries[i]? = some old) (same : holds new = holds old) :
    (entries.set i new).countP holds = entries.countP holds := by
  obtain ⟨inside, rfl⟩ := List.getElem?_eq_some_iff.mp found
  have counted : holds entries[i] = true → 0 < entries.countP holds := fun held =>
    List.countP_pos_iff.mpr ⟨_, List.getElem_mem inside, held⟩
  rw [List.countP_set inside, same]
  cases held : holds entries[i] with
  | true =>
    have positive := counted held
    simp only [if_true]
    omega
  | false => simp

/-- An entry lets go. -/
theorem countP_set_release (found : entries[i]? = some old) (held : holds old = true)
    (free : holds new = false) : (entries.set i new).countP holds + 1 = entries.countP holds := by
  obtain ⟨inside, rfl⟩ := List.getElem?_eq_some_iff.mp found
  have positive : 0 < entries.countP holds :=
    List.countP_pos_iff.mpr ⟨_, List.getElem_mem inside, held⟩
  rw [List.countP_set inside, if_pos held, free]
  simp only [Bool.false_eq_true, if_false]
  omega

end Lib
