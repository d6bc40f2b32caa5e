import J60870.Lib.Reader

/-! Contracts of readers. `Yields` runs a reader forward on a given word; a contract
says of every stream what the reader took off it for what it returned, or what it
failed with. -/

namespace Lib

/-- Symbols that fall into rows, one after the other, each row related to its value. -/
inductive Rows {τ α : Type} (R : List τ → α → Prop) : List τ → List α → Prop
  | nil : Rows R [] []
  | cons {bs cs : List τ} {a : α} {as : List α} (first : R bs a) (others : Rows R cs as) :
      Rows R (bs ++ cs) (a :: as)

namespace Rows

variable {τ α : Type} {R : List τ → α → Prop} {bs cs : List τ} {as : List α}

theorem append {others : List α} (left : Rows R bs as) (right : Rows R cs others) :
    Rows R (bs ++ cs) (as ++ others) := by
  induction left with
  | nil => exact right
  | cons first _ ih =>
    rw [List.append_assoc]
    exact cons first ih

/-- Rows of rows are rows. -/
theorem flatten {rows : List (List α)} (nested : Rows (Rows R) bs rows) :
    Rows R bs rows.flatten := by
  induction nested with
  | nil => exact nil
  | cons first _ ih => exact first.append ih

theorem forall_mem {P : α → Prop} (rows : Rows R bs as) (each : ∀ bs a, R bs a → P a) :
    ∀ a ∈ as, P a := by
  induction rows with
  | nil => exact fun _ member => by cases member
  | cons first _ ih => exact List.forall_mem_cons.mpr ⟨each _ _ first, ih⟩

/-- Values that spell their own rows spell the whole word. -/
theorem flatMap_eq {good : α → Prop} {word : α → List τ} (rows : Rows R bs as)
    (each : ∀ bs a, R bs a → good a → word a = bs) (all : ∀ a ∈ as, good a) :
    as.flatMap word = bs := by
  induction rows with
  | nil => rfl
  | cons first _ ih =>
    obtain ⟨head, tail⟩ := List.forall_mem_cons.mp all
    rw [List.flatMap_cons, each _ _ first head, ih tail]

end Rows

namespace Reader

variable {ε τ ι α β : Type}

/-- When the reader returns, `R` relates the symbols it took to the value; when it
fails, `E` holds of the error. -/
def Ensures (p : Reader ε τ α) (R : List τ → α → Prop) (E : ε → Prop) : Prop :=
  ∀ s, match p s with
    | .ok (a, rest) => ∃ bs, s = bs ++ rest ∧ R bs a
    | .error e => E e

namespace Ensures

variable {p : Reader ε τ α} {R : List τ → α → Prop} {E : ε → Prop}

theorem of_ok (contract : Ensures p R E) {s rest : List τ} {a : α} (returned : p s = .ok (a, rest)) :
    ∃ bs, s = bs ++ rest ∧ R bs a := by
  have result := contract s
  rwa [returned] at result

theorem of_error (contract : Ensures p R E) {s : List τ} {e : ε} (failed : p s = .error e) : E e := by
  have result := contract s
  rwa [failed] at result

theorem mono {S : List τ → α → Prop} {F : ε → Prop} (contract : Ensures p R E)
    (values : ∀ bs a, R bs a → S bs a) (errors : ∀ e, E e → F e) : Ensures p S F := by
  intro s
  have result := contract s
  cases outcome : p s with
  | error e =>
    rw [outcome] at result
    exact errors e result
  | ok read =>
    rw [outcome] at result
    obtain ⟨bs, split, related⟩ := result
    exact ⟨bs, split, values bs _ related⟩

theorem pure {a : α} (related : R [] a) : Ensures (pure a : Reader ε τ α) R E :=
  fun s => ⟨[], s.nil_append.symm, related⟩

theorem throw {e : ε} (raised : E e) : Ensures (throw e : Reader ε τ α) R E := fun _ => raised

theorem next {eof : ε} {R : List τ → τ → Prop} (related : ∀ b, R [b] b) (ended : E eof) :
    Ensures (next eof) R E := by
  intro s
  cases s with
  | nil => exact ended
  | cons b rest => exact ⟨[b], rfl, related b⟩

theorem word {eof : ε} {n : Nat} {R : List τ → List τ → Prop}
    (related : ∀ bs, bs.length = n → R bs bs) (ended : E eof) : Ensures (word eof n) R E := by
  intro s
  by_cases enough : n ≤ s.length
  · simp only [Reader.word, enough, if_true]
    exact ⟨s.take n, (s.take_append_drop n).symm, related _ (List.length_take_of_le enough)⟩
  · simpa only [Reader.word, enough, if_false] using ended

theorem vector {eof : ε} {n : Nat} {R : List τ → Vector τ n → Prop}
    (related : ∀ v : Vector τ n, R v.toList v) (ended : E eof) : Ensures (vector eof n) R E := by
  intro s
  by_cases enough : n ≤ s.length
  · simp only [Reader.vector, enough, dif_pos]
    exact ⟨_, (s.take_append_drop n).symm, related ⟨(s.take n).toArray, by simp [enough]⟩⟩
  · simpa only [Reader.vector, enough, dif_neg, not_false_eq_true] using ended

/-- A computation that reads nothing, whether it succeeds or not. -/
theorem lift_any {x : Except ε α} (values : ∀ a, x = .ok a → R [] a) (errors : ∀ e, x = .error e → E e) :
    Ensures (liftM x : Reader ε τ α) R E := by
  intro s
  cases outcome : x with
  | error e => exact errors e outcome
  | ok a => exact ⟨[], rfl, values a outcome⟩

theorem lift {x : Except ε α} {a : α} (done : x = .ok a) (related : R [] a) :
    Ensures (liftM x : Reader ε τ α) R E := by
  refine lift_any (fun b returned => ?_) fun e failed => ?_
  · obtain rfl := Except.ok.inj (done.symm.trans returned)
    exact related
  · cases done.symm.trans failed

theorem bind {k : α → Reader ε τ β} {S : List τ → β → Prop} (first : Ensures p R E)
    (second : ∀ bs a, R bs a → Ensures (k a) (fun cs b => S (bs ++ cs) b) E) :
    Ensures (p >>= k) S E := by
  intro s
  have head := first s
  rw [bind_apply]
  cases outcome : p s with
  | error e =>
    rw [outcome] at head
    exact head
  | ok read =>
    obtain ⟨a, rest⟩ := read
    rw [outcome] at head
    obtain ⟨bs, split, related⟩ := head
    have tail := second bs a related rest
    simp only
    cases done : k a rest with
    | error e =>
      rw [done] at tail
      exact tail
    | ok read =>
      rw [done] at tail
      obtain ⟨cs, further, whole⟩ := tail
      exact ⟨bs ++ cs, by rw [split, further, List.append_assoc], whole⟩

/-- Read the first symbol, and hand it on. -/
theorem cons {eof : ε} {k : τ → Reader ε τ β} {S : List τ → β → Prop} (ended : E eof)
    (second : ∀ b, Ensures (k b) (fun cs c => S (b :: cs) c) E) :
    Ensures (Reader.next eof >>= k) S E := by
  refine (next (R := fun bs b => bs = [b]) (fun _ => rfl) ended).bind ?_
  rintro _ b rfl
  exact second b

theorem map {f : α → β} {S : List τ → β → Prop} (contract : Ensures p R E)
    (values : ∀ bs a, R bs a → S bs (f a)) : Ensures (f <$> p) S E := by
  rw [← bind_pure_comp]
  refine contract.bind fun bs a related => pure ?_
  rw [List.append_nil]
  exact values bs a related

/-- A reader whose value is only computed with. -/
theorem bindPure {f : α → β} {S : List τ → β → Prop} (contract : Ensures p R E)
    (values : ∀ bs a, R bs a → S bs (f a)) : Ensures (p >>= fun a => Pure.pure (f a)) S E := by
  rw [bind_pure_comp]
  exact contract.map values

/-- A loop over keys takes a row for each of them. -/
theorem mapM {keys : List ι} {f : ι → Reader ε τ α} (each : ∀ key ∈ keys, Ensures (f key) R E) :
    Ensures (keys.mapM f) (fun bs as => Rows R bs as ∧ as.length = keys.length) E := by
  induction keys with
  | nil => exact pure ⟨.nil, rfl⟩
  | cons key keys ih =>
    obtain ⟨head, tail⟩ := List.forall_mem_cons.mp each
    rw [List.mapM_cons]
    refine head.bind fun bs a first => (ih tail).bind fun cs as others => pure ?_
    rw [List.append_nil]
    exact ⟨.cons first others.1, congrArg (· + 1) others.2⟩

/-- Each value of a loop is related to its key. -/
theorem mapM_keys {keys : List ι} {f : ι → Reader ε τ α} {R : ι → α → Prop}
    (each : ∀ key ∈ keys, Ensures (f key) (fun _ => R key) E) :
    Ensures (keys.mapM f) (fun _ => List.Forall₂ R keys) E := by
  induction keys with
  | nil => exact pure .nil
  | cons key keys ih =>
    obtain ⟨head, tail⟩ := List.forall_mem_cons.mp each
    rw [List.mapM_cons]
    exact head.bind fun _ a first => (ih tail).bind fun _ as others => pure (.cons first others)

theorem times {n : Nat} (each : Ensures p R E) :
    Ensures (times n p) (fun bs as => Rows R bs as ∧ as.length = n) E := by
  have loop : Ensures (Reader.times n p)
      (fun bs as => Rows R bs as ∧ as.length = (List.replicate n ()).length) E := mapM fun _ _ => each
  rwa [List.length_replicate] at loop

end Ensures

end Reader

end Lib
