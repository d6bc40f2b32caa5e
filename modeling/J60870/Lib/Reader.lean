import Mathlib.Data.List.Basic
import Mathlib.Control.Monad.Basic
import Mathlib.Algebra.GroupWithZero.Nat

/-! Readers of a finite stream of symbols. `Yields` is the forward reading of a
word, used for round trips; `Extent` is what a reader takes off an arbitrary
stream, used for framing. Both compose along `bind` and along loops. -/

namespace Lib

/-- Take symbols off the front of a stream, or fail. -/
abbrev Reader (ε τ α : Type) := StateT (List τ) (Except ε) α

namespace Reader

variable {ε τ ι α β : Type}

/-- The next symbol, or `eof` at the end of the stream. -/
def next (eof : ε) : Reader ε τ τ
  | [] => .error eof
  | b :: rest => .ok (b, rest)

/-- The next `n` symbols, or `eof` when the stream is shorter. -/
def word (eof : ε) (n : Nat) : Reader ε τ (List τ) := fun s =>
  if n ≤ s.length then .ok (s.take n, s.drop n) else .error eof

/-- The next `n` symbols as a vector. -/
def vector (eof : ε) (n : Nat) : Reader ε τ (Vector τ n) := fun s =>
  if enough : n ≤ s.length then .ok (⟨(s.take n).toArray, by simp [enough]⟩, s.drop n)
  else .error eof

/-- Run a reader a fixed number of times and collect what it returned. -/
def times (n : Nat) (p : Reader ε τ α) : Reader ε τ (List α) :=
  (List.replicate n ()).mapM fun _ => p

@[simp] theorem pure_apply (a : α) (s : List τ) :
    (pure a : Reader ε τ α) s = .ok (a, s) := rfl

@[simp] theorem throw_apply (e : ε) (s : List τ) :
    (throw e : Reader ε τ α) s = .error e := rfl

theorem bind_apply (p : Reader ε τ α) (f : α → Reader ε τ β) (s : List τ) :
    (p >>= f) s = match p s with
      | .ok (a, rest) => f a rest
      | .error e => .error e := by
  change (p s >>= fun r => f r.1 r.2) = _
  cases p s <;> rfl

theorem map_apply (p : Reader ε τ α) (f : α → β) (s : List τ) :
    (f <$> p) s = match p s with
      | .ok (a, rest) => .ok (f a, rest)
      | .error e => .error e := by
  rw [← bind_pure_comp, bind_apply]
  rfl

/-- What a sequence of readers returned, the first of them read and the second one after it. -/
theorem bind_eq_ok {p : Reader ε τ α} {f : α → Reader ε τ β} {s rest : List τ} {b : β} :
    (p >>= f) s = .ok (b, rest) ↔ ∃ a between, p s = .ok (a, between) ∧ f a between = .ok (b, rest) := by
  rw [bind_apply]
  cases p s with
  | ok read =>
    constructor
    · exact fun done => ⟨read.1, read.2, rfl, done⟩
    · rintro ⟨a, between, first, second⟩
      cases first
      exact second
  | error e => simp

theorem times_succ_eq_ok {n : Nat} {p : Reader ε τ α} {s rest : List τ} {as : List α} :
    times (n + 1) p s = .ok (as, rest) ↔ ∃ a between others, p s = .ok (a, between) ∧
      times n p between = .ok (others, rest) ∧ as = a :: others := by
  simp only [times, List.replicate_succ, List.mapM_cons, bind_eq_ok]
  constructor
  · rintro ⟨a, between, first, others, behind, second, last⟩
    cases last
    exact ⟨a, between, others, first, second, rfl⟩
  · rintro ⟨a, between, others, first, second, rfl⟩
    exact ⟨a, between, first, others, rest, second, rfl⟩

/-- Of a loop's values number `k` was read where the first `k` turns have ended. -/
theorem times_getElem {n k : Nat} {p : Reader ε τ α} {s rest between : List τ} {as firsts : List α}
    (all : times n p s = .ok (as, rest)) (started : times k p s = .ok (firsts, between)) (inside : k < n) :
    ∃ a behind, p between = .ok (a, behind) ∧ as[k]? = some a := by
  induction k generalizing n s as firsts with
  | zero =>
    cases started
    obtain ⟨n, rfl⟩ := Nat.exists_eq_add_of_lt inside
    rw [Nat.zero_add] at all
    obtain ⟨a, behind, others, first, _, rfl⟩ := times_succ_eq_ok.mp all
    exact ⟨a, behind, first, rfl⟩
  | succ k ih =>
    obtain ⟨m, rfl⟩ : ∃ m, n = m + 1 := ⟨n - 1, by omega⟩
    obtain ⟨a, behind, others, first, later, rfl⟩ := times_succ_eq_ok.mp all
    obtain ⟨b, behind', others', first', later', rfl⟩ := times_succ_eq_ok.mp started
    obtain ⟨rfl, rfl⟩ := Prod.mk.inj (Except.ok.inj (first.symm.trans first'))
    obtain ⟨c, last, read, found⟩ := ih later later' (by omega)
    exact ⟨c, last, read, found⟩

theorem times_one_bind (p : Reader ε τ α) (k : List α → Reader ε τ β) :
    (times 1 p >>= k) = p >>= fun a => k [a] := by
  simp [times]

/-- On every stream that starts with `bs` the reader takes exactly `bs` and
returns `a`. -/
def Yields (p : Reader ε τ α) (bs : List τ) (a : α) : Prop :=
  ∀ rest, p (bs ++ rest) = .ok (a, rest)

namespace Yields

theorem pure (a : α) : Yields (pure a : Reader ε τ α) [] a := fun _ => rfl

theorem next (eof : ε) (b : τ) : Yields (next eof) [b] b := fun _ => rfl

theorem word (eof : ε) (bs : List τ) : Yields (word eof bs.length) bs bs := by
  intro rest
  simp [Reader.word]

theorem vector (eof : ε) {n : Nat} (v : Vector τ n) : Yields (vector eof n) v.toList v := by
  intro rest
  have size : n ≤ (v.toList ++ rest).length := by simp
  have head : (v.toList ++ rest).take n = v.toList := List.take_left' v.length_toList
  have tail : (v.toList ++ rest).drop n = rest := List.drop_left' v.length_toList
  simp only [Reader.vector, size, head, tail, dif_pos]
  exact congrArg (fun v => Except.ok (v, rest)) (Vector.toList_inj.mp rfl)

theorem bind {p : Reader ε τ α} {f : α → Reader ε τ β} {bs cs : List τ} {a : α} {b : β}
    (first : Yields p bs a) (second : Yields (f a) cs b) : Yields (p >>= f) (bs ++ cs) b := by
  intro rest
  rw [List.append_assoc, bind_apply, first (cs ++ rest)]
  exact second rest

theorem map {p : Reader ε τ α} {bs : List τ} {a : α} (f : α → β) (read : Yields p bs a) :
    Yields (f <$> p) bs (f a) := by
  intro rest
  rw [map_apply, read rest]

/-- A computation that reads nothing. -/
theorem lift {x : Except ε α} {a : α} (done : x = .ok a) :
    Yields (liftM x : Reader ε τ α) [] a := by
  intro rest
  rw [done]
  rfl

/-- A loop over keys takes the words of the rows one after the other. -/
theorem mapM {rows : List ι} {f : κ → Reader ε τ α} {key : ι → κ} {bs : ι → List τ} {val : ι → α}
    (each : ∀ row ∈ rows, Yields (f (key row)) (bs row) (val row)) :
    Yields ((rows.map key).mapM f) (rows.flatMap bs) (rows.map val) := by
  induction rows with
  | nil => exact pure []
  | cons row rows ih =>
    have head := each row (by simp)
    have tail := ih (fun other member => each other (by simp [member]))
    rw [List.map_cons, List.mapM_cons, List.flatMap_cons, List.map_cons]
    refine head.bind ?_
    simpa using tail.map (val row :: ·)

theorem times {rows : List ι} {p : Reader ε τ α} {bs : ι → List τ} {val : ι → α}
    (each : ∀ row ∈ rows, Yields p (bs row) (val row)) :
    Yields (times rows.length p) (rows.flatMap bs) (rows.map val) := by
  have same : List.replicate rows.length () = rows.map (fun _ => ()) := by simp
  rw [Reader.times, same]
  exact mapM each

end Yields

/-- `f` tells for every stream how many symbols the reader takes off it, and
with what it fails; the value read is left open. -/
def Extent (p : Reader ε τ α) (f : List τ → Except ε Nat) : Prop :=
  ∀ s, match f s with
    | .ok n => n ≤ s.length ∧ ∃ a, p s = .ok (a, s.drop n)
    | .error e => p s = .error e

/-- The extent of a word of fixed length. -/
def fixed (eof : ε) (n : Nat) : List τ → Except ε Nat := fun s =>
  if n ≤ s.length then .ok n else .error eof

/-- The extent of one reader after another. -/
def andThen (f g : List τ → Except ε Nat) : List τ → Except ε Nat := fun s =>
  match f s with
  | .ok n => match g (s.drop n) with
    | .ok m => .ok (n + m)
    | .error e => .error e
  | .error e => .error e

/-- An extent that depends on the next symbol. -/
def withNext (eof : ε) (g : τ → List τ → Except ε Nat) : List τ → Except ε Nat
  | [] => .error eof
  | b :: rest => match g b rest with
    | .ok n => .ok (1 + n)
    | .error e => .error e

/-- An extent that depends on the next `m` symbols. -/
def withVector (eof : ε) (m : Nat) (g : Vector τ m → List τ → Except ε Nat) :
    List τ → Except ε Nat := fun s =>
  match vector eof m s with
  | .ok (v, rest) => match g v rest with
    | .ok n => .ok (m + n)
    | .error e => .error e
  | .error e => .error e

/-- The extent of readers in a row. -/
def inOrder (fs : List (List τ → Except ε Nat)) : List τ → Except ε Nat :=
  fs.foldr andThen (fun _ => .ok 0)

theorem withNext_eq_error {eof e : ε} {g : τ → List τ → Except ε Nat} (b : τ) (rest : List τ) :
    withNext eof g (b :: rest) = .error e ↔ g b rest = .error e := by
  simp only [withNext]
  cases g b rest <;> simp

theorem withVector_eq_error {eof e : ε} {m : Nat} {g : Vector τ m → List τ → Except ε Nat}
    {v : Vector τ m} {s rest : List τ} (read : vector eof m s = .ok (v, rest)) :
    withVector eof m g s = .error e ↔ g v rest = .error e := by
  simp only [withVector, read]
  cases g v rest <;> simp

theorem withNext_eq_ok {eof : ε} {g : τ → List τ → Except ε Nat} {s : List τ} {n : Nat}
    (taken : withNext eof g s = .ok n) : ∃ b rest m, g b rest = .ok m ∧ n = 1 + m := by
  cases s with
  | nil => cases taken
  | cons b rest =>
    simp only [withNext] at taken
    cases more : g b rest with
    | error e =>
      rw [more] at taken
      cases taken
    | ok m =>
      rw [more] at taken
      exact ⟨b, rest, m, more, (Except.ok.inj taken).symm⟩

theorem withVector_eq_ok {eof : ε} {m : Nat} {g : Vector τ m → List τ → Except ε Nat} {s : List τ} {n : Nat}
    (taken : withVector eof m g s = .ok n) : ∃ k, n = m + k := by
  simp only [withVector] at taken
  split at taken
  · split at taken
    · exact ⟨_, (Except.ok.inj taken).symm⟩
    · cases taken
  · cases taken

theorem andThen_assoc (f g h : List τ → Except ε Nat) :
    andThen (andThen f g) h = andThen f (andThen g h) := by
  funext s
  simp only [andThen]
  cases f s with
  | error e => rfl
  | ok n =>
    simp only
    cases g (s.drop n) with
    | error e => rfl
    | ok m =>
      simp only [List.drop_drop]
      cases h (s.drop (n + m)) with
      | error e => rfl
      | ok k => simp only [Nat.add_assoc]

theorem fixed_andThen_fixed (eof : ε) (n m : Nat) :
    andThen (fixed (τ := τ) eof n) (fixed eof m) = fixed eof (n + m) := by
  funext s
  simp only [andThen, fixed]
  by_cases first : n ≤ s.length
  · simp only [first, if_true, List.length_drop]
    by_cases second : n + m ≤ s.length
    · simp [second, show m ≤ s.length - n by omega]
    · simp [second, show ¬ m ≤ s.length - n by omega]
  · simp [first, show ¬ n + m ≤ s.length by omega]

theorem inOrder_fixed (eof : ε) (sizes : List Nat) :
    inOrder (sizes.map (fixed (τ := τ) eof)) = fixed eof sizes.sum := by
  induction sizes with
  | nil => funext s; simp [inOrder, fixed]
  | cons n sizes ih =>
    rw [inOrder] at ih
    rw [inOrder, List.map_cons, List.foldr_cons, ih, fixed_andThen_fixed, List.sum_cons]

namespace Extent

theorem pure (a : α) : Extent (pure a : Reader ε τ α) (fun _ => .ok 0) := by
  intro s
  exact ⟨Nat.zero_le _, a, by simp⟩

theorem pureFixed (eof : ε) (a : α) : Extent (Pure.pure a : Reader ε τ α) (fixed eof 0) := by
  have empty : fixed (τ := τ) eof 0 = fun _ => .ok 0 := by
    funext s
    simp [fixed]
  rw [empty]
  exact pure a

theorem next (eof : ε) : Extent (next eof : Reader ε τ τ) (fixed eof 1) := by
  intro s
  cases s with
  | nil => simp [fixed, Reader.next]
  | cons b rest => simp [fixed, Reader.next]

theorem word (eof : ε) (n : Nat) : Extent (word eof n : Reader ε τ (List τ)) (fixed eof n) := by
  intro s
  by_cases enough : n ≤ s.length <;> simp [fixed, Reader.word, enough]

theorem vector (eof : ε) (n : Nat) :
    Extent (vector eof n : Reader ε τ (Vector τ n)) (fixed eof n) := by
  intro s
  by_cases enough : n ≤ s.length
  · simp only [fixed, Reader.vector, enough, if_true, dif_pos]
    exact ⟨trivial, _, rfl⟩
  · simp [fixed, Reader.vector, enough]

/-- What a reader of a fixed length leaves. -/
theorem rest_eq_drop {p : Reader ε τ α} {eof : ε} {n : Nat} {s rest : List τ} {a : α}
    (extent : Extent p (fixed eof n)) (read : p s = .ok (a, rest)) : rest = s.drop n := by
  have taken := extent s
  by_cases enough : n ≤ s.length
  · simp only [fixed, enough, if_true] at taken
    obtain ⟨_, b, same⟩ := taken
    exact (Prod.mk.inj (Except.ok.inj (read.symm.trans same))).2
  · simp only [fixed, enough, if_false] at taken
    cases read.symm.trans taken

/-- Sequencing, when what follows has the same extent whatever was read. -/
theorem bind {p : Reader ε τ α} {k : α → Reader ε τ β} {f g : List τ → Except ε Nat}
    (first : Extent p f) (second : ∀ a, Extent (k a) g) : Extent (p >>= k) (andThen f g) := by
  intro s
  have head := first s
  rw [bind_apply]
  simp only [andThen]
  cases ext : f s with
  | error e =>
    rw [ext] at head
    simp [head]
  | ok n =>
    rw [ext] at head
    obtain ⟨bound, a, read⟩ := head
    have tail := second a (s.drop n)
    simp only [read]
    cases rest : g (s.drop n) with
    | error e =>
      rw [rest] at tail
      exact tail
    | ok m =>
      rw [rest] at tail
      obtain ⟨within, b, done⟩ := tail
      rw [List.length_drop] at within
      exact ⟨by omega, b, by rw [done, List.drop_drop]⟩

theorem bindFixed {p : Reader ε τ α} {k : α → Reader ε τ β} {eof : ε} {m n : Nat}
    (first : Extent p (fixed eof m)) (second : ∀ a, Extent (k a) (fixed eof n)) :
    Extent (p >>= k) (fixed eof (m + n)) := by
  rw [← fixed_andThen_fixed]
  exact first.bind second

theorem map {p : Reader ε τ α} {f : List τ → Except ε Nat} (k : α → β) (first : Extent p f) :
    Extent (k <$> p) f := by
  intro s
  have head := first s
  rw [map_apply]
  cases ext : f s with
  | error e =>
    rw [ext] at head
    simp [head]
  | ok n =>
    rw [ext] at head
    obtain ⟨bound, a, read⟩ := head
    exact ⟨bound, k a, by simp [read]⟩

/-- A computation that reads nothing. -/
theorem lift {x : Except ε α} {a : α} (done : x = .ok a) :
    Extent (liftM x : Reader ε τ α) (fun _ => .ok 0) := by
  intro s
  rw [done]
  exact ⟨Nat.zero_le _, a, rfl⟩

/-- Sequencing with what reads nothing. -/
theorem bindNothing {p : Reader ε τ α} {k : α → Reader ε τ β} {f : List τ → Except ε Nat}
    (first : Extent p f) (second : ∀ a, Extent (k a) fun _ => .ok 0) : Extent (p >>= k) f := by
  have whole : andThen f (fun _ => .ok 0) = f := by
    funext s
    simp only [andThen]
    cases f s <;> rfl
  have both := first.bind second
  rwa [whole] at both

/-- A reader whose value is only computed with. -/
theorem bindPure {p : Reader ε τ α} {f : List τ → Except ε Nat} {k : α → β} (first : Extent p f) :
    Extent (p >>= fun a => Pure.pure (k a)) f := by
  rw [bind_pure_comp]
  exact first.map k

/-- Sequencing after one symbol, on which the extent of the rest may depend. -/
theorem bindNext {eof : ε} {k : τ → Reader ε τ β} {g : τ → List τ → Except ε Nat}
    (second : ∀ b, Extent (k b) (g b)) : Extent (Reader.next eof >>= k) (withNext eof g) := by
  intro s
  cases s with
  | nil => exact rfl
  | cons b rest =>
    have tail := second b rest
    simp only [withNext]
    cases ext : g b rest with
    | error e =>
      rw [ext] at tail
      exact tail
    | ok n =>
      rw [ext] at tail
      obtain ⟨within, c, done⟩ := tail
      refine ⟨by rw [List.length_cons]; omega, c, ?_⟩
      rw [Nat.add_comm, List.drop_succ_cons]
      exact done

theorem bindVector {eof : ε} {m : Nat} {k : Vector τ m → Reader ε τ β}
    {g : Vector τ m → List τ → Except ε Nat} (second : ∀ v, Extent (k v) (g v)) :
    Extent (Reader.vector eof m >>= k) (withVector eof m g) := by
  intro s
  rw [bind_apply]
  simp only [withVector]
  by_cases enough : m ≤ s.length
  · simp only [Reader.vector, enough, dif_pos]
    generalize (⟨(s.take m).toArray, _⟩ : Vector τ m) = v
    have tail := second v (s.drop m)
    cases ext : g v (s.drop m) with
    | error e =>
      rw [ext] at tail
      exact tail
    | ok n =>
      rw [ext] at tail
      obtain ⟨within, c, done⟩ := tail
      rw [List.length_drop] at within
      exact ⟨by omega, c, by rw [done, List.drop_drop]⟩
  · simp [Reader.vector, enough]

theorem throw (e : ε) : Extent (throw e : Reader ε τ α) (fun _ => .error e) := fun _ => rfl

theorem mapM {keys : List ι} {p : ι → Reader ε τ α} {f : ι → List τ → Except ε Nat}
    (each : ∀ key, Extent (p key) (f key)) : Extent (keys.mapM p) (inOrder (keys.map f)) := by
  induction keys with
  | nil => exact pure []
  | cons key keys ih =>
    rw [List.mapM_cons, List.map_cons]
    refine (each key).bind (g := inOrder (keys.map f)) fun a => ?_
    simpa using ih.map (a :: ·)

theorem times {p : Reader ε τ α} {f : List τ → Except ε Nat} (n : Nat) (each : Extent p f) :
    Extent (times n p) (inOrder (List.replicate n f)) := by
  have body : Extent (Reader.times n p) (inOrder ((List.replicate n ()).map fun _ => f)) :=
    mapM fun _ => each
  rwa [List.map_replicate] at body

end Extent

end Reader

end Lib
