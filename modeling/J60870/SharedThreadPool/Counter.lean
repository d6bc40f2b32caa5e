import J60870.SharedThreadPool
import Mathlib.Data.Set.Card

namespace J60870

open Lib

namespace SharedThreadPool

variable (useSharedThreadPool : PoolUser → Bool)

def sharing (p : SharedThreadPool) : Set PoolUser :=
  {user | useSharedThreadPool user = true ∧ p.alive user = true}

def Exact (p : SharedThreadPool) : Prop :=
  p.numOpenConnections.toInt = (p.sharing useSharedThreadPool).ncard

/-- A user of the shared pool leaves, and none is left. -/
def LastEnds (p : SharedThreadPool) (action : Action) (q : SharedThreadPool) : Prop :=
  (∃ user, p.leaver action = some user ∧ useSharedThreadPool user = true) ∧
    q.sharing useSharedThreadPool = ∅

/-- In every state the counter is exact, and every step by which the last user ends shuts
the pool down, and no other one. -/
def CountsExactly (p : SharedThreadPool) (actions : List Action) : Prop :=
  ∀ before after r, actions = before ++ after →
    Run.perform (step useSharedThreadPool) p before = some r →
    r.Exact useSharedThreadPool ∧
    ∀ action rest q, after = action :: rest → step useSharedThreadPool r action = some q →
      (q.shutdown = true ↔ r.shutdown = true ∨ r.LastEnds useSharedThreadPool action q)

/-- The server socket cannot be created. -/
def fails : Action → Bool
  | .serverStart _ socketFails => socketFails
  | _ => false

/-- The start succeeds and is that of a new user of the shared pool. -/
structure Joins (p : SharedThreadPool) (action : Action) (user : PoolUser) : Prop where
  shared : useSharedThreadPool user = true
  notAlive : p.alive user = false
  succeeds : fails action = false

/-- Whoever starts joins the users of the shared pool, which an `int` can still count. -/
def Counted (p : SharedThreadPool) (action : Action) : Prop :=
  ∀ user, starter action = some user →
    p.Joins useSharedThreadPool action user ∧ (p.sharing useSharedThreadPool).ncard + 1 < 2 ^ 31

variable {useSharedThreadPool} {p q : SharedThreadPool} {action : Action} {user : PoolUser}

theorem setAlive_sharing (user : PoolUser) (shared : useSharedThreadPool user = true) :
    (p.setAlive user true).sharing useSharedThreadPool =
      insert user (p.sharing useSharedThreadPool) := by
  ext other
  by_cases same : other = user
  · subst same
    simp [sharing, setAlive, shared]
  · simp [sharing, setAlive, same]

theorem setAlive_sharing_private (alive : Bool) (unshared : useSharedThreadPool user = false) :
    (p.setAlive user alive).sharing useSharedThreadPool = p.sharing useSharedThreadPool := by
  ext other
  by_cases same : other = user
  · subst same
    simp [sharing, unshared]
  · simp [sharing, setAlive, same]

theorem leave_sharing (user : PoolUser) :
    (p.leave useSharedThreadPool user).sharing useSharedThreadPool =
      p.sharing useSharedThreadPool \ {user} := by
  ext other
  by_cases same : other = user
  · subst same
    simp [sharing, leave_alive]
  · simp [sharing, leave_alive, same]

theorem leave_numOpenConnections (user : PoolUser) :
    (p.leave useSharedThreadPool user).numOpenConnections =
      if useSharedThreadPool user then p.numOpenConnections - 1 else p.numOpenConnections := by
  cases shared : useSharedThreadPool user <;> simp [leave, shared, setAlive, decrementConnectionsCounter]

/-- The state behind a start that succeeds. -/
private def entered (p : SharedThreadPool) (user : PoolUser) : SharedThreadPool :=
  p.incremntConnectionsCounter.setAlive user true

private theorem entered_sharing (succeeds : fails action = false) :
    (p.Joins useSharedThreadPool action user →
      (p.entered user).sharing useSharedThreadPool = insert user (p.sharing useSharedThreadPool)) ∧
    (¬ p.Joins useSharedThreadPool action user →
      (p.entered user).sharing useSharedThreadPool = p.sharing useSharedThreadPool) := by
  constructor
  · intro joins
    exact setAlive_sharing user joins.shared
  · intro other
    cases shared : useSharedThreadPool user with
    | false => exact setAlive_sharing_private true shared
    | true =>
      cases alive : p.alive user with
      | false => exact absurd ⟨shared, alive, succeeds⟩ other
      | true =>
        have member : user ∈ p.sharing useSharedThreadPool := ⟨shared, alive⟩
        exact (setAlive_sharing user shared).trans (Set.insert_eq_of_mem member)

/-- Every start is counted, and who joins is added to those who share the pool. -/
theorem start_spec (taken : step useSharedThreadPool p action = some q)
    (starts : starter action = some user) :
    q.numOpenConnections = p.numOpenConnections + 1 ∧ q.shutdown = p.shutdown ∧
      (p.Joins useSharedThreadPool action user →
        q.sharing useSharedThreadPool = insert user (p.sharing useSharedThreadPool)) ∧
      (¬ p.Joins useSharedThreadPool action user →
        q.sharing useSharedThreadPool = p.sharing useSharedThreadPool) := by
  cases action with
  | serverStart server socketFails =>
    obtain rfl := Option.some.inj starts
    cases taken
    cases socketFails with
    | true => exact ⟨rfl, rfl, fun joins => absurd joins.succeeds (by simp [fails]), fun _ => rfl⟩
    | false => exact ⟨rfl, rfl, entered_sharing rfl⟩
  | connectionStart connection =>
    obtain rfl := Option.some.inj starts
    obtain ⟨_, ⟨⟩⟩ := Option.ite_none_left_eq_some.mp taken
    exact ⟨rfl, rfl, entered_sharing rfl⟩
  | serverStop | connectionEnd => cases starts

/-- What an action does to the counter and to those who share the pool. -/
theorem counter_cases (taken : step useSharedThreadPool p action = some q) :
    (∃ user, starter action = some user ∧ p.leaver action = none) ∨
    (∃ user, starter action = none ∧ p.leaver action = some user ∧ p.alive user = true ∧
      q = p.leave useSharedThreadPool user) ∨
    (starter action = none ∧ p.leaver action = none ∧ q = p) := by
  cases action with
  | serverStart server => exact .inl ⟨_, rfl, rfl⟩
  | connectionStart connection => exact .inl ⟨_, rfl, rfl⟩
  | serverStop server =>
    right
    cases alive : p.alive (.server server) with
    | true => exact .inl ⟨.server server, rfl, by simp [leaver, alive], alive, by simpa [step, alive] using taken.symm⟩
    | false => exact .inr ⟨rfl, by simp [leaver, alive], by simpa [step, alive] using taken.symm⟩
  | connectionEnd connection =>
    obtain ⟨alive, ⟨⟩⟩ := Option.ite_none_right_eq_some.mp taken
    exact .inr (.inl ⟨.connection connection, rfl, by simp [leaver, alive], alive, rfl⟩)

theorem step_finite (taken : step useSharedThreadPool p action = some q)
    (finite : (p.sharing useSharedThreadPool).Finite) : (q.sharing useSharedThreadPool).Finite := by
  rcases counter_cases taken with ⟨user, starts, -⟩ | ⟨user, -, -, -, rfl⟩ | ⟨-, -, rfl⟩
  · obtain ⟨-, -, joined, same⟩ := start_spec taken starts
    by_cases joins : p.Joins useSharedThreadPool action user
    · rw [joined joins]
      exact finite.insert user
    · rwa [same joins]
  · rw [leave_sharing]
    exact finite.sdiff
  · exact finite

private theorem toInt_succ_iff (v : JInt) (count : Nat) (exact : v.toInt = count) :
    (v + 1).toInt = (count + 1 : Nat) ↔ count + 1 < 2 ^ 31 := by
  have value : (v + 1).toInt = ((count : Int) + 1).bmod (2 ^ 32) := by
    rw [BitVec.toInt_add, exact]
    rfl
  have bound := v.toInt_lt
  rw [value]
  constructor
  · intro same
    have below : ((count : Int) + 1).bmod (2 ^ 32) < 2 ^ 31 := by
      rw [← value]
      exact (v + 1).toInt_lt
    omega
  · intro few
    rw [Int.bmod_eq_of_le (by omega) (by omega)]
    rfl

private theorem toInt_pred (v : JInt) (count : Nat) (exact : v.toInt = (count + 1 : Nat)) :
    (v - 1).toInt = count := by
  have bound := v.toInt_lt
  rw [BitVec.toInt_sub, exact]
  have one : (1 : JInt).toInt = 1 := rfl
  rw [one, Int.bmod_eq_of_le (by omega) (by omega)]
  omega

theorem start_exact_iff (taken : step useSharedThreadPool p action = some q)
    (starts : starter action = some user) (finite : (p.sharing useSharedThreadPool).Finite)
    (exact : p.Exact useSharedThreadPool) :
    q.Exact useSharedThreadPool ↔ p.Counted useSharedThreadPool action := by
  obtain ⟨counter, -, joined, same⟩ := start_spec taken starts
  by_cases joins : p.Joins useSharedThreadPool action user
  · have new : user ∉ p.sharing useSharedThreadPool := by
      rintro ⟨-, alive⟩
      rw [joins.notAlive] at alive
      cases alive
    rw [Exact, counter, joined joins, Set.ncard_insert_of_notMem new finite,
      toInt_succ_iff _ _ exact]
    constructor
    · intro few other also
      obtain rfl := Option.some.inj (starts.symm.trans also)
      exact ⟨joins, few⟩
    · intro counted
      exact (counted user starts).2
  · refine iff_of_false (fun now => ?_) fun counted => joins (counted user starts).1
    -- the counter has gone up, the number of those who share the pool has not
    rw [Exact, same joins, ← exact, counter] at now
    have up : (p.numOpenConnections + 1).toNat = p.numOpenConnections.toNat :=
      congrArg BitVec.toNat (BitVec.eq_of_toInt_eq now)
    rw [BitVec.toNat_add] at up
    have one : (1 : JInt).toNat = 1 := rfl
    omega

theorem leave_exact (finite : (p.sharing useSharedThreadPool).Finite)
    (exact : p.Exact useSharedThreadPool) (alive : p.alive user = true) :
    (p.leave useSharedThreadPool user).Exact useSharedThreadPool := by
  rw [Exact, leave_numOpenConnections, leave_sharing]
  cases shared : useSharedThreadPool user with
  | false =>
    have other : user ∉ p.sharing useSharedThreadPool := by
      rintro ⟨member, -⟩
      rw [shared] at member
      cases member
    rw [if_neg Bool.false_ne_true, Set.sdiff_singleton_eq_self other]
    exact exact
  | true =>
    have member : user ∈ p.sharing useSharedThreadPool := ⟨shared, alive⟩
    rw [if_pos rfl]
    refine toInt_pred _ _ ?_
    rw [Set.ncard_sdiff_singleton_add_one member finite]
    exact exact

/-- A user who leaves shuts the pool down if the counter says that it is the last one. -/
theorem leave_shutdown_iff (finite : (p.sharing useSharedThreadPool).Finite)
    (exact : p.Exact useSharedThreadPool) (alive : p.alive user = true) :
    (p.leave useSharedThreadPool user).shutdown = true ↔ p.shutdown = true ∨
      useSharedThreadPool user = true ∧
        (p.leave useSharedThreadPool user).sharing useSharedThreadPool = ∅ := by
  rw [leave_shutdown, Bool.or_eq_true, Bool.and_eq_true, beq_iff_eq, leave_sharing]
  refine or_congr_right (and_congr_right fun shared => ?_)
  have member : user ∈ p.sharing useSharedThreadPool := ⟨shared, alive⟩
  have counted := Set.ncard_sdiff_singleton_add_one member finite
  rw [← Set.ncard_eq_zero finite.sdiff]
  constructor
  · intro one
    rw [Exact, one] at exact
    have value : (1 : JInt).toInt = 1 := rfl
    omega
  · intro none
    apply BitVec.eq_of_toInt_eq
    rw [exact, ← counted, none]
    rfl

/-- What the pool does in a step from a state with an exact counter. -/
theorem step_exact_iff (taken : step useSharedThreadPool p action = some q)
    (finite : (p.sharing useSharedThreadPool).Finite) (exact : p.Exact useSharedThreadPool) :
    (q.Exact useSharedThreadPool ↔ p.Counted useSharedThreadPool action) ∧
      (q.shutdown = true ↔ p.shutdown = true ∨ p.LastEnds useSharedThreadPool action q) := by
  rcases counter_cases taken with ⟨user, starts, stays⟩ | ⟨user, comes, leaves, alive, rfl⟩ | ⟨comes, stays, rfl⟩
  · refine ⟨start_exact_iff taken starts finite exact, ?_⟩
    rw [(start_spec taken starts).2.1, LastEnds, stays]
    simp
  · refine ⟨iff_of_true (leave_exact finite exact alive) fun user starts => ?_, ?_⟩
    · cases comes.symm.trans starts
    · rw [leave_shutdown_iff finite exact alive, LastEnds, leaves]
      simp
  · refine ⟨iff_of_true exact fun user starts => ?_, ?_⟩
    · cases comes.symm.trans starts
    · rw [LastEnds, stays]
      simp

section Runs

variable {actions : List Action}

theorem CountsExactly.exact (counts : p.CountsExactly useSharedThreadPool actions) :
    p.Exact useSharedThreadPool :=
  (counts [] actions p rfl rfl).1

theorem countsExactly_cons (taken : step useSharedThreadPool p action = some q) :
    p.CountsExactly useSharedThreadPool (action :: actions) ↔
      p.Exact useSharedThreadPool ∧
      (q.shutdown = true ↔ p.shutdown = true ∨ p.LastEnds useSharedThreadPool action q) ∧
      q.CountsExactly useSharedThreadPool actions := by
  constructor
  · intro counts
    obtain ⟨exact, shuts⟩ := counts [] (action :: actions) p rfl rfl
    refine ⟨exact, shuts action actions q rfl taken, fun before after r split reached => ?_⟩
    refine counts (action :: before) after r (by rw [split, List.cons_append]) ?_
    rw [Run.perform, taken]
    exact reached
  · rintro ⟨exact, shuts, counts⟩ before after r split reached
    cases before with
    | nil =>
      cases reached
      refine ⟨exact, fun other rest t same other_taken => ?_⟩
      obtain ⟨rfl, rfl⟩ := List.cons.inj (split.trans same)
      obtain rfl := Option.some.inj (taken.symm.trans other_taken)
      exact shuts
    | cons first before =>
      obtain ⟨rfl, rfl⟩ := List.cons.inj split
      rw [Run.perform, taken] at reached
      exact counts before after r rfl reached

theorem countsExactly_iff (ends : Run.perform (step useSharedThreadPool) p actions = some q)
    (finite : (p.sharing useSharedThreadPool).Finite) (exact : p.Exact useSharedThreadPool) :
    p.CountsExactly useSharedThreadPool actions ↔
      Run.Meets (step useSharedThreadPool) (Counted useSharedThreadPool) p actions := by
  induction actions generalizing p with
  | nil =>
    refine iff_of_true (fun before after r split reached => ?_) trivial
    obtain ⟨rfl, rfl⟩ := List.append_eq_nil_iff.mp split.symm
    cases reached
    exact ⟨exact, fun _ _ _ none => by cases none⟩
  | cons action actions ih =>
    obtain ⟨r, taken, rest⟩ := Option.bind_eq_some_iff.mp ends
    obtain ⟨stays, shuts⟩ := step_exact_iff taken finite exact
    rw [countsExactly_cons taken, Run.Meets, taken]
    constructor
    · rintro ⟨-, -, counts⟩
      exact ⟨stays.mp counts.exact, (ih rest (step_finite taken finite) counts.exact).mp counts⟩
    · rintro ⟨counted, meets⟩
      have now := stays.mpr counted
      exact ⟨exact, shuts, (ih rest (step_finite taken finite) now).mpr meets⟩

private theorem start_sharing : ({} : SharedThreadPool).sharing useSharedThreadPool = ∅ := by
  ext user
  simp [sharing]

/-- From the start the counter is the number of users, and the pool is shut down as the
last one ends, exactly where every start is counted. -/
theorem counter_exact_iff (ends : Run.perform (step useSharedThreadPool) {} actions = some q) :
    ({} : SharedThreadPool).CountsExactly useSharedThreadPool actions ↔
      Run.Meets (step useSharedThreadPool) (Counted useSharedThreadPool) {} actions := by
  refine countsExactly_iff ends ?_ ?_
  · rw [start_sharing]
    exact Set.finite_empty
  · rw [Exact, start_sharing, Set.ncard_empty]
    rfl

def sampleCounted : List Action :=
  [.serverStart 0 false, .connectionStart 0, .serverStop 0, .connectionEnd 0]

theorem counter_exact_iff_sample :
    ({} : SharedThreadPool).CountsExactly (fun _ => true) sampleCounted := by
  have ends : ∃ q, Run.perform (step fun _ => true) {} sampleCounted = some q := ⟨_, rfl⟩
  obtain ⟨q, ends⟩ := ends
  refine (counter_exact_iff ends).mpr ⟨fun user starts => ?_, fun user starts => ?_, ?_, ?_, trivial⟩
  · cases starts
    refine ⟨⟨rfl, rfl, rfl⟩, ?_⟩
    rw [start_sharing, Set.ncard_empty]
    decide
  · cases starts
    refine ⟨⟨rfl, rfl, rfl⟩, ?_⟩
    have one : (({} : SharedThreadPool).incremntConnectionsCounter.setAlive (.server 0) true).sharing
        (fun _ => true) = insert (.server 0) (({} : SharedThreadPool).incremntConnectionsCounter.sharing
          fun _ => true) := setAlive_sharing (.server 0) rfl
    have none : ({} : SharedThreadPool).incremntConnectionsCounter.sharing (fun _ => true) = ∅ :=
      start_sharing
    rw [if_neg Bool.false_ne_true, one, none, insert_empty_eq, Set.ncard_singleton]
    decide
  · exact fun user starts => by cases starts
  · exact fun user starts => by cases starts

/-- A server whose socket cannot be created is counted and never given back. -/
theorem not_counter_exact :
    ∃ actions q, Run.perform (step fun _ => true) {} actions = some q ∧
      ¬ ({} : SharedThreadPool).CountsExactly (fun _ => true) actions := by
  refine ⟨[.serverStart 0 true], _, rfl, fun counts => ?_⟩
  have exact := (counts [.serverStart 0 true] [] _ rfl rfl).1
  have nobody : ({} : SharedThreadPool).incremntConnectionsCounter.sharing (fun _ => true) = ∅ :=
    start_sharing
  have none : (1 : JInt).toInt = (({} : SharedThreadPool).incremntConnectionsCounter.sharing
    fun _ => true).ncard := exact
  rw [nobody, Set.ncard_empty] at none
  cases none

end Runs

end SharedThreadPool

end J60870
