import J60870.Java
import J60870.Lib.Run

/-! The thread pool that the servers and the connections of a process share, and the
counter by which it is shut down. -/

namespace J60870

open Lib

/-- The objects that use a pool. Which one is a setting of the object. -/
inductive PoolUser
  | server (object : Nat)
  | connection (object : Nat)
  deriving DecidableEq

/-- The static part of `ConnectionSettings`, and the life of the objects that use it. -/
structure SharedThreadPool where
  numOpenConnections : JInt := 0
  shutdown : Bool := false
  /-- the servers whose `serverThread` is not null, and the connections whose reader has
  not called `closeThreadPool` -/
  alive : PoolUser → Bool := fun _ => false
  /-- the connections that were started, which happens once -/
  started : List Nat := []

namespace SharedThreadPool

variable (useSharedThreadPool : PoolUser → Bool)

section Operations

def incremntConnectionsCounter (p : SharedThreadPool) : SharedThreadPool :=
  { p with numOpenConnections := p.numOpenConnections + 1 }

def decrementConnectionsCounter (p : SharedThreadPool) : SharedThreadPool :=
  let numOpenConnections := p.numOpenConnections - 1
  { p with
    numOpenConnections := numOpenConnections
    shutdown := p.shutdown || numOpenConnections == 0 }

def setAlive (p : SharedThreadPool) (user : PoolUser) (alive : Bool) : SharedThreadPool :=
  { p with alive := Function.update p.alive user alive }

/-- A user is done. A private pool is shut down with it, which nobody else sees. -/
def leave (p : SharedThreadPool) (user : PoolUser) : SharedThreadPool :=
  (if useSharedThreadPool user then p.decrementConnectionsCounter else p).setAlive user false

end Operations

inductive Action
  /-- `Server.start`, where `createServerSocket` may throw -/
  | serverStart (server : Nat) (socketFails : Bool)
  | serverStop (server : Nat)
  | connectionStart (connection : Nat)
  /-- the reader of the connection calls `closeThreadPool` -/
  | connectionEnd (connection : Nat)

def step (p : SharedThreadPool) : Action → Option SharedThreadPool
  | .serverStart server socketFails =>
    let counted := p.incremntConnectionsCounter
    some (if socketFails then counted else counted.setAlive (.server server) true)
  | .serverStop server =>
    some (if p.alive (.server server) then p.leave useSharedThreadPool (.server server) else p)
  | .connectionStart connection =>
    if connection ∈ p.started then none
    else some
      { p.incremntConnectionsCounter.setAlive (.connection connection) true with
        started := connection :: p.started }
  | .connectionEnd connection =>
    if p.alive (.connection connection) then some (p.leave useSharedThreadPool (.connection connection))
    else none

def starter : Action → Option PoolUser
  | .serverStart server _ => some (.server server)
  | .connectionStart connection => some (.connection connection)
  | _ => none

def leaver (p : SharedThreadPool) : Action → Option PoolUser
  | .serverStop server => if p.alive (.server server) then some (.server server) else none
  | .connectionEnd connection => if p.alive (.connection connection) then some (.connection connection) else none
  | _ => none

/-- A start that takes its threads from the shared pool. -/
def SharedStart (action : Action) : Prop := ∃ user, starter action = some user ∧ useSharedThreadPool user = true

/-- Whenever the shared pool is used it is not shut down: in every state for those who
live, and at every start. -/
def Usable (actions : List Action) : Prop :=
  ∀ before after p, actions = before ++ after →
    Run.perform (step useSharedThreadPool) {} before = some p →
    (∀ user, useSharedThreadPool user = true → p.alive user = true → p.shutdown = false) ∧
    ∀ action rest, after = action :: rest → SharedStart useSharedThreadPool action → p.shutdown = false

/-- Whoever leaves the shared pool with the counter at one is its last user: nobody else
who shares it is alive, and nobody starts with it afterwards. -/
def LastLeaves (actions : List Action) : Prop :=
  ∀ before action after p user, actions = before ++ action :: after →
    Run.perform (step useSharedThreadPool) {} before = some p →
    p.leaver action = some user → useSharedThreadPool user = true → p.numOpenConnections = 1 →
    (∀ other, useSharedThreadPool other = true → p.alive other = true → other = user) ∧
    ∀ later ∈ after, ¬ SharedStart useSharedThreadPool later

variable {useSharedThreadPool : PoolUser → Bool} {p q : SharedThreadPool} {action : Action}

@[simp] theorem incremntConnectionsCounter_shutdown : p.incremntConnectionsCounter.shutdown = p.shutdown := rfl

@[simp] theorem incremntConnectionsCounter_alive : p.incremntConnectionsCounter.alive = p.alive := rfl

@[simp] theorem setAlive_shutdown (user : PoolUser) (alive : Bool) : (p.setAlive user alive).shutdown = p.shutdown :=
  rfl

@[simp] theorem setAlive_alive_other {user other : PoolUser} (alive : Bool) (different : other ≠ user) :
    (p.setAlive user alive).alive other = p.alive other :=
  Function.update_of_ne different ..

theorem leave_alive (user other : PoolUser) :
    (p.leave useSharedThreadPool user).alive other = if other = user then false else p.alive other := by
  cases shared : useSharedThreadPool user <;>
    simp [leave, shared, setAlive, decrementConnectionsCounter, Function.update_apply]

/-- The pool is shut down by a shared user who leaves with the counter at one. -/
theorem leave_shutdown (user : PoolUser) :
    (p.leave useSharedThreadPool user).shutdown =
      (p.shutdown || useSharedThreadPool user && p.numOpenConnections == 1) := by
  cases shared : useSharedThreadPool user with
  | false => simp [leave, shared]
  | true =>
    have last : (p.numOpenConnections - 1#32 == 0#32) = (p.numOpenConnections == 1#32) := by
      rw [Bool.eq_iff_iff, beq_iff_eq, beq_iff_eq, BitVec.sub_eq_iff_eq_add, BitVec.zero_add]
    simp [leave, shared, decrementConnectionsCounter, last]

/-- What an action does to the flag and to those who live. -/
theorem step_cases (taken : step useSharedThreadPool p action = some q) :
    (∃ user, p.leaver action = some user ∧ starter action = none ∧ q = p.leave useSharedThreadPool user) ∨
    (p.leaver action = none ∧ q.shutdown = p.shutdown ∧
      ∀ other, starter action ≠ some other → q.alive other = p.alive other) := by
  cases action with
  | serverStart server socketFails =>
    right
    cases taken
    cases socketFails
    · refine ⟨rfl, rfl, fun other different => ?_⟩
      exact setAlive_alive_other true fun same => different (congrArg some same.symm)
    · exact ⟨rfl, rfl, fun _ _ => rfl⟩
  | serverStop server =>
    cases taken
    cases alive : p.alive (.server server) with
    | true => exact .inl ⟨.server server, by simp [leaver, alive], rfl, by simp⟩
    | false => exact .inr ⟨by simp [leaver, alive], by simp, by simp⟩
  | connectionStart connection =>
    right
    obtain ⟨_, ⟨⟩⟩ := Option.ite_none_left_eq_some.mp taken
    refine ⟨rfl, rfl, fun other different => ?_⟩
    exact setAlive_alive_other true fun same => different (congrArg some same.symm)
  | connectionEnd connection =>
    obtain ⟨alive, ⟨⟩⟩ := Option.ite_none_right_eq_some.mp taken
    exact .inl ⟨.connection connection, by simp [leaver, alive], rfl, rfl⟩

theorem step_of_leaver {user : PoolUser} (taken : step useSharedThreadPool p action = some q)
    (leaves : p.leaver action = some user) : q = p.leave useSharedThreadPool user := by
  rcases step_cases taken with ⟨gone, found, -, rfl⟩ | ⟨found, -⟩
  · obtain rfl := Option.some.inj (leaves.symm.trans found)
    rfl
  · cases leaves.symm.trans found

theorem shutdown_stays (taken : step useSharedThreadPool p action = some q) (down : p.shutdown = true) :
    q.shutdown = true := by
  rcases step_cases taken with ⟨user, -, -, rfl⟩ | ⟨-, same, -⟩
  · simp [leave_shutdown, down]
  · exact same.trans down

section Runs

variable {before after actions : List Action}

private theorem perform_snoc (ends : Run.perform (step useSharedThreadPool) {} before = some p)
    (taken : step useSharedThreadPool p action = some q) :
    Run.perform (step useSharedThreadPool) {} (before ++ [action]) = some q := by
  rw [Run.perform_append, ends]
  simp [Run.perform, taken]

private theorem shutdown_stays_perform (ends : Run.perform (step useSharedThreadPool) p after = some q)
    (down : p.shutdown = true) : q.shutdown = true := by
  have run : Run (fun p action q => step useSharedThreadPool p action = some q) p after q := Run.of_perform ends
  exact run.invariant down fun _ _ _ down taken => shutdown_stays taken down

private theorem none_alive (ends : Run.perform (step useSharedThreadPool) p after = some q)
    (quiet : ∀ action ∈ after, ¬ SharedStart useSharedThreadPool action)
    (nobody : ∀ user, useSharedThreadPool user = true → p.alive user = false) :
    ∀ user, useSharedThreadPool user = true → q.alive user = false := by
  induction after generalizing p with
  | nil =>
    cases ends
    exact nobody
  | cons action after ih =>
    obtain ⟨r, taken, rest⟩ := Option.bind_eq_some_iff.mp ends
    refine ih rest (fun later member => quiet later (List.mem_cons_of_mem action member)) ?_
    intro user shared
    rcases step_cases taken with ⟨gone, -, -, rfl⟩ | ⟨-, -, others⟩
    · rw [leave_alive, nobody user shared, ite_self]
    · rw [others user, nobody user shared]
      exact fun starts => quiet action List.mem_cons_self ⟨user, starts, shared⟩

private theorem exists_last (ends : Run.perform (step useSharedThreadPool) p actions = some q)
    (up : p.shutdown = false) (down : q.shutdown = true) :
    ∃ before action after r user, actions = before ++ action :: after ∧
      Run.perform (step useSharedThreadPool) p before = some r ∧
      Run.perform (step useSharedThreadPool) (r.leave useSharedThreadPool user) after = some q ∧
      r.leaver action = some user ∧ useSharedThreadPool user = true ∧ r.numOpenConnections = 1 := by
  -- A pool that is shut down was so by a shared user who left with the counter at one.
  induction actions generalizing p with
  | nil =>
    cases ends
    rw [up] at down
    cases down
  | cons action actions ih =>
    obtain ⟨r, taken, rest⟩ := Option.bind_eq_some_iff.mp ends
    cases now : r.shutdown with
    | false =>
      obtain ⟨before, leave, after, t, user, rfl, first, second, last⟩ := ih rest now
      refine ⟨action :: before, leave, after, t, user, rfl, ?_, second, last⟩
      rw [Run.perform, taken]
      exact first
    | true =>
      rcases step_cases taken with ⟨user, leaves, -, rfl⟩ | ⟨-, same, -⟩
      · rw [leave_shutdown, up, Bool.false_or, Bool.and_eq_true, beq_iff_eq] at now
        exact ⟨[], action, actions, p, user, rfl, rfl, rest, leaves, now.1, now.2⟩
      · rw [same, up] at now
        cases now

private theorem lastLeaves_of_usable (ends : Run.perform (step useSharedThreadPool) {} actions = some q)
    (usable : Usable useSharedThreadPool actions) : LastLeaves useSharedThreadPool actions := by
  -- Behind a leaving with the counter at one the pool is down, so nobody may use it then.
  intro before action after p user split reached leaves shared one
  rw [split, Run.perform_append, reached, Option.bind_some] at ends
  obtain ⟨r, taken, rest⟩ := Option.bind_eq_some_iff.mp ends
  have left : r = p.leave useSharedThreadPool user := step_of_leaver taken leaves
  have down : r.shutdown = true := by simp [left, leave_shutdown, shared, one]
  have behind := perform_snoc reached taken
  constructor
  · intro other shares alive
    by_contra different
    have lives : r.alive other = true := by rw [left, leave_alive, if_neg different, alive]
    have up := (usable _ after r (by simp [split]) behind).1 other shares lives
    rw [up] at down
    cases down
  · intro later member starts
    obtain ⟨middle, further, rfl⟩ := List.append_of_mem member
    rw [Run.perform_append] at rest
    obtain ⟨t, first, _⟩ := Option.bind_eq_some_iff.mp rest
    have there : Run.perform (step useSharedThreadPool) {} ((before ++ [action]) ++ middle) = some t := by
      rw [Run.perform_append, behind]
      exact first
    have up := (usable _ (later :: further) t (by simp [split]) there).2 later further rfl starts
    rw [shutdown_stays_perform first down] at up
    cases up

private theorem over_of_shutdown (last : LastLeaves useSharedThreadPool actions)
    (split : actions = before ++ after)
    (reached : Run.perform (step useSharedThreadPool) {} before = some p) (down : p.shutdown = true) :
    (∀ user, useSharedThreadPool user = true → p.alive user = false) ∧
      ∀ later ∈ after, ¬ SharedStart useSharedThreadPool later := by
  -- If the pool is down, the last user has left before, and nobody comes any more.
  obtain ⟨first, action, second, r, user, rfl, reached, rest, leaves, shared, one⟩ :=
    exists_last reached rfl down
  have parts : actions = first ++ action :: (second ++ after) := by simp [split]
  obtain ⟨alone, quiet⟩ := last first action (second ++ after) r user parts reached leaves shared one
  have empty : ∀ other, useSharedThreadPool other = true →
      (r.leave useSharedThreadPool user).alive other = false := by
    intro other shares
    rw [leave_alive]
    by_cases same : other = user
    · rw [if_pos same]
    · rw [if_neg same, ← Bool.not_eq_true]
      exact fun alive => same (alone other shares alive)
  constructor
  · exact none_alive rest (fun later member => quiet later (List.mem_append_left _ member)) empty
  · exact fun later member => quiet later (List.mem_append_right _ member)

/-- The pool is usable whenever it is used if and only if whoever leaves it with the
counter at one is its last user for good. -/
theorem usable_iff (ends : Run.perform (step useSharedThreadPool) {} actions = some q) :
    Usable useSharedThreadPool actions ↔ LastLeaves useSharedThreadPool actions := by
  refine ⟨lastLeaves_of_usable ends, fun last before after p split reached => ?_⟩
  constructor
  · intro user shared alive
    rw [← Bool.not_eq_true]
    intro down
    rw [(over_of_shutdown last split reached down).1 user shared] at alive
    cases alive
  · rintro action rest rfl starts
    rw [← Bool.not_eq_true]
    exact fun down => (over_of_shutdown last split reached down).2 action List.mem_cons_self starts

/-- A server is started while a connection of the pool is open, and stopped when that
has ended. -/
def sampleLives : List Action :=
  [.connectionStart 0, .serverStart 0 false, .connectionEnd 0, .serverStop 0]

theorem usable_iff_sample : Usable (fun _ => true) sampleLives := by
  have ends : ∃ q, Run.perform (step fun _ => true) {} sampleLives = some q := ⟨_, rfl⟩
  obtain ⟨q, ends⟩ := ends
  refine (usable_iff ends).mpr fun before action after p user split reached leaves _ one => ?_
  rcases before with _ | ⟨first, _ | ⟨second, _ | ⟨third, before⟩⟩⟩ <;>
    simp only [sampleLives, List.cons_append, List.nil_append, List.cons.injEq] at split
  · obtain ⟨rfl, -⟩ := split
    cases leaves
  · obtain ⟨rfl, rfl, -⟩ := split
    cases leaves
  · obtain ⟨rfl, rfl, rfl, -⟩ := split
    cases reached
    cases one
  · obtain ⟨rfl, rfl, rfl, rest⟩ := split
    obtain ⟨rfl, rfl, rfl⟩ : before = [] ∧ action = .serverStop 0 ∧ after = [] := by
      cases before <;> simp_all
    cases reached
    cases leaves
    refine ⟨fun other _ alive => ?_, by simp⟩
    rw [leave_alive] at alive
    by_cases connection : other = .connection 0
    · rw [if_pos connection] at alive
      cases alive
    · by_contra different
      rw [if_neg connection, if_neg (by decide), setAlive_alive_other true different,
        incremntConnectionsCounter_alive] at alive
      simp [setAlive, connection] at alive

/-- A server that is stopped and started again finds the pool shut down. -/
theorem not_usable :
    ∃ actions q, Run.perform (step fun _ => true) {} actions = some q ∧
      ¬ Usable (fun _ => true) actions := by
  refine ⟨[.serverStart 0 false, .serverStop 0, .serverStart 0 false], _, rfl, fun usable => ?_⟩
  have up := (usable [.serverStart 0 false, .serverStop 0] [.serverStart 0 false] _ rfl rfl).2
    (.serverStart 0 false) [] rfl ⟨.server 0, rfl, rfl⟩
  cases up

end Runs

end SharedThreadPool

end J60870
