import J60870.Connection.SendingSide
import J60870.Lib.Holders

/-! A listening server: the thread that accepts sockets, the handlers that make
connections of them, and the number of connections that bounds them. -/

namespace J60870

open Lib

/-- What a `ServerEventListener` is told. -/
inductive ServerEvent
  | connectionIndication (slot : Nat)
  | connectionAttemptFailed (e : JavaException)
  | serverStoppedListeningIndication (e : JavaException)
  deriving DecidableEq

/-- How far `ServerThread.run` is in its loop. -/
inductive Acceptor
  | looping
  /-- at `serverSocket.accept()` -/
  | accepting
  | accepted (hostAddress : String)
  /-- the client is allowed, and `numConnections` is looked at next -/
  | admitting
  /-- the handler of the slot is about to be handed to the executor -/
  | executing (slot : Nat)
  | refusing
  | ended
  deriving DecidableEq

/-- What became of a socket that was counted. -/
inductive Stage
  /-- its handler has done nothing yet -/
  | admitted
  /-- the constructor of the connection has thrown -/
  | failing (e : JavaException)
  | failed
  | constructed
  /-- the connection, and how many calls of `close()` have closed it and are about to
  call `connectionClosedSignal()` -/
  | connected (connection : Connection) (signals : Nat)

/-- A socket that was counted, and how often `numConnections` was decremented for it. -/
structure Slot where
  stage : Stage
  decrements : Nat := 0

structure ServerThread where
  stopServer : Bool := false
  numConnections : Int := 0
  acceptor : Acceptor := .looping
  slots : List Slot := []
  events : List ServerEvent := []

namespace ServerThread

variable (settings : ConnectionSettings) (maxConnections : Int) (allowedClientIps : Option (List String))

def maximumReached : JavaException :=
  .iOException
    ("Maximum number of connections reached. Ignoring connection request. " ++
      s!"Maximum number of connections: {maxConnections}")

def allowed (hostAddress : String) : Bool :=
  match allowedClientIps with
  | none => true
  | some ips => ips.contains hostAddress

/-- The next statement of the loop, where it does not wait for a socket. -/
def advance (s : ServerThread) : Option ServerThread :=
  match s.acceptor with
  | .looping => some { s with acceptor := if s.stopServer then .ended else .accepting }
  | .accepted hostAddress =>
    some { s with acceptor := if allowed allowedClientIps hostAddress then .admitting else .looping }
  | .admitting =>
    if s.numConnections < maxConnections then
      some { s with
        numConnections := s.numConnections + 1
        acceptor := .executing s.slots.length
        slots := s.slots ++ [{ stage := .admitted }] }
    else some { s with acceptor := .refusing }
  | .executing _ => some { s with acceptor := .looping }
  | .refusing =>
    some { s with
      acceptor := .looping
      events := s.events ++ [.connectionAttemptFailed (maximumReached maxConnections)] }
  | .accepting | .ended => none

def put (s : ServerThread) (i : Nat) (slot : Slot) (stage : Stage) : ServerThread :=
  { s with slots := s.slots.set i { slot with stage := stage } }

/-- `numConnections--`, on behalf of a slot. -/
def release (s : ServerThread) (i : Nat) (slot : Slot) (stage : Stage) : ServerThread :=
  { s with
    numConnections := s.numConnections - 1
    slots := s.slots.set i ⟨stage, slot.decrements + 1⟩ }

def log (s : ServerThread) (event : ServerEvent) : ServerThread :=
  { s with events := s.events ++ [event] }

inductive SlotAction
  /-- the handler constructs the connection -/
  | construct
  | constructorThrows (e : JavaException)
  /-- the `catch` block of the handler -/
  | fail
  /-- the handler sets the listener, starts the connection and announces it -/
  | start (listener : Option Listener) (ioFails : Nat → Bool) (currentTimeMillis : Nat)
  /-- something happens to the connection -/
  | connection (action : Connection.Action)
  /-- the call of `close()` that has closed the connection calls `connectionClosedSignal()` -/
  | signal

/-- A `close()` behind its early return, which takes `closed` from false to true, owes a
signal. -/
def signalsOwed (before after : Connection) : Nat := if !before.closed && after.closed then 1 else 0

def slotStep (s : ServerThread) (i : Nat) (slot : Slot) (action : SlotAction) : Option ServerThread :=
  match action, slot.stage with
  | .construct, .admitted => if s.acceptor = .executing i then none else some (s.put i slot .constructed)
  | .constructorThrows e, .admitted =>
    if s.acceptor = .executing i ∨ e.isIOException = false then none else some (s.put i slot (.failing e))
  | .fail, .failing e => some ((s.release i slot .failed).log (.connectionAttemptFailed e))
  | .start listener ioFails currentTimeMillis, .constructed =>
    let started := Connection.started settings ioFails currentTimeMillis
    some ((s.put i slot (.connected { started with aSduListener := listener } 0)).log
      (.connectionIndication i))
  | .connection action, .connected connection signals =>
    (Connection.step settings true connection action).map fun next =>
      s.put i slot (.connected next (signals + signalsOwed connection next))
  | .signal, .connected connection (signals + 1) => some (s.release i slot (.connected connection signals))
  | _, _ => none

inductive Action
  | accept (hostAddress : String)
  | acceptFails (e : JavaException)
  | advance
  | stopServer
  | slot (i : Nat) (action : SlotAction)

def step (s : ServerThread) : Action → Option ServerThread
  | .accept hostAddress =>
    if s.acceptor = .accepting then some { s with acceptor := .accepted hostAddress } else none
  | .acceptFails e =>
    if s.acceptor = .accepting then
      let stopped := { s with acceptor := .ended }
      some (if s.stopServer then stopped else stopped.log (.serverStoppedListeningIndication e))
    else none
  | .advance => advance maxConnections allowedClientIps s
  | .stopServer => some { s with stopServer := true }
  | .slot i action => (s.slots[i]?).bind fun slot => slotStep settings s i slot action

def Step (s : ServerThread) (action : Action) (t : ServerThread) : Prop :=
  step settings maxConnections allowedClientIps s action = some t

/-- The handler of the slot has not failed, and its connection is not closed: no
`close()` has closed it and returned. -/
def inUse (slot : Slot) : Bool :=
  match slot.stage with
  | .failed => false
  | .connected connection signals => !connection.closed || 0 < signals
  | _ => true

/-- The same, by the flag `closed` alone. -/
def isOpen (slot : Slot) : Bool :=
  match slot.stage with
  | .failed | .failing _ => false
  | .connected connection _ => !connection.closed
  | _ => true

/-- No slot is about to be released: no handler is in its `catch` block, and no call of
`close()` is between the flag and the signal. -/
def settled (slot : Slot) : Bool :=
  match slot.stage with
  | .failing _ => false
  | .connected _ signals => signals == 0
  | _ => true

variable {settings : ConnectionSettings} {maxConnections : Int} {allowedClientIps : Option (List String)}
variable {s t : ServerThread}

/-- A slot is released once, by what ends its use. Only the call of `close()` that has
closed the connection signals. -/
structure Slot.Sound (settings : ConnectionSettings) (slot : Slot) : Prop where
  released : slot.decrements = if inUse slot then 0 else 1
  connected : ∀ connection signals, slot.stage = .connected connection signals →
    Connection.Bounded settings connection ∧ signals ≤ 1 ∧ (0 < signals → connection.closed = true)

/-- The counter is the number of slots in use. -/
structure Accounted (settings : ConnectionSettings) (maxConnections : Int) (s : ServerThread) : Prop where
  count : s.numConnections = s.slots.countP inUse
  limit : s.numConnections ≤ maxConnections
  slots : ∀ slot ∈ s.slots, Slot.Sound settings slot

namespace Accounted

private theorem put (accounted : Accounted settings maxConnections s) {i : Nat} {slot : Slot} {stage : Stage}
    (found : s.slots[i]? = some slot) (same : inUse { slot with stage := stage } = inUse slot)
    (sound : Slot.Sound settings { slot with stage := stage }) :
    Accounted settings maxConnections (s.put i slot stage) where
  count := by
    rw [ServerThread.put, countP_set_same found same]
    exact accounted.count
  limit := accounted.limit
  slots := forall_mem_set accounted.slots sound

private theorem release (accounted : Accounted settings maxConnections s) {i : Nat} {slot : Slot}
    {stage : Stage} (found : s.slots[i]? = some slot) (held : inUse slot = true)
    (free : inUse ⟨stage, slot.decrements + 1⟩ = false)
    (connected : ∀ connection signals, stage = .connected connection signals →
      Connection.Bounded settings connection ∧ signals ≤ 1 ∧ (0 < signals → connection.closed = true)) :
    Accounted settings maxConnections (s.release i slot stage) where
  count := by
    have one := countP_set_release found held free
    have count := accounted.count
    rw [ServerThread.release]
    simp only
    omega
  limit := by
    have limit := accounted.limit
    rw [ServerThread.release]
    simp only
    omega
  slots := by
    have once : slot.decrements = 0 := by
      rw [(accounted.slots slot (List.mem_of_getElem? found)).released, if_pos held]
    refine forall_mem_set accounted.slots ⟨?_, connected⟩
    rw [free]
    simp only [once]
    rfl

private theorem congr (accounted : Accounted settings maxConnections s)
    (count : t.numConnections = s.numConnections) (slots : t.slots = s.slots) :
    Accounted settings maxConnections t where
  count := by rw [count, slots, accounted.count]
  limit := by rw [count]; exact accounted.limit
  slots := by rw [slots]; exact accounted.slots

private theorem advance (accounted : Accounted settings maxConnections s)
    (taken : ServerThread.advance maxConnections allowedClientIps s = some t) :
    Accounted settings maxConnections t := by
  cases at_ : s.acceptor <;> simp only [ServerThread.advance, at_] at taken
  case admitting =>
    split at taken
    · next room =>
      cases taken
      have fresh : Slot.Sound settings { stage := .admitted } := ⟨rfl, fun _ _ connected => by cases connected⟩
      constructor
      case count =>
        simp only [List.countP_append, accounted.count]
        rfl
      case limit => exact room
      case slots =>
        intro slot member
        rcases List.mem_append.mp member with before | now
        · exact accounted.slots slot before
        · rw [List.mem_singleton.mp now]
          exact fresh
    · cases taken
      exact accounted.congr rfl rfl
  case accepting => cases taken
  case ended => cases taken
  all_goals
    cases taken
    exact accounted.congr rfl rfl

private theorem sound_connection {slot : Slot} {connection next : Connection} {signals : Nat}
    {action : Connection.Action} (sound : Slot.Sound settings slot)
    (stage : slot.stage = .connected connection signals)
    (taken : Connection.Step settings true connection action next) :
    inUse { slot with stage := .connected next (signals + signalsOwed connection next) } = inUse slot ∧
      Slot.Sound settings { slot with stage := .connected next (signals + signalsOwed connection next) } := by
  obtain ⟨bounded, one, closed⟩ := sound.connected connection signals stage
  have stays := Connection.closed_stays bounded taken
  have bounded' : Connection.Bounded settings next :=
    Connection.Bounded.preserves.step bounded trivial taken
  have owes : signals + signalsOwed connection next ≤ 1 ∧
      (0 < signals + signalsOwed connection next → next.closed = true) ∧
      (!next.closed || decide (0 < signals + signalsOwed connection next)) =
        (!connection.closed || decide (0 < signals)) := by
    cases before : connection.closed with
    | true =>
      have after := stays before
      simp only [signalsOwed, before, after, Bool.not_true, Bool.false_and, Bool.false_eq_true, if_false,
        Nat.add_zero]
      exact ⟨one, fun _ => trivial, trivial⟩
    | false =>
      have silent : signals = 0 := by
        by_contra some
        rw [closed (by omega)] at before
        cases before
      cases after : next.closed <;> simp [signalsOwed, before, after, silent]
  have same : inUse { slot with stage := .connected next (signals + signalsOwed connection next) } = inUse slot := by
    simp only [inUse, stage]
    exact owes.2.2
  refine ⟨same, ?_, ?_⟩
  · rw [same]
    exact sound.released
  · rintro _ _ ⟨⟩
    exact ⟨bounded', owes.1, owes.2.1⟩

private theorem sound_of_use {slot : Slot} {stage : Stage}
    (plain : ∀ connection signals, stage ≠ .connected connection signals)
    (sound : Slot.Sound settings slot) (same : inUse { slot with stage := stage } = inUse slot) :
    Slot.Sound settings { slot with stage := stage } where
  released := by
    rw [same]
    exact sound.released
  connected connection signals connected := absurd connected (plain connection signals)

private theorem slotStep (accounted : Accounted settings maxConnections s) {i : Nat} {slot : Slot}
    {action : SlotAction} (found : s.slots[i]? = some slot)
    (taken : ServerThread.slotStep settings s i slot action = some t) :
    Accounted settings maxConnections t := by
  have sound := accounted.slots slot (List.mem_of_getElem? found)
  cases stage : slot.stage <;> cases action <;> simp only [ServerThread.slotStep, stage] at taken
  case admitted.construct =>
    obtain ⟨_, ⟨⟩⟩ := Option.ite_none_left_eq_some.mp taken
    have same : inUse { slot with stage := .constructed } = inUse slot := by simp [inUse, stage]
    exact accounted.put found same (sound_of_use (by simp) sound same)
  case admitted.constructorThrows e =>
    obtain ⟨_, ⟨⟩⟩ := Option.ite_none_left_eq_some.mp taken
    have same : inUse { slot with stage := .failing e } = inUse slot := by simp [inUse, stage]
    exact accounted.put found same (sound_of_use (by simp) sound same)
  case failing.fail e =>
    cases taken
    have held : inUse slot = true := by simp [inUse, stage]
    exact (accounted.release found held rfl fun _ _ connected => by cases connected).congr rfl rfl
  case constructed.start listener ioFails now =>
    cases taken
    have held : inUse slot = true := by simp [inUse, stage]
    have bounded : Connection.Bounded settings
        { Connection.started settings ioFails now with aSduListener := listener } :=
      (Connection.Bounded.started ioFails now).congr rfl
    refine (accounted.put found (held.symm ▸ rfl) ⟨?_, ?_⟩).congr rfl rfl
    · rw [sound.released, held]
      rfl
    · rintro _ _ ⟨⟩
      exact ⟨bounded, Nat.zero_le 1, fun positive => absurd positive (Nat.lt_irrefl 0)⟩
  case connected.connection connection signals action =>
    obtain ⟨next, moved, rfl⟩ := Option.map_eq_some_iff.mp taken
    obtain ⟨same, sound⟩ := sound_connection sound stage moved
    exact accounted.put found same sound
  case connected.signal connection signals =>
    cases signals with
    | zero => cases taken
    | succ signals =>
      cases taken
      obtain ⟨bounded, one, closed⟩ := sound.connected connection _ stage
      have silent : signals = 0 := by omega
      have held : inUse slot = true := by simp [inUse, stage]
      have free : inUse ⟨.connected connection signals, slot.decrements + 1⟩ = false := by
        simp [inUse, closed, silent]
      apply accounted.release found held free
      rintro _ _ ⟨⟩
      exact ⟨bounded, by omega, by omega⟩
  all_goals cases taken

private theorem step {action : Action} (accounted : Accounted settings maxConnections s)
    (taken : Step settings maxConnections allowedClientIps s action t) :
    Accounted settings maxConnections t := by
  cases action with
  | accept hostAddress =>
    obtain ⟨_, ⟨⟩⟩ := Option.ite_none_right_eq_some.mp taken
    exact accounted.congr rfl rfl
  | acceptFails e =>
    obtain ⟨_, ⟨⟩⟩ := Option.ite_none_right_eq_some.mp taken
    cases s.stopServer <;> exact accounted.congr rfl rfl
  | advance => exact accounted.advance taken
  | stopServer =>
    cases taken
    exact accounted.congr rfl rfl
  | slot i action =>
    obtain ⟨slot, found, taken⟩ := Option.bind_eq_some_iff.mp taken
    exact accounted.slotStep found taken

theorem of_run (positive : 1 ≤ maxConnections) {actions : List Action}
    (run : Run (Step settings maxConnections allowedClientIps) {} actions s) :
    Accounted settings maxConnections s := by
  refine run.invariant ⟨rfl, ?_, ?_⟩ fun _ _ _ accounted taken => accounted.step taken
  · exact Int.le_of_lt positive
  · intro slot member
    cases member

end Accounted

private theorem isOpen_of_settled {slot : Slot} (settled : settled slot) : isOpen slot = inUse slot := by
  cases stage : slot.stage with
  | connected connection signals =>
    have silent : signals = 0 := by simpa [ServerThread.settled, stage] using settled
    simp [isOpen, inUse, stage, silent]
  | failing e =>
    rw [ServerThread.settled, stage] at settled
    cases settled
  | admitted => simp [isOpen, inUse, stage]
  | failed => simp [isOpen, inUse, stage]
  | constructed => simp [isOpen, inUse, stage]

private theorem isOpen_le {slot : Slot} (isOpen : isOpen slot = true) : inUse slot = true := by
  cases stage : slot.stage <;> simp_all [ServerThread.isOpen, inUse]

/-- The count of the connections in every state reached, whatever the order of the
threads. It is the number of slots in use, stays within its bounds, and is decremented
once for each slot that goes out of use. It is never below the number of slots whose
handler has not failed and whose connection does not have the flag `closed`, and equals
it where no release is under way. A client is refused when all slots are in use. -/
theorem slots_accounted (positive : 1 ≤ maxConnections) {actions : List Action}
    (run : Run (Step settings maxConnections allowedClientIps) {} actions s) :
    s.numConnections = s.slots.countP inUse ∧
    0 ≤ s.numConnections ∧ s.numConnections ≤ maxConnections ∧
    (∀ slot ∈ s.slots, slot.decrements = if inUse slot then 0 else 1) ∧
    (s.slots.countP isOpen : Int) ≤ s.numConnections ∧
    ((∀ slot ∈ s.slots, settled slot) → s.numConnections = s.slots.countP isOpen) ∧
    ∀ t, Step settings maxConnections allowedClientIps s .advance t → s.acceptor = .admitting →
      t.acceptor = .refusing → (s.slots.countP inUse : Int) = maxConnections := by
  obtain ⟨count, limit, slots⟩ := Accounted.of_run positive run
  refine ⟨count, ?_, limit, fun slot member => (slots slot member).released, ?_, fun settled => ?_, ?_⟩
  · rw [count]
    exact Int.natCast_nonneg _
  · rw [count]
    exact Int.ofNat_le.mpr (List.countP_mono_left fun slot _ => isOpen_le)
  · rw [count, List.countP_congr]
    intro slot member
    rw [isOpen_of_settled (settled slot member)]
  · intro t taken admitting refusing
    simp only [Step, step, advance, admitting] at taken
    split at taken
    · cases taken
      cases refusing
    · next full => omega

/-- Two clients and room for one. The first is closed by its peer and by the application,
which lets a third one in, whose constructor fails. -/
def sampleActions : List Action :=
  [.advance, .accept "10.0.0.1", .advance, .advance, .advance, .slot 0 .construct,
    .slot 0 (.start none (fun _ => false) 0), .advance, .accept "10.0.0.2", .advance, .advance, .advance,
    .slot 0 (.connection .close), .slot 0 (.connection (.readFailure endOfStream)),
    .slot 0 (.connection .endReader), .slot 0 .signal, .advance, .accept "10.0.0.3", .advance, .advance,
    .advance, .slot 1 (.constructorThrows (.iOException "Socket is closed")), .slot 1 .fail]

/-- The same up to the second client, who finds no room. -/
theorem slots_accounted_sample :
    (∃ s t, Run (Step {} 1 none) {} (sampleActions.take 10) s ∧ Step {} 1 none s .advance t ∧
      t.acceptor = .refusing ∧ (s.slots.countP inUse : Int) = 1) ∧
    ∃ s, Run (Step {} 1 none) {} sampleActions s ∧ s.numConnections = s.slots.countP isOpen ∧
      s.slots.map (fun slot => slot.decrements) = [1, 1] ∧ s.numConnections = 0 := by
  constructor
  · have ends : ∃ s, Run.perform (step {} 1 none) {} (sampleActions.take 10) = some s ∧
        s.acceptor = .admitting ∧ ∃ t, step {} 1 none s .advance = some t ∧ t.acceptor = .refusing :=
      ⟨_, rfl, rfl, _, rfl, rfl⟩
    obtain ⟨s, run, admitting, t, taken, refusing⟩ := ends
    have run : Run (Step {} 1 none) {} (sampleActions.take 10) s := Run.of_perform run
    obtain ⟨-, -, -, -, -, -, refused⟩ := slots_accounted (Int.le_refl 1) run
    exact ⟨s, t, run, taken, refusing, refused t taken admitting refusing⟩
  · have ends : ∃ s, Run.perform (step {} 1 none) {} sampleActions = some s ∧
        s.slots.map (fun slot => slot.decrements) = [1, 1] ∧ s.numConnections = 0 ∧
        s.slots.all settled = true :=
      ⟨_, rfl, rfl, rfl, rfl⟩
    obtain ⟨s, run, once, empty, settled⟩ := ends
    have run : Run (Step {} 1 none) {} sampleActions s := Run.of_perform run
    obtain ⟨-, -, -, -, -, equal, -⟩ := slots_accounted (Int.le_refl 1) run
    exact ⟨s, run, equal (List.all_eq_true.mp settled), once, empty⟩

end ServerThread

end J60870
