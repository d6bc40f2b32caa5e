import J60870.Connection.ReceivingSide

/-! The S frame of `stopDataTransfer` goes out without the lock of the connection. Between
its encoding, its writing and its recording the other threads take their steps. -/

namespace J60870

open Lib Method

/-- How far a thread is in the `sendSFormatPdu` of its `stopDataTransfer`. -/
inductive Confirming
  | outside
  /-- something is unconfirmed, and nothing is encoded yet -/
  | entered
  | encoded
  | written
  deriving DecidableEq, Repr

/-- A connection, and where the threads are that confirm without the lock. -/
structure Interleaved where
  connection : Connection
  confirming : Nat → Confirming := fun _ => .outside

namespace Interleaved

open Connection (Action Body)

variable (settings : ConnectionSettings) (server : Bool)

section Steps

/-- `os.write(buffer, 0, length)` and `os.flush()`. The buffer belongs to the connection:
what goes out is the header that is in it now. -/
def writeBuffer : Body Unit := do
  Connection.write (APdu.header (← get).buffer)
  Connection.flush

/-- What `sendSFormatPdu` and its caller do behind the writing. -/
def record : Body Unit := do
  modify fun c => { c with acknowledgedReceiveSequenceNumber := c.receiveSequenceNumber }
  Connection.resetMaxIdleTimeTimer
  Connection.cancelIfPlanned .maxTimeNoAckSentTimer

def throwFrom (thread : Nat) (e : JavaException) : Body Unit := do
  Connection.setCall thread .idle
  Connection.log (.threw thread e)

def moved (s : Interleaved) (thread : Nat) (connection : Connection) (point : Confirming) : Interleaved :=
  ⟨connection, Function.update s.confirming thread point⟩

/-- The next step of a thread in `sendSFormatIfUnconfirmedAPdu` that does not hold the lock:
the block that looks at the numbers, and then the parts of `sendSFormatPdu`. -/
def confirm (s : Interleaved) (thread : Nat) : Interleaved :=
  match s.confirming thread with
  | .outside =>
    if 0 < s.connection.numUnconfirmedIPdusReceived then s.moved thread s.connection .entered
    else s.moved thread ((Connection.setCall thread .stopConfirmed).outcome s.connection) .outside
  | .entered =>
    let aPdu := APdu.sFormat s.connection.receiveSequenceNumber
    s.moved thread ((Connection.encode settings aPdu).outcome s.connection) .encoded
  | .encoded =>
    match writeBuffer s.connection with
    | .ok _ c => s.moved thread c .written
    | .error e c => s.moved thread ((throwFrom thread e).outcome c) .outside
  | .written =>
    let recorded := record.outcome s.connection
    s.moved thread ((Connection.setCall thread .stopConfirmed).outcome recorded) .outside

def confirmer (s : Interleaved) : Action → Option Nat
  | .proceed thread => if s.connection.calls thread = .stopBegun then some thread else none
  | _ => none

/-- The other steps are those of the connection. -/
def step (s : Interleaved) (action : Action) : Option Interleaved :=
  match s.confirmer action with
  | some thread => some (s.confirm settings thread)
  | none =>
    (Connection.step settings server s.connection action).map fun c => { s with connection := c }

def Step (s : Interleaved) (action : Action) (t : Interleaved) : Prop :=
  step settings server s action = some t

def started (ioFails : Nat → Bool) (currentTimeMillis : Nat) : Interleaved where
  connection := Connection.started settings ioFails currentTimeMillis

end Steps

def Quiet (s : Interleaved) : Prop := ∀ thread, s.confirming thread = .outside

/-- What threads have written without the lock they have also recorded. -/
def Recorded (s : Interleaved) : Prop := ∀ thread, s.confirming thread ≠ .written

/-- The steps that can part what is recorded from what is written: those of the connection,
an S frame that is written without the lock and not flushed, and the recording, if an I frame
has been accepted since the frame written last was encoded. While another thread has yet to
record, nothing is asked. -/
def RecordKept (settings : ConnectionSettings) (s : Interleaved) (action : Action) : Prop :=
  match s.confirmer action with
  | some thread => s.connection.IsOpen → (s.moved thread s.connection .outside).Recorded →
    match s.confirming thread with
    | .outside | .entered => True
    | .encoded => s.connection.announced = some s.connection.acknowledgedReceiveSequenceNumber ∨
        s.connection.Flushes
    | .written => s.connection.receiveSequenceNumber = s.connection.lastConfirmation
  | none => s.Recorded → s.connection.RecordKept settings action

end Interleaved

section History

open Connection

/-- What a run has shown: how many I frames were accepted, and how many of them each I or S
frame written confirms. -/
structure History where
  accepted : Nat := 0
  confirmed : List Nat := []

/-- The count a receive number stands for: the last one up to `accepted` with its remainder. -/
def cumulative (accepted number : Nat) : Nat :=
  accepted - sequenceNumberDiff (accepted % 2 ^ 15) number

namespace History

def acceptedBy (h : History) (c d : Connection) : Nat :=
  if d.receiveSequenceNumber = c.receiveSequenceNumber then h.accepted else h.accepted + 1

def extend (h : History) (c d : Connection) : History where
  accepted := h.acceptedBy c d
  confirmed := h.confirmed ++
    (d.confirmations.drop c.confirmations.length).map (cumulative (h.acceptedBy c d))

end History

/-- The history of a run of the interleaved system. -/
def Interleaved.observe (settings : ConnectionSettings) (server : Bool) (s : Interleaved)
    (action : Action) (h : History) : History :=
  match s.step settings server action with
  | some t => h.extend s.connection t.connection
  | none => h

end History

theorem cumulative_self (accepted : Nat) : cumulative accepted (accepted % 2 ^ 15) = accepted := by
  simp [cumulative]

/-- A count that was reached stands for itself, or for a later one with the same remainder. -/
theorem cumulative_mod {count accepted : Nat} (reached : count ≤ accepted) :
    count ≤ cumulative accepted (count % 2 ^ 15) ∧ cumulative accepted (count % 2 ^ 15) ≤ accepted ∧
      cumulative accepted (count % 2 ^ 15) % 2 ^ 15 = count % 2 ^ 15 := by
  simp only [cumulative, Connection.sequenceNumberDiff]
  split <;> omega

/-- What was confirmed never went backwards, and the header in the buffer would not go
backwards either. -/
structure Consistent (c : Connection) (h : History) : Prop where
  receive : c.receiveSequenceNumber = h.accepted % 2 ^ 15
  confirmations : c.confirmations = h.confirmed.map (· % 2 ^ 15)
  forward : h.confirmed.Pairwise (· ≤ ·)
  announced : ∃ count ≤ h.accepted, c.announced = some (count % 2 ^ 15) ∧
    ∀ earlier ∈ h.confirmed, earlier ≤ count

namespace Consistent

variable {c d : Connection} {h : History}

theorem receive_lt (consistent : Consistent c h) : c.receiveSequenceNumber < 2 ^ 15 := by
  rw [consistent.receive]
  exact Nat.mod_lt _ (Nat.two_pow_pos 15)

theorem within (consistent : Consistent c h) {count : Nat} (member : count ∈ h.confirmed) :
    count ≤ h.accepted := by
  obtain ⟨latest, reached, -, before⟩ := consistent.announced
  exact (before count member).trans reached

private theorem append {confirmed : List Nat} (forward : confirmed.Pairwise (· ≤ ·)) {latest : Nat}
    (before : ∀ earlier ∈ confirmed, earlier ≤ latest) (n : Nat) :
    (confirmed ++ List.replicate n latest).Pairwise (· ≤ ·) ∧
      ∀ earlier ∈ confirmed ++ List.replicate n latest, earlier ≤ latest := by
  -- A later step confirms a count that is not less than those before.
  constructor
  · refine List.pairwise_append.mpr ⟨forward, ?_, fun earlier member later repeated => ?_⟩
    · exact List.pairwise_replicate.mpr (.inr (Nat.le_refl _))
    · rw [List.eq_of_mem_replicate repeated]
      exact before earlier member
  · intro earlier member
    rcases List.mem_append.mp member with member | repeated
    · exact before earlier member
    · exact Nat.le_of_eq (List.eq_of_mem_replicate repeated)

/-- A step that confirms only the number behind what it has counted. -/
theorem advance (consistent : Consistent c h) (advanced : Connection.Advanced c d) :
    Consistent d (h.extend c d) := by
  obtain ⟨receive, confirmations, forward, latest, reached, announced, before⟩ := consistent
  have current : d.receiveSequenceNumber = h.acceptedBy c d % 2 ^ 15 := by
    rw [History.acceptedBy]
    split
    case isTrue same => rw [same, receive]
    case isFalse differs =>
      have moved := advanced.counted.resolve_left differs
      omega
  have later : h.accepted ≤ h.acceptedBy c d := by
    rw [History.acceptedBy]
    split <;> omega
  obtain ⟨n, confirmed⟩ := advanced.confirmed
  have added : (h.extend c d).confirmed = h.confirmed ++ List.replicate n (h.acceptedBy c d) := by
    rw [History.extend, confirmed, List.drop_left, List.map_replicate, current, cumulative_self]
  constructor
  case receive => exact current
  case confirmations =>
    rw [added, List.map_append, List.map_replicate, confirmed, confirmations, current]
  case forward =>
    rw [added]
    exact (append forward (fun earlier member => (before earlier member).trans (reached.trans later)) n).1
  case announced =>
    rcases advanced.announced with ⟨unconfirmed, same⟩ | announces
    · have none : (h.extend c d).confirmed = h.confirmed := by
        rw [History.extend, unconfirmed, List.drop_length, List.map_nil, List.append_nil]
      refine ⟨latest, reached.trans later, ?_, ?_⟩
      · rwa [Connection.announced, same]
      · rwa [none]
    · refine ⟨h.acceptedBy c d, Nat.le_refl _, ?_, ?_⟩
      · rw [announces, current]
      · rw [added]
        exact (append forward (fun earlier member => (before earlier member).trans (reached.trans later)) n).2

/-- The header in the buffer is written, whoever has encoded it. -/
theorem writes (consistent : Consistent c h) {number : Nat} (announced : c.announced = some number)
    (confirmed : d.confirmations = c.confirmations ++ [number])
    (same : (d.receiveSequenceNumber, d.buffer) = (c.receiveSequenceNumber, c.buffer)) :
    Consistent d (h.extend c d) := by
  obtain ⟨receive, buffer⟩ := Prod.mk.inj same
  obtain ⟨counted, confirmations, forward, latest, reached, announces, before⟩ := consistent
  obtain rfl := Option.some.inj (announced.symm.trans announces)
  obtain ⟨not_less, reached, remainder⟩ := cumulative_mod reached
  have accepted : h.acceptedBy c d = h.accepted := by rw [History.acceptedBy, if_pos receive]
  have added : (h.extend c d).confirmed =
      h.confirmed ++ List.replicate 1 (cumulative h.accepted (latest % 2 ^ 15)) := by
    rw [History.extend, confirmed, List.drop_left, accepted]
    rfl
  obtain ⟨later, bounded⟩ := append forward (fun earlier member => (before earlier member).trans not_less) 1
  constructor
  case receive => rw [receive, counted, History.extend, accepted]
  case confirmations =>
    rw [added, List.map_append, List.map_replicate, remainder, confirmed, confirmations]
    rfl
  case forward => rwa [added]
  case announced =>
    refine ⟨cumulative h.accepted (latest % 2 ^ 15), ?_, ?_, ?_⟩
    · rwa [History.extend, accepted]
    · rw [Connection.announced, buffer, remainder]
      exact announced
    · rwa [added]

theorem started (settings : ConnectionSettings) (ioFails : Nat → Bool) (now : Nat) :
    Consistent (Connection.started settings ioFails now) {} where
  receive := rfl
  confirmations := rfl
  forward := .nil
  announced := by
    have zeros : (APdu.header (Vector.replicate 255 0)).confirmation = some 0 := by decide
    exact ⟨0, Nat.le_refl _, zeros, fun _ member => absurd member List.not_mem_nil⟩

end Consistent

namespace Interleaved

open Connection (Action)

variable {settings : ConnectionSettings} {server : Bool} {s t : Interleaved} {h : History}

theorem moved_confirming (thread : Nat) (c : Connection) (point : Confirming) :
    (s.moved thread c point).confirming thread = point := Function.update_self ..

theorem moved_confirming_other {thread other : Nat} (c : Connection) (point : Confirming)
    (different : other ≠ thread) : (s.moved thread c point).confirming other = s.confirming other :=
  Function.update_of_ne different ..

theorem post_writeBuffer {c : Connection} {Q : Unit → Connection → Prop}
    {E : JavaException → Connection → Prop} :
    Post writeBuffer c Q E ↔
      (c.ioFails c.ioCalls = true → E Connection.ioFailure { c with ioCalls := c.ioCalls + 1 }) ∧
      (c.ioFails c.ioCalls = false →
        (c.ioFails (c.ioCalls + 1) = true ∨ c.closed = true →
          E Connection.ioFailure (c.sent (APdu.header c.buffer))) ∧
        (c.ioFails (c.ioCalls + 1) = false ∧ c.closed = false →
          Q () { c.sent (APdu.header c.buffer) with
            flushed := (c.sent (APdu.header c.buffer)).written.length })) := by
  simp only [writeBuffer, post_bind, post_get, Connection.post_write, Connection.post_flush]
  rfl

/-- What has to be shown of each thing a thread does that confirms without the lock. -/
structure Confirms (s : Interleaved) (thread : Nat) (P : Interleaved → Prop) : Prop where
  enter : s.confirming thread = .outside → P (s.moved thread s.connection .entered)
  pass : s.confirming thread = .outside → ∀ calls,
    P (s.moved thread { s.connection with calls := calls } .outside)
  encode : s.confirming thread = .entered →
    P (s.moved thread { s.connection with
      buffer := Connection.sFormatBuffer s.connection.buffer s.connection.receiveSequenceNumber } .encoded)
  unwritten : s.confirming thread = .encoded → ∀ ioCalls calls events,
    P (s.moved thread { s.connection with ioCalls := ioCalls, calls := calls, events := events } .outside)
  unflushed : s.confirming thread = .encoded → s.connection.ioFails s.connection.ioCalls = false →
    s.connection.ioFails (s.connection.ioCalls + 1) = true ∨ s.connection.closed = true →
    ∀ calls events, P (s.moved thread { s.connection.sent (APdu.header s.connection.buffer) with
      calls := calls, events := events } .outside)
  written : s.confirming thread = .encoded → ∀ flushed,
    P (s.moved thread { s.connection.sent (APdu.header s.connection.buffer) with flushed := flushed } .written)
  recorded : s.confirming thread = .written → ∀ timeoutManager calls,
    P (s.moved thread { s.connection with
      acknowledgedReceiveSequenceNumber := s.connection.receiveSequenceNumber
      timeoutManager := timeoutManager
      calls := calls } .outside)

/-- The obligations are all there is to such a step. -/
theorem Confirms.confirm {thread : Nat} {P : Interleaved → Prop} (confirms : Confirms s thread P) :
    P (s.confirm settings thread) := by
  cases point : s.confirming thread <;> simp only [Interleaved.confirm, point]
  case outside =>
    split
    · exact confirms.enter point
    · exact confirms.pass point _
  case entered =>
    refine Post.outcome (P := fun c => P (s.moved thread c .encoded)) ?_
    rw [Connection.post_encode_sFormat]
    exact confirms.encode point
  case encoded =>
    have wrote : Post writeBuffer s.connection (fun _ c => P (s.moved thread c .written))
        (fun e c => P (s.moved thread ((throwFrom thread e).outcome c) .outside)) := by
      rw [post_writeBuffer]
      refine ⟨fun _ => confirms.unwritten point _ _ _, fun first => ⟨fun second => ?_, fun _ => ?_⟩⟩
      · exact confirms.unflushed point first second _ _
      · exact confirms.written point _
    unfold Post at wrote
    cases writing : writeBuffer s.connection <;> rwa [writing] at wrote
  case written =>
    refine Post.outcome (P := fun c => P (s.moved thread c .outside)) ?_
    refine Post.outcome (m := record) (P := fun c =>
      Post (Connection.setCall thread .stopConfirmed) c (fun _ c => P (s.moved thread c .outside))
        fun _ c => P (s.moved thread c .outside)) ?_
    simp only [record, post_bind, post_modify, Connection.post_resetMaxIdleTimeTimer,
      Connection.post_cancelIfPlanned, Connection.post_setCall]
    exact confirms.recorded point _ _

theorem step_cases {action : Action} (taken : Step settings server s action t) :
    (∃ thread, s.confirmer action = some thread ∧ t = s.confirm settings thread) ∨
      s.confirmer action = none ∧ ∃ c, Connection.Step settings server s.connection action c ∧
        t = { s with connection := c } := by
  cases confirmer : s.confirmer action with
  | some thread =>
    simp only [Step, step, confirmer, Option.some.injEq] at taken
    exact .inl ⟨thread, rfl, taken.symm⟩
  | none =>
    simp only [Step, step, confirmer] at taken
    obtain ⟨c, moved, rfl⟩ := Option.map_eq_some_iff.mp taken
    exact .inr ⟨rfl, c, moved, rfl⟩

private theorem locked {action : Action} (none : s.confirmer action = none) (thread : Nat)
    (proceeds : action = .proceed thread) : s.connection.calls thread ≠ .stopBegun := by
  -- In the other steps no thread is at the confirmation of `stopDataTransfer`.
  intro begun
  rw [proceeds, confirmer, if_pos begun] at none
  cases none

private theorem step_consistent {action : Action} (consistent : Consistent s.connection h)
    (taken : Step settings server s action t) :
    Consistent t.connection (h.extend s.connection t.connection) := by
  have refl : Connection.Advanced s.connection s.connection := .refl consistent.receive_lt
  rcases step_cases taken with ⟨thread, _, rfl⟩ | ⟨none, c, moved, rfl⟩
  · obtain ⟨latest, _, announced, _⟩ := consistent.announced
    apply Confirms.confirm (P := fun t => Consistent t.connection (h.extend s.connection t.connection))
    constructor
    case enter => exact fun _ => consistent.advance refl
    case pass => exact fun _ _ => consistent.advance (refl.congr rfl)
    case encode =>
      intro _
      exact consistent.advance (refl.encoded (APdu.confirmation_sFormatBuffer consistent.receive_lt))
    case unwritten => exact fun _ _ _ _ => consistent.advance (refl.congr rfl)
    case unflushed =>
      exact fun _ _ _ _ _ => consistent.writes announced (Connection.confirmations_append rfl announced) rfl
    case written =>
      exact fun _ _ => consistent.writes announced (Connection.confirmations_append rfl announced) rfl
    case recorded => exact fun _ _ _ => consistent.advance (refl.congr rfl)
  · have recording : Connection.Recording False s.connection c :=
      .step consistent.receive_lt False.elim False.elim (locked none) moved
    exact consistent.advance recording.toAdvanced

private theorem observe_eq {action : Action} (taken : Step settings server s action t) :
    observe settings server s action h = h.extend s.connection t.connection := by
  have next : step settings server s action = some t := taken
  simp only [observe, next]

/-- In every run, whatever its steps meet, the counts confirmed never go backwards. -/
theorem consistent_of_run {good : Interleaved → Action → Prop} {actions : List Action}
    {ioFails : Nat → Bool} {now : Nat}
    (run : Run (Run.Tracked (observe settings server) (Run.Guarded good (Step settings server)))
      (started settings ioFails now, {}) actions (s, h)) : Consistent s.connection h := by
  refine run.invariant (I := fun s => Consistent s.1.connection s.2) (.started settings ioFails now) ?_
  rintro ⟨s, h⟩ action ⟨t, later⟩ consistent ⟨⟨_, taken⟩, noted⟩
  have added : later = h.extend s.connection t.connection := noted.trans (observe_eq taken)
  rw [added]
  exact step_consistent consistent taken

/-- What is recorded is what was written last, once every writing is recorded. -/
def Settles (s : Interleaved) : Prop := s.connection.IsOpen → s.Recorded → s.connection.Settled

private theorem recorded_of_moved {thread : Nat} {c : Connection} {point : Confirming}
    (outside : s.confirming thread ≠ .written) (recorded : (s.moved thread c point).Recorded) :
    s.Recorded := by
  intro other written
  by_cases same : other = thread
  · subst same
    exact outside written
  · exact recorded other ((moved_confirming_other c point same).trans written)

private theorem step_settles {action : Action} (receive_lt : s.connection.receiveSequenceNumber < 2 ^ 15)
    (settles : s.Settles) (met : s.RecordKept settings action)
    (taken : Step settings server s action t) : t.Settles := by
  rcases step_cases taken with ⟨thread, confirmer, rfl⟩ | ⟨none, c, moved, rfl⟩
  · simp only [RecordKept, confirmer] at met
    have before {c : Connection} {point : Confirming} (outside : s.confirming thread ≠ .written)
        (isOpen : s.connection.IsOpen) (recorded : (s.moved thread c point).Recorded) :
        s.connection.Settled := settles isOpen (recorded_of_moved outside recorded)
    apply Confirms.confirm (P := Settles)
    constructor
    case enter => exact fun point => before (by simp [point])
    case pass => exact fun point _ => before (by simp [point])
    case encode => exact fun point => before (by simp [point])
    case unwritten => exact fun point _ _ _ => before (by simp [point])
    case unflushed =>
      intro point first second _ _ isOpen recorded
      have met := met isOpen recorded
      simp only [point] at met
      rcases met with announced | flushes
      · exact (Connection.lastConfirmation_append (Connection.confirmations_append rfl announced)).symm
      · exact absurd second (flushes.passes isOpen first)
    case written =>
      intro _ _ _ recorded
      exact absurd (moved_confirming ..) (recorded thread)
    case recorded =>
      intro point _ _ isOpen recorded
      have met := met isOpen recorded
      simp only [point] at met
      exact met
  · simp only [RecordKept, none] at met
    have recording : Connection.Recording s.Recorded s.connection c :=
      .step receive_lt (fun recorded isOpen => settles isOpen recorded) met (locked none) moved
    exact fun isOpen recorded => recording.settled recorded isOpen

/-- In every run the receive numbers written, as counts of accepted I frames, never go
backwards. If its steps meet the condition, then whenever no thread is in a `sendSFormatPdu`
without the lock, what the open connection has recorded is the number it has written last. -/
theorem record_consistent {actions : List Action} {ioFails : Nat → Bool} {now : Nat}
    (run : Run (Run.Tracked (observe settings server)
      (Run.Guarded (RecordKept settings) (Step settings server)))
      (started settings ioFails now, {}) actions (s, h)) :
    h.confirmed.Pairwise (· ≤ ·) ∧ s.connection.confirmations = h.confirmed.map (· % 2 ^ 15) ∧
      (∀ count ∈ h.confirmed, count ≤ h.accepted) ∧
      (s.connection.IsOpen → s.Quiet →
        s.connection.acknowledgedReceiveSequenceNumber = s.connection.lastConfirmation) := by
  have consistent := consistent_of_run run
  have settles : s.Settles := by
    refine run.invariant_where (I := fun s => s.1.Settles) (J := fun s => Consistent s.1.connection s.2)
      (fun _ _ before => consistent_of_run before) (fun _ _ => rfl) ?_
    exact fun _ _ _ consistent settles last => step_settles consistent.receive_lt settles last.1.1 last.1.2
  refine ⟨consistent.forward, consistent.confirmations, fun _ => consistent.within, fun isOpen quiet => ?_⟩
  refine settles isOpen fun thread written => ?_
  rw [quiet thread] at written
  cases written

/-- An I frame comes before the encoding, and one behind the recording. -/
def sampleConfirmedTogether : List Action :=
  Connection.sampleStart ++ [.receive (Connection.sampleIFormat 0 0), .stopDataTransfer 0, .proceed 0,
    .receive (Connection.sampleIFormat 1 0), .proceed 0, .proceed 0, .proceed 0,
    .receive (Connection.sampleIFormat 2 0)]

def sampleState (settings : ConnectionSettings) (actions : List Action) : Interleaved :=
  (Run.perform (step settings false) (started settings (fun _ => false) 0) actions).getD
    (started settings (fun _ => false) 0)

theorem record_consistent_sample :
    ∃ s h, Run (Run.Tracked (observe {} false) (Run.Guarded (RecordKept {}) (Step {} false)))
        (started {} (fun _ => false) 0, {}) sampleConfirmedTogether (s, h) ∧
      s.connection.IsOpen ∧ s.Quiet ∧ h.accepted = 3 ∧ h.confirmed = [2] ∧
      s.connection.acknowledgedReceiveSequenceNumber = s.connection.lastConfirmation := by
  have meets : Run.Meets (step {} false) (RecordKept {}) (started {} (fun _ => false) 0)
      sampleConfirmedTogether := by
    refine .intro (fun _ => trivial) <| .intro (fun _ => trivial) <| .intro (fun _ => trivial) <|
      .intro (fun _ => trivial) <| .intro (fun _ => trivial) <| ?_
    refine .intro (fun _ => trivial) <| .intro (fun _ => trivial) <| .intro (fun _ _ => trivial) <|
      .intro (fun _ => trivial) <| .intro (fun _ _ => trivial) <| ?_
    exact .intro (fun _ _ => .inr (.inr rfl)) <| .intro (fun _ _ => rfl) <| .intro (fun _ => trivial) trivial
  have quiet : (sampleState {} sampleConfirmedTogether).Quiet := fun
    | 0 => rfl
    | _ + 1 => rfl
  have run : Run (Run.Tracked (observe {} false) (Run.Guarded (RecordKept {}) (Step {} false)))
      (started {} (fun _ => false) 0, {}) sampleConfirmedTogether
      (sampleState {} sampleConfirmedTogether, _) := Run.tracked_of_perform _ rfl meets
  exact ⟨_, _, run, ⟨rfl, rfl⟩, quiet, rfl, rfl, (record_consistent run).2.2.2 ⟨rfl, rfl⟩ quiet⟩

/-- An I frame that comes between the writing and the recording is recorded as acknowledged,
and no frame confirms it. -/
theorem not_settled :
    ∃ s, Run (Step {} false) (started {} (fun _ => false) 0)
        (Connection.sampleStart ++ [.receive (Connection.sampleIFormat 0 0), .stopDataTransfer 0,
          .proceed 0, .proceed 0, .proceed 0, .receive (Connection.sampleIFormat 1 0), .proceed 0]) s ∧
      s.connection.IsOpen ∧ s.Quiet ∧ s.connection.acknowledgedReceiveSequenceNumber = 2 ∧
      s.connection.lastConfirmation = 1 :=
  ⟨_, Run.of_perform rfl, ⟨rfl, rfl⟩, fun | 0 => rfl | _ + 1 => rfl, rfl, rfl⟩

end Interleaved

end J60870
