import J60870.Connection.SendingSide
import J60870.Lib.Monitor

/-! Any number of threads in `send` of one connection. A thread that finds the window
full waits on the connection until it is notified. -/

namespace J60870

open Lib Method

namespace Connection

variable {settings : ConnectionSettings} {server : Bool} {b c d : Connection}

/-- Between two states: as long as `notifyAll` is not called the connection is not closed
and no place in the window becomes free, and a closed connection stays closed with
everything counted as acknowledged. -/
structure Noticed (b c : Connection) : Prop where
  settled : c.closed = true → c.sendSequenceNumber = c.acknowledgedSendSequenceNumber
  stays : b.closed = true → c.closed = true
  later : b.notifications ≤ c.notifications
  silent : c.notifications = b.notifications →
    c.closed = b.closed ∧ b.getNumUnconfirmedAPdusSent ≤ c.getNumUnconfirmedAPdusSent

/-- What a thread that waits depends on. -/
def awaitedWindow (c : Connection) : (Nat × Nat) × Bool × Nat :=
  ((c.sendSequenceNumber, c.acknowledgedSendSequenceNumber), c.closed, c.notifications)

theorem awaitedWindow_congr (same : d.sendingSide = c.sendingSide) : d.awaitedWindow = c.awaitedWindow := by
  simp only [sendingSide, Prod.mk.injEq] at same
  obtain ⟨⟨send, acknowledged⟩, -, closed, notifications, -⟩ := same
  rw [awaitedWindow, awaitedWindow, send, acknowledged, closed, notifications]

namespace Noticed

theorem congr (noticed : Noticed b c) (same : d.awaitedWindow = c.awaitedWindow) : Noticed b d := by
  simp only [awaitedWindow, Prod.mk.injEq] at same
  obtain ⟨⟨send, acknowledged⟩, closed, notifications⟩ := same
  obtain ⟨settled, stays, later, silent⟩ := noticed
  constructor <;>
    simpa only [getNumUnconfirmedAPdusSent, send, acknowledged, closed, notifications]

private theorem numbered (noticed : Noticed b c) (counting : Counting settings c)
    (isOpen : c.closed = false)
    (window : c.getNumUnconfirmedAPdusSent < settings.maxNumOfOutstandingIPdus) :
    Noticed b c.numbered where
  settled closed := by
    rw [numbered_closed, isOpen] at closed
    cases closed
  stays := noticed.stays
  later := noticed.later
  silent notifications := by
    obtain ⟨closed, outstanding⟩ := noticed.silent notifications
    refine ⟨closed, outstanding.trans ?_⟩
    have send_lt := counting.send_lt
    have acknowledged_lt := counting.acknowledgedSend_lt
    have range := settings.k_range
    simp only [getNumUnconfirmedAPdusSent, sequenceNumberDiff] at window
    simp only [getNumUnconfirmedAPdusSent, sequenceNumberDiff, numbered_sendSequenceNumber,
      numbered_acknowledgedSendSequenceNumber]
    grind

private theorem acknowledged (noticed : Noticed b c) (counting : Counting settings c)
    {receiveSeqNumber : Nat} (number_lt : receiveSeqNumber < 2 ^ 15)
    (inside : c.Acknowledges receiveSeqNumber) : Noticed b (c.acknowledged receiveSeqNumber) := by
  -- An acknowledgement that frees a place notifies, and there is none to free once the connection
  -- is closed.
  by_cases same : c.acknowledgedSendSequenceNumber = receiveSeqNumber
  · apply noticed.congr
    simp [awaitedWindow, same]
  · constructor
    case settled =>
      intro closed
      have settled := noticed.settled closed
      have none_left : sequenceNumberDiff receiveSeqNumber c.acknowledgedSendSequenceNumber = 0 := by
        rw [Acknowledges, getNumUnconfirmedAPdusSent, settled, sequenceNumberDiff_self] at inside
        exact Nat.le_zero.mp inside
      exact absurd ((sequenceNumberDiff_eq_zero number_lt counting.acknowledgedSend_lt).mp none_left).symm same
    case stays => exact noticed.stays
    case later =>
      have later := noticed.later
      simp only [acknowledged_notifications, if_neg same]
      omega
    case silent =>
      intro notifications
      have later := noticed.later
      simp only [acknowledged_notifications, if_neg same] at notifications
      omega

private theorem always_close (noticed : Noticed b c) : Always (Noticed b) c close := by
  rw [Always, post_close]
  refine ⟨fun _ => noticed, fun _ => ?_⟩
  have later := noticed.later
  constructor
  case settled => exact fun _ => rfl
  case stays => exact fun _ => rfl
  case later => exact Nat.le_succ_of_le later
  case silent =>
    intro notifications
    simp only at notifications
    omega

theorem invariant (b : Connection) : SendingInvariant settings (Noticed b) where
  congr _ _ noticed same := noticed.congr (awaitedWindow_congr same)
  prepareSend c aSdu noticed counting window := by
    rw [post_prepareSend]
    refine ⟨fun _ => noticed, fun isOpen => ⟨fun _ => noticed, fun _ => ?_⟩⟩
    have numbered := noticed.numbered counting isOpen window
    constructor
    · intro _
      exact (SendingSide.keeps_sendSFormatPdu c.numbered).mono
        (fun _ d same => (numbered.congr (awaitedWindow_congr same)).congr rfl)
        fun _ d same => numbered.congr (awaitedWindow_congr same)
    · exact fun _ => numbered.congr rfl
  acknowledged _ _ noticed counting number_lt inside := noticed.acknowledged counting number_lt inside
  close _ noticed := noticed.always_close
  expire c id noticed closes := by
    rw [Always, post_executeManually, post_execute_close closes]
    refine ⟨fun _ => noticed, fun _ => noticed.always_close.mono (fun _ d noticed => ?_) fun _ d noticed => ?_⟩
    · exact noticed.congr rfl
    · exact noticed.congr rfl

theorem step {action : Action} (noticed : Noticed b c) (bounded : Bounded settings c)
    (taken : Step settings server c action d) : Noticed b d :=
  (invariant b).preserves.step noticed ⟨trivial, bounded⟩ taken

end Noticed

end Connection

/-- A connection and the threads in its `send`, each with its ASDU. -/
structure Senders extends Monitor Connection ASdu where
  /-- the exceptions with which calls of `send` and of `stopDataTransfer` have ended -/
  thrown : List JavaException := []

/-- The states of a call of `stopDataTransfer`. -/
def Call.stopping : Call → Bool
  | .stopBegun | .stopConfirmed | .stopCancelled | .stopWritten | .stopAwaiting _ | .stopFinishing => true
  | _ => false

/-- The thread that is in `stopDataTransfer` in a step. -/
def Connection.stopper (c : Connection) : Connection.Action → Option Nat
  | .stopDataTransfer thread => some thread
  | .proceed thread | .timeOut thread | .interrupt thread =>
    if (c.calls thread).stopping then some thread else none
  | _ => none

namespace Senders

variable (settings : ConnectionSettings) (server : Bool)

/-- The exceptions with which calls of `stopDataTransfer` end in a step. -/
def stopThrows (c d : Connection) (action : Connection.Action) : List JavaException :=
  (d.events.drop c.events.length).filterMap fun
    | .threw thread e => if c.stopper action = some thread then some e else none
    | _ => none

/-- A thread that has the lock looks at the window. It waits while this is full, and runs
the rest of `send` otherwise. -/
def attempt (senders : Senders) (thread : Nat) (aSdu : ASdu) : Senders :=
  if senders.object.getNumUnconfirmedAPdusSent ≥ settings.maxNumOfOutstandingIPdus then
    { senders with toMonitor := senders.place thread (.waiting aSdu) }
  else
    let method := Connection.send settings aSdu
    { toMonitor :=
        (senders.moved Connection.notifications (method.outcome senders.object)).place thread .outside
      thrown := senders.thrown ++ (method.thrown senders.object).toList }

inductive Action
  | send (thread : Nat) (aSdu : ASdu)
  /-- a woken thread has the lock again -/
  | resume (thread : Nat)
  /-- a thread comes out of `wait()` although nobody has notified it -/
  | wakeUp (thread : Nat)
  | interrupt (thread : Nat)
  /-- what else happens to the connection -/
  | other (action : Connection.Action)

/-- `new IOException(e)` for an `InterruptedException` of `wait()`. -/
def interrupted : JavaException := .iOException "java.lang.InterruptedException"

/-- The threads after an action, if it can be taken. -/
def step (senders : Senders) : Action → Option Senders
  | .send thread aSdu =>
    match senders.waiters thread with
    | .outside => some (senders.attempt settings thread aSdu)
    | _ => none
  | .resume thread =>
    match senders.waiters thread with
    | .woken aSdu => some (senders.attempt settings thread aSdu)
    | _ => none
  | .wakeUp thread =>
    match senders.waiters thread with
    | .waiting aSdu => some { senders with toMonitor := senders.place thread (.woken aSdu) }
    | _ => none
  | .interrupt thread =>
    match senders.waiters thread with
    | .outside => none
    | _ =>
      some
        { toMonitor := senders.place thread .outside
          thrown := senders.thrown ++ [interrupted] }
  | .other (.send _) => none
  | .other action =>
    (Connection.step settings server senders.object action).map fun d =>
      { toMonitor := senders.moved Connection.notifications d
        thrown := senders.thrown ++ stopThrows senders.object d action }

def Step (senders : Senders) (action : Action) (next : Senders) : Prop :=
  step settings server senders action = some next

def started (ioFails : Nat → Bool) (currentTimeMillis : Nat) : Senders where
  object := Connection.started settings ioFails currentTimeMillis

variable {settings server} {senders next : Senders}

/-- What a step can do: a thread comes to the loop of `send`, a wait ends without cause or
by an interrupt, or the connection takes a step of its own. -/
theorem Step.cases {action : Action} (taken : Step settings server senders action next) :
    (∃ thread aSdu, (action = .send thread aSdu ∧ senders.waiters thread = .outside ∨
        action = .resume thread ∧ senders.waiters thread = .woken aSdu) ∧
      next = senders.attempt settings thread aSdu) ∨
    (∃ thread aSdu, action = .wakeUp thread ∧ senders.waiters thread = .waiting aSdu ∧
      next = { senders with toMonitor := senders.place thread (.woken aSdu) }) ∨
    (∃ thread, action = .interrupt thread ∧ senders.waiters thread ≠ .outside ∧
      next = ⟨senders.place thread .outside, senders.thrown ++ [interrupted]⟩) ∨
    ∃ own d, action = .other own ∧ Connection.Step settings server senders.object own d ∧
      next = ⟨senders.moved Connection.notifications d,
        senders.thrown ++ stopThrows senders.object d own⟩ := by
  cases action with
  | send thread aSdu =>
    cases place : senders.waiters thread <;> simp only [Step, step, place] at taken <;> cases taken
    exact .inl ⟨thread, aSdu, .inl ⟨rfl, place⟩, rfl⟩
  | resume thread =>
    cases place : senders.waiters thread <;> simp only [Step, step, place] at taken <;> cases taken
    exact .inl ⟨thread, _, .inr ⟨rfl, place⟩, rfl⟩
  | wakeUp thread =>
    cases place : senders.waiters thread <;> simp only [Step, step, place] at taken <;> cases taken
    exact .inr <| .inl ⟨thread, _, rfl, place, rfl⟩
  | interrupt thread =>
    cases place : senders.waiters thread <;> simp only [Step, step, place] at taken <;> cases taken <;>
      exact .inr <| .inr <| .inl ⟨thread, rfl, by simp [place], rfl⟩
  | other own =>
    have moved : (Connection.step settings server senders.object own).map (fun d =>
        Senders.mk (senders.moved Connection.notifications d)
          (senders.thrown ++ stopThrows senders.object d own)) =
        some next := by
      cases own <;> first | exact taken | cases taken
    obtain ⟨d, own_step, same⟩ := Option.map_eq_some_iff.mp moved
    exact .inr <| .inr <| .inr ⟨own, d, rfl, own_step, same.symm⟩

/-- A thread that finds the window full waits. -/
theorem attempt_full (thread : Nat) (aSdu : ASdu)
    (full : settings.maxNumOfOutstandingIPdus ≤ senders.object.getNumUnconfirmedAPdusSent) :
    senders.attempt settings thread aSdu =
      { senders with toMonitor := senders.place thread (.waiting aSdu) } :=
  if_pos full

theorem attempt_free (thread : Nat) (aSdu : ASdu)
    (free : senders.object.getNumUnconfirmedAPdusSent < settings.maxNumOfOutstandingIPdus) :
    ∃ d, (∀ server, Connection.Step settings server senders.object (.send aSdu) d) ∧
      senders.attempt settings thread aSdu =
        ⟨(senders.moved Connection.notifications d).place thread .outside,
          senders.thrown ++ ((Connection.send settings aSdu).thrown senders.object).toList⟩ := by
  refine ⟨_, fun server => ?_, if_neg (Nat.not_le.mpr free)⟩
  have found : Connection.body settings server senders.object (.send aSdu) =
    some (Connection.send settings aSdu) := if_pos free
  rw [Connection.Step, Connection.step, found]
  rfl

theorem Step.object {action : Action} (taken : Step settings server senders action next) :
    next.object = senders.object ∨
      ∃ own, Connection.Step settings server senders.object own next.object := by
  rcases taken.cases with ⟨thread, aSdu, -, rfl⟩ | ⟨_, _, -, -, rfl⟩ | ⟨_, -, -, rfl⟩ | ⟨own, d, -, own_step, rfl⟩
  · rcases Nat.lt_or_ge senders.object.getNumUnconfirmedAPdusSent settings.maxNumOfOutstandingIPdus with
      free | full
    · obtain ⟨d, own_step, left⟩ := attempt_free thread aSdu free
      rw [left]
      exact .inr ⟨_, own_step server⟩
    · rw [attempt_full thread aSdu full]
      exact .inl rfl
  · exact .inl rfl
  · exact .inl rfl
  · exact .inr ⟨own, own_step⟩

/-- The connection of the threads is a connection as it runs by itself. -/
theorem Run.object {ioFails : Nat → Bool} {now : Nat} {actions : List Action}
    (run : Run (Step settings server) (started settings ioFails now) actions senders) :
    ∃ own, Run (Connection.Step settings server) (Connection.started settings ioFails now) own
      senders.object := by
  have matched : ∀ senders action next c, senders.object = c → Step settings server senders action next →
      ∃ own d, Run (Connection.Step settings server) c own d ∧ next.object = d := by
    rintro senders action next _ rfl taken
    rcases taken.object with same | ⟨own, own_step⟩
    · exact ⟨[], _, .start, same⟩
    · exact ⟨[own], _, .single own_step, rfl⟩
  obtain ⟨own, _, run, rfl⟩ := run.simulates (R := fun senders c => senders.object = c) matched rfl
  exact ⟨own, run⟩

/-- What a thread in `wait()` has seen: the connection is open, and its window is full. -/
def Full (settings : ConnectionSettings) (c : Connection) : Prop :=
  c.closed = false ∧ settings.maxNumOfOutstandingIPdus ≤ c.getNumUnconfirmedAPdusSent

/-- The invariant: a closed connection has nothing outstanding, and a thread is in
`wait()` only where it has to wait. -/
structure Watched (settings : ConnectionSettings) (senders : Senders) : Prop where
  settled : senders.object.closed = true →
    senders.object.sendSequenceNumber = senders.object.acknowledgedSendSequenceNumber
  justified : senders.Justified (Full settings)

namespace Watched

theorem noticed (watched : Watched settings senders) :
    Connection.Noticed senders.object senders.object where
  settled := watched.settled
  stays closed := closed
  later := Nat.le_refl _
  silent _ := ⟨rfl, Nat.le_refl _⟩

private theorem moved (watched : Watched settings senders) {d : Connection}
    (noticed : Connection.Noticed senders.object d) (thrown : List JavaException) :
    Watched settings ⟨senders.moved Connection.notifications d, thrown⟩ where
  settled := noticed.settled
  justified := by
    apply watched.justified.moved
    rintro silent ⟨isOpen, full⟩
    obtain ⟨closed, outstanding⟩ := noticed.silent silent
    exact ⟨closed.trans isOpen, full.trans outstanding⟩

private theorem placed (watched : Watched settings senders) {thread : Nat} {waiter : Waiter ASdu}
    (awake : ∀ aSdu, waiter ≠ .waiting aSdu) (thrown : List JavaException) :
    Watched settings ⟨senders.place thread waiter, thrown⟩ where
  settled := watched.settled
  justified := watched.justified.place fun aSdu same => absurd same (awake aSdu)

private theorem attempt (watched : Watched settings senders)
    (bounded : Connection.Bounded settings senders.object) (thread : Nat) (aSdu : ASdu) :
    Watched settings (senders.attempt settings thread aSdu) := by
  rcases Nat.lt_or_ge senders.object.getNumUnconfirmedAPdusSent settings.maxNumOfOutstandingIPdus with
    free | full
  · obtain ⟨d, own_step, left⟩ := attempt_free thread aSdu free
    rw [left]
    have noticed := watched.noticed.step bounded (own_step true)
    exact (watched.moved noticed senders.thrown).placed (by simp) _
  · rw [attempt_full thread aSdu full]
    constructor
    case settled => exact watched.settled
    case justified =>
      apply watched.justified.place
      intro _ _
      have isOpen : senders.object.closed = false := by
        -- a closed connection has a free window
        cases closed : senders.object.closed with
        | false => rfl
        | true =>
          have range := settings.k_range
          rw [Connection.getNumUnconfirmedAPdusSent, watched.settled closed,
            Connection.sequenceNumberDiff_self] at full
          omega
      exact ⟨isOpen, full⟩

theorem step (watched : Watched settings senders)
    (bounded : Connection.Bounded settings senders.object) {action : Action}
    (taken : Step settings server senders action next) : Watched settings next := by
  rcases taken.cases with ⟨thread, aSdu, -, rfl⟩ | ⟨_, _, -, -, rfl⟩ | ⟨_, -, -, rfl⟩ | ⟨_, _, -, own_step, rfl⟩
  · exact watched.attempt bounded thread aSdu
  · exact watched.placed (by simp) _
  · exact watched.placed (by simp) _
  · exact watched.moved (watched.noticed.step bounded own_step) _

theorem started (ioFails : Nat → Bool) (now : Nat) :
    Watched settings (Senders.started settings ioFails now) where
  settled closed := by cases closed
  justified _ _ waiting := by cases waiting

theorem of_run {ioFails : Nat → Bool} {now : Nat} {actions : List Action}
    (run : Run (Step settings server) (Senders.started settings ioFails now) actions senders) :
    Watched settings senders ∧ Connection.Bounded settings senders.object := by
  constructor
  · induction run with
    | start => exact .started ioFails now
    | next before last ih =>
      obtain ⟨own, objectRun⟩ := Run.object before
      exact ih.step (.of_run objectRun) last
  · obtain ⟨own, objectRun⟩ := Run.object run
    exact .of_run objectRun

theorem stays (watched : Watched settings senders)
    (bounded : Connection.Bounded settings senders.object) {action : Action}
    (taken : Step settings server senders action next) (closed : senders.object.closed = true) :
    next.object.closed = true := by
  rcases taken.object with same | ⟨own, own_step⟩
  · rwa [same]
  · exact (watched.noticed.step bounded own_step).stays closed

end Watched

private theorem closed_forever {ioFails : Nat → Bool} {now : Nat} {actions more : List Action}
    (run : Run (Step settings server) (started settings ioFails now) actions senders)
    (closed : senders.object.closed = true) (later : Run (Step settings server) senders more next) :
    next.object.closed = true := by
  induction later with
  | start => exact closed
  | next before last ih =>
    obtain ⟨watched, bounded⟩ := Watched.of_run (run.append before)
    exact watched.stays bounded last ih

private theorem attempt_closed (watched : Watched settings senders)
    (closed : senders.object.closed = true) (thread : Nat) (aSdu : ASdu) :
    senders.attempt settings thread aSdu =
      ⟨senders.place thread .outside, senders.thrown ++ [.iOException "connection closed"]⟩ := by
  have range := settings.k_range
  have free : ¬ senders.object.getNumUnconfirmedAPdusSent ≥ settings.maxNumOfOutstandingIPdus := by
    rw [Connection.getNumUnconfirmedAPdusSent, watched.settled closed, Connection.sequenceNumberDiff_self]
    omega
  have refused : Connection.send settings aSdu senders.object =
      .error (.iOException "connection closed") senders.object := by
    apply Post.threw
    rw [Connection.send, post_bind, Connection.post_prepareSend]
    refine ⟨fun _ => ⟨rfl, rfl⟩, fun isOpen => ?_⟩
    rw [closed] at isOpen
    cases isOpen
  rw [attempt, if_neg free]
  simp [outcome, Method.thrown, refused, Monitor.moved]

/-- Any number of threads in `send`, whatever else happens to the connection. A thread is
in `wait()` only while the connection is open and its window full, the window is never
exceeded, and a closed connection stays closed with nothing outstanding, so that whoever
comes to the loop of `send` ends with an `IOException`. -/
theorem no_sender_left_blocked {ioFails : Nat → Bool} {now : Nat} {actions : List Action}
    (run : Run (Step settings server) (started settings ioFails now) actions senders) :
    (∀ thread aSdu, senders.waiters thread = .waiting aSdu →
      senders.object.closed = false ∧
      (settings.maxNumOfOutstandingIPdus : Int) ≤ ((senders.object.sendSequenceNumber : Int) -
        senders.object.acknowledgedSendSequenceNumber) % 2 ^ 15) ∧
    ((senders.object.sendSequenceNumber : Int) - senders.object.acknowledgedSendSequenceNumber) % 2 ^ 15 ≤
      settings.maxNumOfOutstandingIPdus ∧
    (senders.object.closed = true →
      (∀ more next, Run (Step settings server) senders more next → next.object.closed = true ∧
        next.object.sendSequenceNumber = next.object.acknowledgedSendSequenceNumber) ∧
      ∀ thread aSdu,
        (senders.attempt settings thread aSdu).object = senders.object ∧
        (senders.attempt settings thread aSdu).waiters thread = .outside ∧
        (senders.attempt settings thread aSdu).thrown =
          senders.thrown ++ [.iOException "connection closed"]) := by
  obtain ⟨watched, bounded⟩ := Watched.of_run run
  rw [← Connection.sequenceNumberDiff_eq bounded.send_lt bounded.acknowledgedSend_lt]
  refine ⟨fun thread aSdu waiting => ?_, Int.ofNat_le.mpr bounded.outstanding, fun closed =>
    ⟨fun more next later => ?_, fun thread aSdu => ?_⟩⟩
  · obtain ⟨isOpen, full⟩ := watched.justified thread aSdu waiting
    exact ⟨isOpen, Int.ofNat_le.mpr full⟩
  · have stays := closed_forever run closed later
    exact ⟨stays, (Watched.of_run (run.append later)).1.settled stays⟩
  · rw [attempt_closed watched closed]
    exact ⟨rfl, by simp [Monitor.place], rfl⟩

/-- A second sender waits for the place the first one has taken. -/
def sampleSenders : List Action :=
  [.other (.receive (Connection.sampleUnnumbered .STARTDT_ACT)), .send 0 Connection.sampleCommand,
    .send 1 Connection.sampleCommand]

theorem no_sender_left_blocked_sample :
    ∃ senders, Run (Step { maxNumOfOutstandingIPdus := 1 } true)
        (started { maxNumOfOutstandingIPdus := 1 } (fun _ => false) 0) sampleSenders senders ∧
      senders.waiters 1 = .waiting Connection.sampleCommand ∧ senders.object.closed = false ∧
      ((senders.object.sendSequenceNumber : Int) - senders.object.acknowledgedSendSequenceNumber) % 2 ^ 15 ≤
        1 := by
  have run : Run (Step { maxNumOfOutstandingIPdus := 1 } true)
      (started { maxNumOfOutstandingIPdus := 1 } (fun _ => false) 0) sampleSenders _ := Run.of_perform rfl
  obtain ⟨waits, window, -⟩ := no_sender_left_blocked run
  exact ⟨_, run, rfl, (waits 1 _ rfl).1, window⟩

end Senders

end J60870
