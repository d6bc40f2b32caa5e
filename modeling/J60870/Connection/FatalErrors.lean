import J60870.Connection.Senders
import J60870.Connection.Sending
import J60870.Unchecked

/-! Whether a connection is closed when `send` or `stopDataTransfer` has thrown an
`IOException`. Neither closes it: the caller is right only where the connection was closed
before, and every other `IOException` leaves it open. -/

namespace J60870

open Lib Method

namespace Connection

variable {settings : ConnectionSettings} {server : Bool} {c d : Connection}

/-- Two calls of `os` succeed, after some that have succeeded. -/
def GoesOut (c : Connection) (calls : Nat) : Prop :=
  c.ioFails (c.ioCalls + calls) = false ∧ c.ioFails (c.ioCalls + calls + 1) = false

/-- What `send` writes on an open connection goes out: the S frame at the overflow of the
number, and the I frame if it can be encoded. -/
def SendGoesOut (settings : ConnectionSettings) (c : Connection) (aSdu : ASdu) : Prop :=
  c.closed = false → c.stopped = false →
    (c.numbered.sendSequenceNumber < c.sendSequenceNumber → c.GoesOut 0) ∧
    (aSdu.Fits settings →
      c.GoesOut (if c.numbered.sendSequenceNumber < c.sendSequenceNumber then 2 else 0))

/-- If the method throws a checked exception, the connection is closed. -/
abbrev FailsClosed (c : Connection) (method : Body Unit) : Prop :=
  Post method c (fun _ _ => True) (fun e d => e.isIOException = true → d.closed = true)

private theorem encode_unchecked (aPdu : APdu) :
    Post (encode settings aPdu) c (fun _ _ => True) (fun e _ => e.isIOException = false) := by
  rw [encode, post_bind, post_get]
  cases encoded : aPdu.encode settings c.buffer with
  | ok result => trivial
  | error e => exact Unchecked.encode settings aPdu c.buffer e encoded

private theorem transmit_failsClosed (sendSeqNum receiveSeqNum : Nat) (aSdu : ASdu)
    (isOpen : c.closed = false)
    (goes : aSdu.Fits settings → c.ioFails c.ioCalls = false ∧ c.ioFails (c.ioCalls + 1) = false) :
    FailsClosed c (do
      encode settings (.iFormat sendSeqNum receiveSeqNum aSdu)
      write (.iFormat sendSeqNum receiveSeqNum aSdu)
      flush
      resetMaxIdleTimeTimer) := by
  by_cases fits : aSdu.Fits settings
  · obtain ⟨first, second⟩ := goes fits
    rw [FailsClosed, post_bind, post_encode_iFormat fits]
    simp [first, second, isOpen]
  · obtain ⟨e, refused⟩ := post_encode_unfit fits sendSeqNum receiveSeqNum c
    have unchecked : e.isIOException = false := refused.mp (encode_unchecked _)
    rw [FailsClosed, post_bind, refused]
    intro checked
    rw [unchecked] at checked
    cases checked

private theorem send_failsClosed {aSdu : ASdu} (goes : c.SendGoesOut settings aSdu) :
    FailsClosed c (send settings aSdu) := by
  rw [FailsClosed, send, post_bind, post_prepareSend]
  refine ⟨fun closed _ => closed, fun isOpen => ⟨fun _ checked => ?_, fun started => ?_⟩⟩
  · cases checked
  obtain ⟨overflowing, frame⟩ := goes isOpen started
  constructor
  · intro overflow
    obtain ⟨first, second⟩ := overflowing overflow
    rw [if_pos overflow] at frame
    rw [post_sendSFormatPdu]
    refine ⟨fun fails => ?_, fun _ => ⟨fun fails => ?_, fun _ => ?_⟩⟩
    · exact absurd fails (Bool.eq_false_iff.mp first)
    · rcases fails with fails | closed
      · exact absurd fails (Bool.eq_false_iff.mp second)
      · exact absurd closed (Bool.eq_false_iff.mp isOpen)
    · exact transmit_failsClosed _ _ aSdu isOpen frame
  · intro plain
    rw [if_neg (Nat.not_lt.mpr plain)] at frame
    exact transmit_failsClosed _ _ aSdu isOpen frame

private theorem confirm_failsClosed
    (goes : c.closed = false → 0 < c.numUnconfirmedIPdusReceived → c.GoesOut 0) :
    FailsClosed c (sendSFormatIfUnconfirmedAPdu settings) := by
  -- An S frame that goes out, or fails on a closed connection.
  rw [FailsClosed, post_sendSFormatIfUnconfirmedAPdu, post_sendSFormatPdu]
  refine ⟨fun unconfirmed => ?_, fun _ => trivial⟩
  cases closed : c.closed with
  | true => simp [closed]
  | false =>
    obtain ⟨first, second⟩ := goes closed unconfirmed
    simp only [Nat.add_zero] at first second
    simp [first, second, closed]

private theorem writeStopDtAct_failsClosed (goes : c.closed = false → c.GoesOut 0) :
    FailsClosed c writeStopDtAct := by
  simp only [FailsClosed, writeStopDtAct, newStopDtConSignal, post_bind, post_modify, post_write, post_flush]
  cases closed : c.closed with
  | true => simp
  | false =>
    obtain ⟨first, second⟩ := goes closed
    simp only [Nat.add_zero] at first second
    simp [first, second]

def NoCallThrew (c d : Connection) : Prop :=
  ∃ later, d.events = c.events ++ later ∧ ∀ thread e, .threw thread e ∉ later

private theorem NoCallThrew.of_same (same : d.events = c.events) : NoCallThrew c d :=
  ⟨[], by rw [same, List.append_nil], fun _ _ => List.not_mem_nil⟩

private theorem quiet_of_keeps {method : Body Unit} (keeps : Keeps events method) :
    Always (NoCallThrew c) c method :=
  keeps.post fun _ same => .of_same same

private theorem mem_stopThrows {action : Action} {e : JavaException}
    (thrown : e ∈ Senders.stopThrows c d action) :
    ∃ thread, .threw thread e ∈ d.events.drop c.events.length ∧ c.stopper action = some thread := by
  obtain ⟨event, member, same⟩ := List.mem_filterMap.mp thrown
  cases event <;> simp only [Option.ite_none_right_eq_some, reduceCtorEq] at same
  obtain ⟨stops, ⟨⟩⟩ := same
  exact ⟨_, member, stops⟩

private theorem stopThrows_eq_nil {action : Action} (quiet : NoCallThrew c d) {e : JavaException} :
    e ∉ Senders.stopThrows c d action := by
  intro thrown
  obtain ⟨later, events, quiet⟩ := quiet
  obtain ⟨thread, member, -⟩ := mem_stopThrows thrown
  rw [events, List.drop_left] at member
  exact quiet thread e member

/-- A checked exception of `stopDataTransfer` in a step leaves the connection closed. -/
abbrev StopFailsClosed (c : Connection) (action : Action) (d : Connection) : Prop :=
  ∀ e ∈ Senders.stopThrows c d action, e.isIOException = true → d.closed = true

private theorem part_failsClosed {action : Action} {thread : Nat} {call : Call} {method : Body Unit}
    (fails : FailsClosed c method) (quiet : Always (NoCallThrew c) c method) :
    StopFailsClosed c action ((part thread call method).outcome c) := by
  apply Post.outcome (P := fun d => StopFailsClosed c action d)
  simp only [part, post_tryCatch, post_bind, post_setCall, post_log]
  refine (fails.and quiet).mono (fun _ d after => ?_) fun e d after => ?_
  · intro e thrown
    exact absurd thrown (stopThrows_eq_nil after.2)
  · obtain ⟨closed, later, events, quiet⟩ := after
    intro e' thrown checked
    obtain ⟨_, member, -⟩ := mem_stopThrows thrown
    simp only [events, List.append_assoc, List.drop_left] at member
    rcases List.mem_append.mp member with member | member
    · exact absurd member (quiet _ _)
    · obtain ⟨-, rfl⟩ : _ ∧ e' = e := by simpa using member
      exact closed checked

/-- What `stopDataTransfer` writes on an open connection goes out, and it does not run
into its time-out there. -/
def StopGoesOut (c : Connection) : Action → Prop
  | .proceed thread => c.closed = false →
      (c.calls thread = .stopBegun → 0 < c.numUnconfirmedIPdusReceived → c.GoesOut 0) ∧
      (c.calls thread = .stopCancelled → c.GoesOut 0)
  | .timeOut thread => ∀ latch, c.calls thread = .stopAwaiting latch → c.closed = true
  | _ => True

private theorem proceed_failsClosed {thread : Nat} {method : Body Unit}
    (goes : c.StopGoesOut (.proceed thread)) (stopping : (c.calls thread).stopping = true)
    (found : proceed settings c thread = some method) :
    StopFailsClosed c (.proceed thread) (method.outcome c) := by
  have progress {call : Call} :
      StopFailsClosed c (.proceed thread) ((setCall thread call).outcome c) := fun e thrown _ =>
    absurd thrown (stopThrows_eq_nil (.of_same rfl))
  cases call : c.calls thread <;> simp only [Connection.proceed, call] at found <;>
    simp only [call, Call.stopping, Bool.false_eq_true] at stopping
  case stopBegun =>
    cases found
    apply part_failsClosed
    · exact confirm_failsClosed fun isOpen => (goes isOpen).1 call
    · exact quiet_of_keeps fun c => by simp [post_sendSFormatIfUnconfirmedAPdu]
  case stopConfirmed =>
    cases found
    apply part_failsClosed
    · exact (post_cancelIfPlanned _).mpr trivial
    · exact (post_cancelIfPlanned _).mpr (.of_same rfl)
  case stopCancelled =>
    cases found
    apply part_failsClosed
    · exact writeStopDtAct_failsClosed fun isOpen => (goes isOpen).2 call
    · exact quiet_of_keeps fun c => by simp [writeStopDtAct, newStopDtConSignal]
  case stopWritten =>
    obtain ⟨latch, _, rfl⟩ := Option.map_eq_some_iff.mp found
    exact progress
  case stopAwaiting latch =>
    split at found
    · cases found
      exact progress
    · cases found
  case stopFinishing =>
    cases found
    apply Post.outcome (P := StopFailsClosed c (.proceed thread))
    simp only [lastPart, post_bind, post_modify, post_setCall, post_log]
    intro e thrown
    exact absurd thrown (stopThrows_eq_nil ⟨[.returned thread], rfl, by simp⟩)

private theorem step_failsClosed {action : Action} (goes : c.StopGoesOut action)
    (taken : Step settings server c action d) : StopFailsClosed c action d := by
  obtain ⟨method, found, rfl⟩ := step_eq_some taken
  cases stops : c.stopper action with
  | none =>
    intro e thrown
    obtain ⟨_, -, other⟩ := mem_stopThrows thrown
    rw [stops] at other
    cases other
  | some thread =>
    cases action <;>
      simp only [stopper, Option.ite_none_right_eq_some, Option.some.injEq, reduceCtorEq] at stops
    case stopDataTransfer =>
      obtain ⟨_, ⟨⟩⟩ := Option.ite_none_right_eq_some.mp found
      apply part_failsClosed
      · simp [FailsClosed, beginStop]
      · simp only [Always, beginStop, post_bind, post_modify, post_setStopped]
        refine ⟨_, rfl, fun _ _ member => ?_⟩
        obtain ⟨_, -, ⟨⟩⟩ := Option.mem_map.mp (Option.mem_toList.mp member)
    case proceed thread => exact proceed_failsClosed goes stops.1 found
    case timeOut thread =>
      change timeOut c thread = some method at found
      cases call : c.calls thread <;> simp only [timeOut, call] at found <;> cases found
      case startAwaiting => simp [call, Call.stopping] at stops
      case stopAwaiting latch =>
        apply part_failsClosed
        · exact fun _ => goes latch call
        · exact .of_same rfl
    case interrupt thread =>
      change interrupt c thread = some method at found
      cases call : c.calls thread <;> simp only [interrupt, call] at found <;> cases found <;>
        exact fun e thrown => absurd thrown (stopThrows_eq_nil (.of_same rfl))

end Connection

namespace Senders

variable {settings : ConnectionSettings} {server : Bool} {senders next : Senders}

/-- The steps in which `send` and `stopDataTransfer` throw no `IOException`, or throw it on
a closed connection: what they write on an open one goes out, and there neither is a
thread interrupted in `wait()` nor does one run into the time-out of the stop. -/
def NoFatalError (settings : ConnectionSettings) (senders : Senders) : Action → Prop
  | .send _ aSdu =>
    senders.object.getNumUnconfirmedAPdusSent < settings.maxNumOfOutstandingIPdus →
      senders.object.SendGoesOut settings aSdu
  | .resume thread => ∀ aSdu, senders.waiters thread = .woken aSdu →
    senders.object.getNumUnconfirmedAPdusSent < settings.maxNumOfOutstandingIPdus →
      senders.object.SendGoesOut settings aSdu
  | .wakeUp _ => True
  | .interrupt _ => senders.object.closed = true
  | .other action => senders.object.StopGoesOut action

def FailedClosed (senders : Senders) : Prop :=
  ∀ e ∈ senders.thrown, e.isIOException = true → senders.object.closed = true

private theorem FailedClosed.thrown (failed : FailedClosed senders)
    {monitor : Lib.Monitor Connection ASdu} {more : List JavaException}
    (stays : senders.object.closed = true → monitor.object.closed = true)
    (added : ∀ e ∈ more, e.isIOException = true → monitor.object.closed = true) :
    FailedClosed ⟨monitor, senders.thrown ++ more⟩ := by
  intro e member checked
  rcases List.mem_append.mp member with before | new
  · exact stays (failed e before checked)
  · exact added e new checked

private theorem FailedClosed.step (failed : FailedClosed senders) (watched : Watched settings senders)
    (bounded : Connection.Bounded settings senders.object) {action : Action}
    (meets : NoFatalError settings senders action) (taken : Step settings server senders action next) :
    FailedClosed next := by
  have stays := watched.stays bounded taken
  rcases taken.cases with ⟨thread, aSdu, called, rfl⟩ | ⟨_, _, -, -, rfl⟩ | ⟨_, rfl, -, rfl⟩ |
    ⟨own, d, rfl, own_step, rfl⟩
  · rcases Nat.lt_or_ge senders.object.getNumUnconfirmedAPdusSent settings.maxNumOfOutstandingIPdus with
      free | full
    · have goes : senders.object.SendGoesOut settings aSdu := by
        rcases called with ⟨rfl, -⟩ | ⟨rfl, woken⟩
        · exact meets free
        · exact meets aSdu woken free
      rw [attempt, if_neg (Nat.not_le.mpr free)] at stays ⊢
      apply failed.thrown stays
      intro e thrown checked
      have threw : (Connection.send settings aSdu).thrown senders.object = some e :=
        Option.mem_toList.mp thrown
      exact (Connection.send_failsClosed goes).thrown threw checked
    · rw [attempt_full thread aSdu full]
      exact failed
  · exact failed
  · exact failed.thrown stays fun _ _ _ => meets
  · exact failed.thrown stays (Connection.step_failsClosed meets own_step)

/-- In a run in which what `send` and `stopDataTransfer` write on an open connection goes
out, and in which no thread is interrupted in `wait()` or runs into the time-out of the
stop there, the connection is closed whenever one of them has thrown an `IOException`. -/
theorem closed_of_iOException {ioFails : Nat → Bool} {now : Nat} {actions : List Action}
    (run : Run (Run.Guarded (NoFatalError settings) (Step settings server))
      (started settings ioFails now) actions senders) :
    ∀ e ∈ senders.thrown, e.isIOException = true → senders.object.closed = true := by
  induction run with
  | start => exact fun _ member => absurd member List.not_mem_nil
  | next before last ih =>
    obtain ⟨meets, taken⟩ := last
    obtain ⟨watched, bounded⟩ := Watched.of_run before.unguarded
    exact FailedClosed.step ih watched bounded meets taken

/-- A send on a connection that the application has closed. -/
theorem closed_of_iOException_sample :
    ∃ senders, Run (Run.Guarded (NoFatalError {}) (Step {} true)) (started {} (fun _ => false) 0)
        [.other .close, .send 0 Connection.sampleCommand] senders ∧
      senders.thrown = [.iOException "connection closed"] ∧ senders.object.closed = true := by
  have run : Run (Run.Guarded (NoFatalError {}) (Step {} true)) (started {} (fun _ => false) 0)
      [.other .close, .send 0 Connection.sampleCommand] _ :=
    Run.guarded_of_perform rfl ⟨trivial, fun _ isOpen => absurd isOpen Bool.noConfusion, trivial⟩
  exact ⟨_, run, rfl, closed_of_iOException run _ List.mem_cons_self rfl⟩

/-- A stop that nobody confirms. -/
def sampleUnconfirmedStop : List Connection.Action :=
  Connection.sampleStart ++ [.stopDataTransfer 0, .proceed 0, .proceed 0, .proceed 0, .proceed 0, .timeOut 0]

/-- A stop that times out, a write that fails in a send, and a thread interrupted while it
waits for the window: none of them closes the connection. -/
theorem not_closed_of_iOException :
    (∃ senders, Run (Step {} false) (started {} (fun _ => false) 0)
        (sampleUnconfirmedStop.map .other) senders ∧
      senders.thrown = [Connection.requestTimedOut] ∧ senders.object.closed = false) ∧
    (∃ senders, Run (Step {} true) (started {} (fun call => call == 2) 0)
        [.other (.receive (Connection.sampleUnnumbered .STARTDT_ACT)), .send 0 Connection.sampleCommand]
        senders ∧
      senders.thrown = [Connection.ioFailure] ∧ senders.object.closed = false) ∧
    ∃ senders, Run (Step { maxNumOfOutstandingIPdus := 1 } true)
        (started { maxNumOfOutstandingIPdus := 1 } (fun _ => false) 0) (sampleSenders ++ [.interrupt 1])
        senders ∧
      senders.thrown = [interrupted] ∧ senders.object.closed = false :=
  ⟨⟨_, Run.of_perform rfl, rfl, rfl⟩, ⟨_, Run.of_perform rfl, rfl, rfl⟩, _, Run.of_perform rfl, rfl, rfl⟩

end Senders

end J60870
