import J60870.Connection.Methods
import J60870.Lib.Run

/-! A connection as a system: what its reader, its timers, its executor and the threads
of the application do to it, one step after the other. The blocks a thread runs under
the lock of the connection are one step; what the source does outside the lock takes
steps of its own. Two things are one step here although the source does not hold the
lock throughout: the S frame of `stopDataTransfer`, which `Interleaving` takes apart, and
the run of a timer with the test before it and the mark behind it, which `Managing` does. -/

namespace J60870

open Lib

namespace Connection

variable (settings : ConnectionSettings) (server : Bool)

section Calls

def setCall (thread : Nat) (call : Call) : Body Unit :=
  modify fun c => { c with calls := Function.update c.calls thread call }

/-- A part of a call that goes on as `call`, or ends the call by throwing. -/
def part (thread : Nat) (call : Call) (body : Body Unit) : Body Unit :=
  tryCatch (do body; setCall thread call) fun e => do
    setCall thread .idle
    log (.threw thread e)

def lastPart (thread : Nat) (body : Body Unit) : Body Unit := do
  body
  setCall thread .idle
  log (.returned thread)

def newStartDtConSignal : Body Unit :=
  modify fun c => { c with startDtConSignal := some c.latches, latches := c.latches + 1 }

def newStopDtConSignal : Body Unit :=
  modify fun c => { c with stopDtConSignal := some c.latches, latches := c.latches + 1 }

/-- `startDataTransfer` up to the latch. -/
def writeStartDtAct : Body Unit := do
  newStartDtConSignal
  write (unnumbered .STARTDT_ACT)
  flush

/-- The last block of `startDataTransfer`. -/
def register (listener : Option Listener) : Body Unit := do
  modify fun c => { c with aSduListener := listener }
  setStopped false

/-- The first block of `stopDataTransfer`. -/
def beginStop : Body Unit := do
  modify fun c => { c with pending := true, aSduListenerBack := c.aSduListener }
  setStopped true
  modify fun c => { c with aSduListener := none }

def writeStopDtAct : Body Unit := do
  newStopDtConSignal
  write (unnumbered .STOPDT_ACT)
  flush

def requestTimedOut : JavaException := .interruptedIOException "Request timed out."

/-- The next step of a thread inside a call; `none` where it has to wait. -/
def proceed (c : Connection) (thread : Nat) : Option (Body Unit) :=
  match c.calls thread with
  | .idle => none
  | .startWritten listener =>
    c.startDtConSignal.map fun latch => setCall thread (.startAwaiting listener latch)
  | .startAwaiting listener latch =>
    if latch ∈ c.countedDown then some (setCall thread (.startRegistering listener)) else none
  | .startRegistering listener => some (lastPart thread (register listener))
  | .stopBegun => some (part thread .stopConfirmed (sendSFormatIfUnconfirmedAPdu settings))
  | .stopConfirmed => some (part thread .stopCancelled (cancelIfPlanned .maxTimeNoAckSentTimer))
  | .stopCancelled => some (part thread .stopWritten writeStopDtAct)
  | .stopWritten => c.stopDtConSignal.map fun latch => setCall thread (.stopAwaiting latch)
  | .stopAwaiting latch =>
    if latch ∈ c.countedDown then some (setCall thread .stopFinishing) else none
  | .stopFinishing => some (lastPart thread (modify fun c => { c with pending := false }))

/-- A thread gives up waiting for its latch. -/
def timeOut (c : Connection) (thread : Nat) : Option (Body Unit) :=
  match c.calls thread with
  | .startAwaiting .. | .stopAwaiting .. => some (part thread .idle (throw requestTimedOut))
  | _ => none

/-- A thread is interrupted while it waits for its latch, which the source takes for
success. -/
def interrupt (c : Connection) (thread : Nat) : Option (Body Unit) :=
  match c.calls thread with
  | .startAwaiting listener _ => some (setCall thread (.startRegistering listener))
  | .stopAwaiting _ => some (setCall thread .stopFinishing)
  | _ => none

end Calls

/-- A private pool is shut down when the reader ends. -/
def poolRuns (c : Connection) : Bool := c.reader != .ended || settings.useSharedThreadPool

/-- The pool runs the active task, which reads the listener field now. -/
def runTask (task : Task) : Body Unit := do
  match (← get).aSduListener with
  | some listener => log (.newASdu listener task.aSdu)
  | none => log (.taskDied task.aSdu)
  modify fun c =>
    { c with serialExecutor := c.serialExecutor.scheduleNext, taskRejected := !poolRuns settings c }

inductive Action
  | send (aSdu : ASdu)
  | receive (aPdu : ReceivedAPdu)
  /-- the decoder throws in the reader -/
  | readFailure (e : JavaException)
  | endReader
  /-- the manager takes a timer that is due -/
  | fire (id : TimerId)
  | tick (milliseconds : Nat)
  | runTask
  | setConnectionListener (listener : Option Listener)
  | close
  | startDataTransfer (thread : Nat) (listener : Option Listener)
  | stopDataTransfer (thread : Nat)
  | proceed (thread : Nat)
  | timeOut (thread : Nat)
  | interrupt (thread : Nat)

def fire (id : TimerId) : Body Unit := do
  modify fun c =>
    { c with timeoutManager := { c.timeoutManager with queue := c.timeoutManager.queue.erase id } }
  executeManually settings id

/-- The manager's thread is interrupted with its pool. -/
def managerRuns (c : Connection) : Bool := poolRuns settings c

/-- What an action does, if it can be taken. -/
def body (c : Connection) : Action → Option (Body Unit)
  | .send aSdu =>
    if c.getNumUnconfirmedAPdusSent < settings.maxNumOfOutstandingIPdus then some (send settings aSdu)
    else none
  | .receive aPdu =>
    if c.reader = .running then some (readerTurn settings server aPdu.toAPdu) else none
  | .readFailure e => if c.reader = .running then some (leaveLoop e) else none
  | .endReader => if c.reader = .leaving then some endReader else none
  | .fire id =>
    if id ∈ c.timeoutManager.queue ∧ (c.timer id).dueTime ≤ c.currentTimeMillis ∧
        managerRuns settings c then
      some (fire settings id)
    else none
  | .tick milliseconds =>
    some (modify fun c => { c with currentTimeMillis := c.currentTimeMillis + milliseconds })
  | .runTask => if c.taskRejected then none else c.serialExecutor.active.map (runTask settings)
  | .setConnectionListener listener => some (modify fun c => { c with aSduListener := listener })
  | .close => some close
  | .startDataTransfer thread listener =>
    if c.calls thread = .idle then some (part thread (.startWritten listener) writeStartDtAct) else none
  | .stopDataTransfer thread =>
    if c.calls thread = .idle then some (part thread .stopBegun beginStop) else none
  | .proceed thread => proceed settings c thread
  | .timeOut thread => timeOut c thread
  | .interrupt thread => interrupt c thread

/-- The state an action leaves, whether what it ran returned or threw. -/
def step (c : Connection) (action : Action) : Option Connection :=
  (body settings server c action).map fun body => body.outcome c

def Step (c : Connection) (action : Action) (d : Connection) : Prop :=
  step settings server c action = some d

/-- The timers of a new connection. None but the idle timer is planned. -/
def newTimers : TimeoutManager TimerId where
  task
    | .maxTimeNoTestConReceived | .maxTimeNoAckReceived => ⟨settings.maxTimeNoAckReceived, 0, false, false⟩
    | .maxIdleTimeTimer => ⟨settings.maxIdleTime, 0, false, false⟩
    | .maxTimeNoAckSentTimer => ⟨settings.maxTimeNoAckSent, 0, false, false⟩
    | .stopDtOutstandingSFormatTimer _ => ⟨0, 0, false, false⟩

/-- A connection after `start()`, for a socket and a clock. -/
def started (ioFails : Nat → Bool) (currentTimeMillis : Nat) : Connection where
  timeoutManager := (newTimers settings).addTimerTask currentTimeMillis .maxIdleTimeTimer
  ioFails := ioFails
  currentTimeMillis := currentTimeMillis

/-- The connection is not closed, and its reader is in its loop. -/
def IsOpen (c : Connection) : Prop := c.closed = false ∧ c.reader = .running

/-- Run a list of actions from the first to the last. -/
abbrev runActions : Connection → List Action → Option Connection := Run.perform (step settings server)

/-- Every action of the list meets a condition in the state it is taken in. -/
abbrev RunMeets (good : Connection → Action → Prop) : Connection → List Action → Prop :=
  Run.Meets (step settings server) good

section Samples

/-- A single command. -/
def sampleCommand : ASdu where
  aSduType := .C_SC_NA_1
  isSequenceOfElements := false
  causeOfTransmission := some .activation
  test := false
  negativeConfirm := false
  originatorAddress := 0
  commonAddress := 1
  informationObjects := some [⟨1, [[.ieSingleCommand 1]]⟩]
  privateInformation := none
  sequenceLength := 1

def sampleUnnumbered (apciType : ApciType) : ReceivedAPdu where
  toAPdu := unnumbered apciType
  sendSeqNum_lt := Nat.two_pow_pos 15
  receiveSeqNum_lt := Nat.two_pow_pos 15

def sampleIFormat (sendSeqNum receiveSeqNum : Nat) : ReceivedAPdu where
  toAPdu := .iFormat (sendSeqNum % 2 ^ 15) (receiveSeqNum % 2 ^ 15) sampleCommand
  sendSeqNum_lt := Nat.mod_lt _ (Nat.two_pow_pos 15)
  receiveSeqNum_lt := Nat.mod_lt _ (Nat.two_pow_pos 15)

def sampleSFormat (receiveSeqNum : Nat) : ReceivedAPdu where
  toAPdu := .sFormat (receiveSeqNum % 2 ^ 15)
  sendSeqNum_lt := Nat.two_pow_pos 15
  receiveSeqNum_lt := Nat.mod_lt _ (Nat.two_pow_pos 15)

def sampleConfirmed : List Action :=
  [.startDataTransfer 0 (some 7), .proceed 0, .receive (sampleUnnumbered .STARTDT_CON)]

def sampleStart : List Action := sampleConfirmed ++ [.proceed 0, .proceed 0]

/-- The state some actions lead to, on a socket that does not fail. -/
def sampleState (server : Bool) (actions : List Action) : Connection :=
  (runActions {} server (started {} (fun _ => false) 0) actions).getD (started {} (fun _ => false) 0)

end Samples

theorem step_eq_some {settings : ConnectionSettings} {server : Bool} {c d : Connection}
    {action : Action} (taken : Step settings server c action d) :
    ∃ method, body settings server c action = some method ∧ d = method.outcome c := by
  obtain ⟨method, found, rfl⟩ := Option.map_eq_some_iff.mp taken
  exact ⟨method, found, rfl⟩

theorem guarded_of_runActions {settings : ConnectionSettings} {server : Bool} {c d : Connection}
    {actions : List Action} {good : Connection → Action → Prop}
    (ends : runActions settings server c actions = some d)
    (meets : RunMeets settings server good c actions) :
    Run (Run.Guarded good (Step settings server)) c actions d :=
  Run.guarded_of_perform ends meets

theorem tracked_of_runActions {settings : ConnectionSettings} {server : Bool} {c d : Connection}
    {actions : List Action} {good : Connection → Action → Prop} {γ : Type}
    {note : Connection → Action → γ → γ} (noted : γ) (ends : runActions settings server c actions = some d)
    (meets : RunMeets settings server good c actions) :
    Run (Run.Tracked note (Run.Guarded good (Step settings server))) (c, noted) actions
      (d, Run.notes (step settings server) note c noted actions) :=
  Run.tracked_of_perform noted ends meets

theorem run_of_runActions {settings : ConnectionSettings} {server : Bool} {c d : Connection}
    {actions : List Action} (ends : runActions settings server c actions = some d) :
    Run (Step settings server) c actions d :=
  Run.of_perform ends

end Connection

end J60870
