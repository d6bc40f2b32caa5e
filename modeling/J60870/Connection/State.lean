import J60870.APdu
import J60870.Timeout
import J60870.Internal.SerialExecutor
import J60870.Lib.Method

namespace J60870

open Lib

/-- The `ConnectionEventListener` objects, told apart by a number. -/
abbrev Listener := Nat

/-- The timer objects of a connection. A `StopDtOutstandingSFormatTimer` is created for
every deferred confirmation. -/
inductive TimerId
  | maxTimeNoTestConReceived
  | maxTimeNoAckReceived
  | maxIdleTimeTimer
  | maxTimeNoAckSentTimer
  | stopDtOutstandingSFormatTimer (object : Nat)
  deriving DecidableEq, Repr

/-- A frame handed to `os`, with `stopped` as it was then. -/
structure Written where
  frame : APdu
  stopped : Bool
  deriving DecidableEq

/-- A task of the serial executor: the ASDU it will pass on. The listener registered
when it was handed over is noted for the statements; the task does not use it. -/
structure Task where
  aSdu : Option ASdu
  listener : Listener
  deriving DecidableEq

/-- What a listener or a caller gets to see. -/
inductive Event
  | dataTransferStateChanged (listener : Listener) (stopped : Bool)
  | newASdu (listener : Listener) (aSdu : Option ASdu)
  /-- the task of an ASDU died of a `NullPointerException` -/
  | taskDied (aSdu : Option ASdu)
  | connectionClosed (listener : Listener) (cause : Option JavaException)
  /-- an I frame was counted as received, with the listener its ASDU was handed over for -/
  | accepted (aSdu : Option ASdu) (listener : Option Listener)
  | returned (thread : Nat)
  | threw (thread : Nat) (exception : JavaException)
  deriving DecidableEq

/-- The two ways a call of the application ends. -/
def Event.endsCall : Event → Bool
  | .returned _ | .threw _ _ => true
  | _ => false

/-- The reader thread: in its loop, between the loop and the `finally` block, or over. -/
inductive ReaderState
  | running | leaving | ended
  deriving DecidableEq, Repr

/-- How far a thread is in `startDataTransfer` or `stopDataTransfer`. -/
inductive Call
  | idle
  /-- `STARTDT_ACT` is written -/
  | startWritten (listener : Option Listener)
  | startAwaiting (listener : Option Listener) (latch : Nat)
  /-- woken, and about to register the listener -/
  | startRegistering (listener : Option Listener)
  /-- behind the first block of `stopDataTransfer` -/
  | stopBegun
  /-- behind `sendSFormatIfUnconfirmedAPdu` -/
  | stopConfirmed
  /-- behind the cancelling of the t2 timer -/
  | stopCancelled
  /-- `STOPDT_ACT` is written -/
  | stopWritten
  | stopAwaiting (latch : Nat)
  | stopFinishing
  deriving DecidableEq, Repr

structure Connection where
  buffer : Vector Octet 255 := Vector.replicate 255 0
  closed : Bool := false
  stopped : Bool := true
  pending : Bool := false
  aSduListener : Option Listener := none
  aSduListenerBack : Option Listener := none
  sendSequenceNumber : Nat := 0
  receiveSequenceNumber : Nat := 0
  acknowledgedReceiveSequenceNumber : Nat := 0
  acknowledgedSendSequenceNumber : Nat := 0
  timeoutManager : TimeoutManager TimerId
  /-- the timer object the field holds -/
  stopDtOutstandingSFormatTimer : Option Nat := none
  /-- the timer objects created so far -/
  stopDtTimers : Nat := 0
  closedIOException : Option JavaException := none
  /-- the latch objects the fields hold, by number -/
  startDtConSignal : Option Nat := none
  stopDtConSignal : Option Nat := none
  latches : Nat := 0
  countedDown : List Nat := []
  serialExecutor : SerialExecutor Task := {}
  /-- the pool was shut down when the active task was handed to it -/
  taskRejected : Bool := false
  /-- the calls of `notifyAll` -/
  notifications : Nat := 0
  /-- what `os` has taken; the call number `n` of `os` fails if `ioFails n` -/
  written : List Written := []
  /-- how many of these frames have left the buffer of `os` for the socket -/
  flushed : Nat := 0
  ioFails : Nat → Bool
  ioCalls : Nat := 0
  currentTimeMillis : Nat
  reader : ReaderState := .running
  calls : Nat → Call := fun _ => .idle
  events : List Event := []

namespace Connection

abbrev Body (α : Type) := Method JavaException Connection α

def timer (c : Connection) (id : TimerId) : TimeoutTask := c.timeoutManager.task id

def sequenceNumberDiff (number ackNumber : Nat) : Nat :=
  if ackNumber > number then (2 ^ 15 - ackNumber) + number else number - ackNumber

def getNumUnconfirmedAPdusSent (c : Connection) : Nat :=
  sequenceNumberDiff c.sendSequenceNumber c.acknowledgedSendSequenceNumber

def numUnconfirmedIPdusReceived (c : Connection) : Nat :=
  sequenceNumberDiff c.receiveSequenceNumber c.acknowledgedReceiveSequenceNumber

/-- What a failing socket throws. -/
def ioFailure : JavaException := .iOException "Broken pipe"

section Primitives

def addTimerTask (id : TimerId) : Body Unit :=
  modify fun c =>
    { c with timeoutManager := c.timeoutManager.addTimerTask c.currentTimeMillis id }

def cancel (id : TimerId) : Body Unit :=
  modify fun c => { c with timeoutManager := c.timeoutManager.cancel id }

/-- `if (timer.isPlanned()) { timer.cancel(); }` -/
def cancelIfPlanned (id : TimerId) : Body Unit := do
  if ((← get).timer id).isPlanned then cancel id

def callOs : Body Bool := do
  let c ← get
  modify fun c => { c with ioCalls := c.ioCalls + 1 }
  return c.ioFails c.ioCalls

def write (frame : APdu) : Body Unit := do
  if ← callOs then throw ioFailure
  modify fun c => { c with written := c.written ++ [⟨frame, c.stopped⟩] }

/-- Flushing reaches the socket, which may be closed. What `os` has taken goes out then. -/
def flush : Body Unit := do
  if (← callOs) || (← get).closed then throw ioFailure
  modify fun c => { c with flushed := c.written.length }

def encode (settings : ConnectionSettings) (aPdu : APdu) : Body Unit := do
  match aPdu.encode settings (← get).buffer with
  | .ok (buffer, _) => modify fun c => { c with buffer := buffer }
  | .error e =>
    modify fun c => { c with buffer := aPdu.begun c.buffer }
    throw e

def log (event : Event) : Body Unit := modify fun c => { c with events := c.events ++ [event] }

/-- Wakes the threads that wait on the connection. -/
def notifyAll : Body Unit := modify fun c => { c with notifications := c.notifications + 1 }

def unnumbered (apciType : ApciType) : APdu := ⟨0, 0, apciType, none⟩

end Primitives

end Connection

end J60870
