import J60870.Connection.Rules
import J60870.Lib.Part

/-! `Connection.start()`, statement by statement, beside the reader it starts. The reader
uses fields that `start()` may not have assigned yet. -/

namespace J60870

open Lib Method

/-- The fields `start()` assigns. -/
inductive Field
  | maxTimeNoTestConReceived
  | maxTimeNoAckReceived
  | maxIdleTimeTimer
  | maxTimeNoAckSentTimer
  | executor
  | serialExecutor
  | timeoutManager
  deriving DecidableEq, Repr

inductive StartStatement
  | startReader
  | assign (field : Field)
  | incremntConnectionsCounter
  | executeTimeoutManager
  | addMaxIdleTimeTimer
  deriving DecidableEq, Repr

def startStatements : List StartStatement :=
  [.startReader, .assign .maxTimeNoTestConReceived, .assign .maxTimeNoAckReceived,
    .assign .maxIdleTimeTimer, .assign .maxTimeNoAckSentTimer, .assign .executor, .assign .serialExecutor,
    .incremntConnectionsCounter, .assign .timeoutManager, .executeTimeoutManager, .addMaxIdleTimeTimer]

/-- A connection that is being started. -/
structure StartUp where
  connection : Connection
  /-- the statements of `start()` that are still to come -/
  rest : List StartStatement := startStatements
  /-- the fields that were dereferenced when they were null -/
  nullDereferences : List Field := []

namespace StartUp

abbrev Body (α : Type) := Method JavaException StartUp α

variable (settings : ConnectionSettings) (server : Bool)

def assigned (s : StartUp) (field : Field) : Bool := StartStatement.assign field ∉ s.rest

/-- The connection, as what the methods that use no such field change. -/
def part : Part StartUp Connection where
  get := connection
  set s c := { s with connection := c }
  get_set _ _ := rfl
  set_get _ := rfl
  set_set _ _ _ := rfl

@[simp] theorem part_get (s : StartUp) : part.get s = s.connection := rfl

@[simp] theorem part_set_connection (s : StartUp) (c : Connection) : (part.set s c).connection = c := rfl

@[simp] theorem part_set_assigned (s : StartUp) (c : Connection) (field : Field) :
    (part.set s c).assigned field = s.assigned field :=
  rfl

@[simp] theorem part_set_nullDereferences (s : StartUp) (c : Connection) :
    (part.set s c).nullDereferences = s.nullDereferences :=
  rfl

@[simp] theorem part_set_self (s : StartUp) : part.set s s.connection = s := rfl

@[simp] theorem part_set_rest (s : StartUp) (c : Connection) : (part.set s c).rest = s.rest := rfl

section Methods

def dereference (field : Field) : Body Unit := do
  let s ← get
  if s.assigned field = false then
    modify fun s => { s with nullDereferences := s.nullDereferences ++ [field] }
    throw .nullPointerException

/-- The field that holds a timer. The timers of deferred confirmations are in a field that
is only used where it is not null. -/
def dereferenceTimer : TimerId → Body Unit
  | .maxTimeNoTestConReceived => dereference .maxTimeNoTestConReceived
  | .maxTimeNoAckReceived => dereference .maxTimeNoAckReceived
  | .maxIdleTimeTimer => dereference .maxIdleTimeTimer
  | .maxTimeNoAckSentTimer => dereference .maxTimeNoAckSentTimer
  | .stopDtOutstandingSFormatTimer _ => return

def addTimerTask (id : TimerId) : Body Unit := do
  dereference .timeoutManager
  dereferenceTimer id
  part.on (Connection.addTimerTask id)

def cancel (id : TimerId) : Body Unit := do
  dereferenceTimer id
  part.on (Connection.cancel id)

def cancelIfPlanned (id : TimerId) : Body Unit := do
  dereferenceTimer id
  part.on (Connection.cancelIfPlanned id)

def resetMaxIdleTimeTimer : Body Unit := do
  cancel .maxIdleTimeTimer
  addTimerTask .maxIdleTimeTimer

def sendSFormatPdu : Body Unit := do
  let c ← part.on get
  let aPdu := APdu.sFormat c.receiveSequenceNumber
  part.on (Connection.encode settings aPdu)
  part.on (Connection.write aPdu)
  part.on Connection.flush
  part.on (modify fun c => { c with acknowledgedReceiveSequenceNumber := c.receiveSequenceNumber })
  resetMaxIdleTimeTimer

def sendSFormatIfUnconfirmedAPdu : Body Unit := do
  let c ← part.on get
  if 0 < c.numUnconfirmedIPdusReceived then
    sendSFormatPdu settings
    cancelIfPlanned .maxTimeNoAckSentTimer

/-- `handleStopDtAct`, which looks at `maxTimeNoAckReceived` only if something is
unconfirmed. -/
def confirmStop : Body Unit := do
  let c ← part.on get
  if 0 < c.getNumUnconfirmedAPdusSent then
    dereference .maxTimeNoAckReceived
    if (c.timer .maxTimeNoAckReceived).isPlanned then
      part.on (Connection.newStopDtTimer
        ((c.timer .maxTimeNoAckReceived).sleepTimeFromDueTime c.currentTimeMillis))
      addTimerTask (.stopDtOutstandingSFormatTimer c.stopDtTimers)
    else
      part.on Connection.sendStopDtCon
  else
    part.on Connection.sendStopDtCon

def handleStopDtAct : Body Unit := do
  part.on (Connection.setStopped true)
  part.on (modify fun c => { c with pending := true })
  let c ← part.on get
  if c.aSduListener.isSome then
    part.on (modify fun c => { c with aSduListenerBack := c.aSduListener, aSduListener := none })
  cancelIfPlanned .maxTimeNoAckSentTimer
  sendSFormatIfUnconfirmedAPdu settings
  confirmStop

def handleStartDtAct : Body Unit := do
  part.on (Connection.write (Connection.unnumbered .STARTDT_CON))
  let c ← part.on get
  if c.aSduListener.isNone then
    part.on (modify fun c => { c with aSduListener := c.aSduListenerBack })
  part.on (Connection.setStopped false)
  part.on Connection.flush
  resetMaxIdleTimeTimer

def updateReceiveSeqNum (sendSeqNumber : Nat) : Body Unit := do
  part.on (Connection.verifySeqNumber sendSeqNumber)
  part.on (modify fun c => { c with receiveSequenceNumber := (sendSeqNumber + 1) % 2 ^ 15 })
  let c ← part.on get
  if sendSeqNumber > c.receiveSequenceNumber then
    sendSFormatPdu settings

def handleReceiveSequenceNumber (receiveSeqNumber : Nat) : Body Unit := do
  let c ← part.on get
  if c.acknowledgedSendSequenceNumber = receiveSeqNumber then return
  if Connection.sequenceNumberDiff receiveSeqNumber c.acknowledgedSendSequenceNumber >
      c.getNumUnconfirmedAPdusSent then
    part.on (throw (Connection.unexpectedReceiveSequenceNumber c receiveSeqNumber))
  cancelIfPlanned .maxTimeNoAckReceived
  part.on (modify fun c => { c with acknowledgedSendSequenceNumber := receiveSeqNumber })
  let c ← part.on get
  if c.sendSequenceNumber ≠ c.acknowledgedSendSequenceNumber then
    if c.getNumUnconfirmedAPdusSent > settings.maxNumOfOutstandingIPdus then
      part.on (throw Connection.maxNumberExceeded)
    else
      addTimerTask .maxTimeNoAckReceived
  part.on Connection.notifyAll

/-- The listener is handed the ASDU by `serialExecutor`. -/
def handOver (aSdu : Option ASdu) : Body Unit := do
  let c ← part.on get
  if c.aSduListener.isSome then dereference .serialExecutor
  part.on (Connection.handOver aSdu)

def acknowledgeReceived : Body Unit := do
  let c ← part.on get
  if c.numUnconfirmedIPdusReceived ≥ settings.maxUnconfirmedIPdusReceived then
    sendSFormatPdu settings
    cancelIfPlanned .maxTimeNoAckSentTimer
  else
    dereference .maxTimeNoAckSentTimer
    if !(c.timer .maxTimeNoAckSentTimer).isPlanned || c.numUnconfirmedIPdusReceived = 1 then
      addTimerTask .maxTimeNoAckSentTimer

def handleIFrame (aPdu : APdu) : Body Unit := do
  updateReceiveSeqNum settings aPdu.sendSeqNum
  handleReceiveSequenceNumber settings aPdu.receiveSeqNum
  handOver aPdu.aSdu
  acknowledgeReceived settings

/-- A deferred confirmation uses none of the fields. -/
def executeStopDtTimer (object : Option Nat) : Body Unit :=
  match object with
  | some object => part.on (Connection.executeManually settings (.stopDtOutstandingSFormatTimer object))
  | none => part.on (pure ())

def dispatch (aPdu : APdu) : Body Unit := do
  match aPdu.apciType with
  | .I_FORMAT =>
    part.on (Connection.closeIfStopped server .I_FORMAT)
    handleIFrame settings aPdu
  | .S_FORMAT =>
    part.on (Connection.closeIfStopped server .S_FORMAT)
    handleReceiveSequenceNumber settings aPdu.receiveSeqNum
    let c ← part.on get
    executeStopDtTimer settings c.stopDtOutstandingSFormatTimer
  | .STARTDT_CON =>
    let c ← part.on get
    part.on (Connection.countDown c.startDtConSignal)
  | .STARTDT_ACT => handleStartDtAct
  | .TESTFR_ACT => part.on Connection.sendTestFrameCon
  | .TESTFR_CON => cancel .maxTimeNoTestConReceived
  | .STOPDT_CON =>
    let c ← part.on get
    part.on (Connection.countDown c.stopDtConSignal)
  | .STOPDT_ACT => handleStopDtAct settings

def handle (aPdu : APdu) : Body Unit := do
  dispatch settings server aPdu
  resetMaxIdleTimeTimer

def readerTurn (aPdu : APdu) : Body Unit :=
  tryCatch (handle settings server aPdu) fun e => part.on (Connection.leaveLoop e)

/-- A private pool is shut down, and the counter of a shared one decremented. -/
def closeThreadPool : Body Unit := if settings.useSharedThreadPool then return else dereference .executor

/-- The `finally` block of the reader. -/
def endReader : Body Unit := do
  part.on Connection.endReader
  closeThreadPool settings

end Methods

inductive Action
  /-- the next statement of `start()` -/
  | statement
  | receive (aPdu : ReceivedAPdu)
  | readFailure (e : JavaException)
  | endReader
  | tick (milliseconds : Nat)

def readerStarted (s : StartUp) : Bool := StartStatement.startReader ∉ s.rest

/-- What a statement does to the connection. The manager's thread and the counter are not
part of it, and to assign a field is to be past its assignment. -/
def execute : StartStatement → Body Unit
  | .addMaxIdleTimeTimer => addTimerTask .maxIdleTimeTimer
  | _ => return

def body (s : StartUp) : Action → Option (Body Unit)
  | .statement =>
    match s.rest with
    | [] => none
    | statement :: rest =>
      some do
        execute statement
        modify fun s => { s with rest := rest }
  | .receive aPdu =>
    if s.readerStarted ∧ s.connection.reader = .running then some (readerTurn settings server aPdu.toAPdu)
    else none
  | .readFailure e =>
    if s.readerStarted ∧ s.connection.reader = .running then some (part.on (Connection.leaveLoop e)) else none
  | .endReader => if s.connection.reader = .leaving then some (endReader settings) else none
  | .tick milliseconds =>
    some (part.on (modify fun c => { c with currentTimeMillis := c.currentTimeMillis + milliseconds }))

def step (s : StartUp) (action : Action) : Option StartUp :=
  (body settings server s action).map fun body => body.outcome s

def Step (s : StartUp) (action : Action) (t : StartUp) : Prop := step settings server s action = some t

/-- A connection behind its constructor, with the listener that was set by then. -/
def constructed (listener : Option Listener) (ioFails : Nat → Bool) (currentTimeMillis : Nat) : Connection where
  timeoutManager := Connection.newTimers settings
  aSduListener := listener
  ioFails := ioFails
  currentTimeMillis := currentTimeMillis

/-- Where the reader has nothing to do, `start()` leaves a started connection. -/
theorem statements_eq_started (listener : Option Listener) (ioFails : Nat → Bool) (now : Nat) :
    (Run.perform (step settings server) { connection := constructed settings listener ioFails now }
      (List.replicate 11 .statement)).map connection =
      some { Connection.started settings ioFails now with aSduListener := listener } :=
  rfl

section Agreement

def AllAssigned (s : StartUp) : Prop := ∀ field, s.assigned field = true

variable {settings : ConnectionSettings} {server : Bool}

theorem AllAssigned.apart (s : StartUp) (c : Connection) (all : AllAssigned s) :
    AllAssigned (part.set s c) := all

/-- Once all fields are assigned, a method is that of the connection. -/
abbrev Agrees {α : Type} (m : Body α) (n : Connection.Body α) : Prop := part.Agrees AllAssigned m n

theorem dereference_of_all {s : StartUp} (all : AllAssigned s) (field : Field) :
    dereference field s = .ok () s := by
  have assigned : ¬ s.assigned field = false := ne_false_of_eq_true (all field)
  have read : dereference field s = (if s.assigned field = false then do
      modify fun s => { s with nullDereferences := s.nullDereferences ++ [field] }
      throw .nullPointerException
    else pure () : Body Unit) s := rfl
  rw [read, if_neg assigned]
  rfl

theorem dereferenceTimer_of_all {s : StartUp} (all : AllAssigned s) (id : TimerId) :
    dereferenceTimer id s = .ok () s := by
  cases id <;> first | exact dereference_of_all all _ | rfl

namespace Agrees

open Part.Agrees

private theorem seq {α β : Type} {m : Body α} {n : Connection.Body α} {k : α → Body β}
    {l : α → Connection.Body β} (first : Agrees m n) (second : ∀ a, Agrees (k a) (l a)) :
    Agrees (m >>= k) (n >>= l) :=
  bind AllAssigned.apart first second

theorem addTimerTask (id : TimerId) : Agrees (addTimerTask id) (Connection.addTimerTask id) :=
  after (fun _ all => dereference_of_all all _) (after (fun _ all => dereferenceTimer_of_all all id) (on _))

private theorem cancel (id : TimerId) : Agrees (cancel id) (Connection.cancel id) :=
  after (fun _ all => dereferenceTimer_of_all all id) (on _)

private theorem cancelIfPlanned (id : TimerId) :
    Agrees (cancelIfPlanned id) (Connection.cancelIfPlanned id) :=
  after (fun _ all => dereferenceTimer_of_all all id) (on _)

private theorem resetMaxIdleTimeTimer : Agrees resetMaxIdleTimeTimer Connection.resetMaxIdleTimeTimer :=
  seq (cancel _) fun _ => addTimerTask _

private theorem sendSFormatPdu : Agrees (sendSFormatPdu settings) (Connection.sendSFormatPdu settings) :=
  seq (on _) fun _ => seq (on _) fun _ => seq (on _) fun _ => seq (on _) fun _ => seq (on _) fun _ =>
    resetMaxIdleTimeTimer

private theorem sendSFormatIfUnconfirmedAPdu :
    Agrees (sendSFormatIfUnconfirmedAPdu settings) (Connection.sendSFormatIfUnconfirmedAPdu settings) :=
  seq (on _) fun _ => ite (seq sendSFormatPdu fun _ => cancelIfPlanned _) (pure ())

private theorem handleStopDtAct :
    Agrees (handleStopDtAct settings) (Connection.handleStopDtAct settings) := by
  refine seq (on _) fun _ => seq (on _) fun _ => seq (on _) fun c => ?_
  have confirmed : Agrees (do
      StartUp.cancelIfPlanned .maxTimeNoAckSentTimer
      StartUp.sendSFormatIfUnconfirmedAPdu settings
      confirmStop) (do
      Connection.cancelIfPlanned .maxTimeNoAckSentTimer
      Connection.sendSFormatIfUnconfirmedAPdu settings
      let c ← get
      if 0 < c.getNumUnconfirmedAPdusSent && (c.timer .maxTimeNoAckReceived).isPlanned then
        Connection.newStopDtTimer
          ((c.timer .maxTimeNoAckReceived).sleepTimeFromDueTime c.currentTimeMillis)
        Connection.addTimerTask (.stopDtOutstandingSFormatTimer c.stopDtTimers)
      else
        Connection.sendStopDtCon) := by
    refine seq (cancelIfPlanned _) fun _ => seq sendSFormatIfUnconfirmedAPdu fun _ => seq (on _) fun c => ?_
    by_cases outstanding : 0 < c.getNumUnconfirmedAPdusSent
    · simp only [outstanding, if_true, decide_true, Bool.true_and]
      refine after (fun _ all => dereference_of_all all _) (ite ?_ (on _))
      exact seq (on _) fun _ => addTimerTask _
    · simp only [outstanding, if_false, decide_false, Bool.false_and, Bool.false_eq_true]
      exact on _
  exact ite (seq (on _) fun _ => confirmed) confirmed

private theorem handleStartDtAct : Agrees handleStartDtAct Connection.handleStartDtAct := by
  refine seq (on _) fun _ => seq (on _) fun c => ?_
  have started : Agrees (do
      part.on (Connection.setStopped false)
      part.on Connection.flush
      StartUp.resetMaxIdleTimeTimer) (do
      Connection.setStopped false
      Connection.flush
      Connection.resetMaxIdleTimeTimer) :=
    seq (on _) fun _ => seq (on _) fun _ => resetMaxIdleTimeTimer
  exact ite (seq (on _) fun _ => started) started

private theorem updateReceiveSeqNum (sendSeqNumber : Nat) :
    Agrees (updateReceiveSeqNum settings sendSeqNumber)
      (Connection.updateReceiveSeqNum settings sendSeqNumber) :=
  seq (on _) fun _ => seq (on _) fun _ => seq (on _) fun _ => ite sendSFormatPdu (pure ())

private theorem handleReceiveSequenceNumber (receiveSeqNumber : Nat) :
    Agrees (handleReceiveSequenceNumber settings receiveSeqNumber)
      (Connection.handleReceiveSequenceNumber settings receiveSeqNumber) := by
  refine seq (on _) fun c => ite (pure ()) ?_
  have acknowledged : Agrees (do
      StartUp.cancelIfPlanned .maxTimeNoAckReceived
      part.on (modify fun c => { c with acknowledgedSendSequenceNumber := receiveSeqNumber })
      let c ← part.on get
      if c.sendSequenceNumber ≠ c.acknowledgedSendSequenceNumber then
        if c.getNumUnconfirmedAPdusSent > settings.maxNumOfOutstandingIPdus then
          part.on (throw Connection.maxNumberExceeded)
        else
          StartUp.addTimerTask .maxTimeNoAckReceived
      part.on Connection.notifyAll) (do
      Connection.cancelIfPlanned .maxTimeNoAckReceived
      modify fun c => { c with acknowledgedSendSequenceNumber := receiveSeqNumber }
      let c ← get
      if c.sendSequenceNumber ≠ c.acknowledgedSendSequenceNumber then
        if c.getNumUnconfirmedAPdusSent > settings.maxNumOfOutstandingIPdus then
          throw Connection.maxNumberExceeded
        else
          Connection.addTimerTask .maxTimeNoAckReceived
      Connection.notifyAll) := by
    refine seq (cancelIfPlanned _) fun _ => seq (on _) fun _ => seq (on _) fun c => ?_
    exact ite (ite (seq (on _) fun _ => on _) (seq (addTimerTask _) fun _ => on _)) (on _)
  exact ite (seq (on _) fun _ => acknowledged) acknowledged

private theorem handOver (aSdu : Option ASdu) : Agrees (handOver aSdu) (Connection.handOver aSdu) := by
  have looked : Agrees (StartUp.handOver aSdu) (do
      let _ ← get
      Connection.handOver aSdu) := by
    refine seq (on _) fun c => ?_
    split
    · exact after (fun _ all => dereference_of_all all _) (on _)
    · exact on _
  exact looked

private theorem acknowledgeReceived :
    Agrees (acknowledgeReceived settings) (Connection.acknowledgeReceived settings) := by
  refine seq (on _) fun c => ite (seq sendSFormatPdu fun _ => cancelIfPlanned _) ?_
  exact after (fun _ all => dereference_of_all all _) (ite (addTimerTask _) (pure ()))

private theorem handleIFrame (aPdu : APdu) :
    Agrees (handleIFrame settings aPdu) (Connection.handleIFrame settings aPdu) :=
  seq (updateReceiveSeqNum _) fun _ => seq (handleReceiveSequenceNumber _) fun _ => seq (handOver _) fun _ =>
    acknowledgeReceived

private theorem dispatch (aPdu : APdu) :
    Agrees (dispatch settings server aPdu) (Connection.dispatch settings server aPdu) := by
  unfold StartUp.dispatch Connection.dispatch
  cases aPdu.apciType with
  | I_FORMAT => exact seq (on _) fun _ => handleIFrame aPdu
  | S_FORMAT =>
    refine seq (on _) fun _ => seq (handleReceiveSequenceNumber _) fun _ => seq (on _) fun c => ?_
    cases c.stopDtOutstandingSFormatTimer with
    | none => exact on (Pure.pure ())
    | some object => exact on _
  | STARTDT_CON => exact seq (on _) fun _ => on _
  | STARTDT_ACT => exact handleStartDtAct
  | TESTFR_ACT => exact on _
  | TESTFR_CON => exact cancel _
  | STOPDT_CON => exact seq (on _) fun _ => on _
  | STOPDT_ACT => exact handleStopDtAct

/-- Once all fields are assigned, a turn of the reader is a turn of the reader of a started
connection. -/
theorem readerTurn (aPdu : APdu) :
    Agrees (readerTurn settings server aPdu) (Connection.readerTurn settings server aPdu) :=
  tryCatch AllAssigned.apart (seq (dispatch aPdu) fun _ => resetMaxIdleTimeTimer) fun _ => on _

end Agrees

end Agreement

end StartUp

end J60870
