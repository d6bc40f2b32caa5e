import J60870.Connection.State

namespace J60870

open Lib

def ApciType.name : ApciType → String
  | .I_FORMAT => "I_FORMAT" | .S_FORMAT => "S_FORMAT" | .TESTFR_CON => "TESTFR_CON"
  | .TESTFR_ACT => "TESTFR_ACT" | .STOPDT_CON => "STOPDT_CON" | .STOPDT_ACT => "STOPDT_ACT"
  | .STARTDT_CON => "STARTDT_CON" | .STARTDT_ACT => "STARTDT_ACT"

/-- A frame as the decoder returns it. -/
structure ReceivedAPdu extends APdu where
  sendSeqNum_lt : sendSeqNum < 2 ^ 15
  receiveSeqNum_lt : receiveSeqNum < 2 ^ 15

namespace Connection

variable (settings : ConnectionSettings) (server : Bool)

def resetMaxIdleTimeTimer : Body Unit := do
  cancel .maxIdleTimeTimer
  addTimerTask .maxIdleTimeTimer

def sendTestFrameCon : Body Unit := do
  write (unnumbered .TESTFR_CON)
  flush

def closeIfStopped (apciType : ApciType) : Body Unit := do
  let c ← get
  if server && c.stopped && !c.pending then
    throw (.iOException s!"Got {apciType.name} message while STOPDT state.")

def setStopped (stopped : Bool) : Body Unit := do
  modify fun c => { c with stopped := stopped }
  match (← get).aSduListener with
  | some listener => log (.dataTransferStateChanged listener stopped)
  | none => return

def sendSFormatPdu : Body Unit := do
  let aPdu := APdu.sFormat (← get).receiveSequenceNumber
  encode settings aPdu
  write aPdu
  flush
  modify fun c => { c with acknowledgedReceiveSequenceNumber := c.receiveSequenceNumber }
  resetMaxIdleTimeTimer

def sendSFormatIfUnconfirmedAPdu : Body Unit := do
  if 0 < (← get).numUnconfirmedIPdusReceived then
    sendSFormatPdu settings
    cancelIfPlanned .maxTimeNoAckSentTimer

def sendStopDtCon : Body Unit := do
  write (unnumbered .STOPDT_CON)
  flush
  modify fun c => { c with pending := false }

/-- `new StopDtOutstandingSFormatTimer(timeout)`, stored in the field. -/
def newStopDtTimer (timeout : Int) : Body Unit :=
  modify fun c =>
    { c with
      timeoutManager :=
        c.timeoutManager.set (.stopDtOutstandingSFormatTimer c.stopDtTimers) ⟨timeout, 0, false, false⟩
      stopDtOutstandingSFormatTimer := some c.stopDtTimers
      stopDtTimers := c.stopDtTimers + 1 }

def handleStopDtAct : Body Unit := do
  setStopped true
  modify fun c => { c with pending := true }
  if (← get).aSduListener.isSome then
    modify fun c => { c with aSduListenerBack := c.aSduListener, aSduListener := none }
  cancelIfPlanned .maxTimeNoAckSentTimer
  sendSFormatIfUnconfirmedAPdu settings
  let c ← get
  if 0 < c.getNumUnconfirmedAPdusSent && (c.timer .maxTimeNoAckReceived).isPlanned then
    newStopDtTimer ((c.timer .maxTimeNoAckReceived).sleepTimeFromDueTime c.currentTimeMillis)
    addTimerTask (.stopDtOutstandingSFormatTimer c.stopDtTimers)
  else
    sendStopDtCon

def handleStartDtAct : Body Unit := do
  write (unnumbered .STARTDT_CON)
  if (← get).aSduListener.isNone then
    modify fun c => { c with aSduListener := c.aSduListenerBack }
  setStopped false
  flush
  resetMaxIdleTimeTimer

/-- Digits in groups of three, the last digit first. -/
def groupDigits : List Char → List Char
  | a :: b :: c :: d :: digits => a :: b :: c :: ',' :: groupDigits (d :: digits)
  | digits => digits

/-- A number as `MessageFormat` writes it in the English locale. -/
def grouped (number : Nat) : String :=
  String.ofList (groupDigits (Nat.toDigits 10 number).reverse).reverse

example : grouped 12345 = "12,345" := by decide

def unexpectedSendSequenceNumber (c : Connection) (sendSeqNumber : Nat) : JavaException :=
  .iOException
    (s!"Got unexpected send sequence number: {grouped sendSeqNumber}, expected: " ++
      s!"{grouped c.receiveSequenceNumber}.")

def verifySeqNumber (sendSeqNumber : Nat) : Body Unit := do
  let c ← get
  if c.receiveSequenceNumber ≠ sendSeqNumber then
    throw (unexpectedSendSequenceNumber c sendSeqNumber)

def updateReceiveSeqNum (sendSeqNumber : Nat) : Body Unit := do
  verifySeqNumber sendSeqNumber
  modify fun c => { c with receiveSequenceNumber := (sendSeqNumber + 1) % 2 ^ 15 }
  if sendSeqNumber > (← get).receiveSequenceNumber then
    sendSFormatPdu settings

def unexpectedReceiveSequenceNumber (c : Connection) (receiveSeqNumber : Nat) : JavaException :=
  .iOException
    (s!"Got unexpected receive sequence number: {grouped receiveSeqNumber}, expected a number between: " ++
      s!"{grouped c.acknowledgedSendSequenceNumber} and {grouped c.sendSequenceNumber}.")

def maxNumberExceeded : JavaException := .iOException "Max number of outstanding IPdus is exceeded."

def handleReceiveSequenceNumber (receiveSeqNumber : Nat) : Body Unit := do
  let c ← get
  if c.acknowledgedSendSequenceNumber = receiveSeqNumber then return
  if sequenceNumberDiff receiveSeqNumber c.acknowledgedSendSequenceNumber >
      c.getNumUnconfirmedAPdusSent then
    throw (unexpectedReceiveSequenceNumber c receiveSeqNumber)
  cancelIfPlanned .maxTimeNoAckReceived
  modify fun c => { c with acknowledgedSendSequenceNumber := receiveSeqNumber }
  let c ← get
  if c.sendSequenceNumber ≠ c.acknowledgedSendSequenceNumber then
    if c.getNumUnconfirmedAPdusSent > settings.maxNumOfOutstandingIPdus then
      throw maxNumberExceeded
    else
      addTimerTask .maxTimeNoAckReceived
  notifyAll

/-- The ASDU is handed to `serialExecutor` if a listener is registered. -/
def handOver (aSdu : Option ASdu) : Body Unit := do
  let listener := (← get).aSduListener
  log (.accepted aSdu listener)
  match listener with
  | some listener => modify fun c => { c with serialExecutor := c.serialExecutor.execute ⟨aSdu, listener⟩ }
  | none => return

/-- The end of `handleIFrame`: acknowledge at once, or see that the t2 timer runs. -/
def acknowledgeReceived : Body Unit := do
  let c ← get
  if c.numUnconfirmedIPdusReceived ≥ settings.maxUnconfirmedIPdusReceived then
    sendSFormatPdu settings
    cancelIfPlanned .maxTimeNoAckSentTimer
  else if !(c.timer .maxTimeNoAckSentTimer).isPlanned || c.numUnconfirmedIPdusReceived = 1 then
    addTimerTask .maxTimeNoAckSentTimer

def handleIFrame (aPdu : APdu) : Body Unit := do
  updateReceiveSeqNum settings aPdu.sendSeqNum
  handleReceiveSequenceNumber settings aPdu.receiveSeqNum
  handOver aPdu.aSdu
  acknowledgeReceived settings

def close : Body Unit := do
  if (← get).closed then return
  modify fun c => { c with acknowledgedSendSequenceNumber := c.sendSequenceNumber }
  notifyAll
  modify fun c => { c with closed := true }

def notifyClosed (listener : Option Listener) (cause : Option JavaException) : Body Unit :=
  match listener with
  | some listener => log (.connectionClosed listener cause)
  | none => return

def ignoringIOException (body : Body Unit) : Body Unit :=
  tryCatch body fun e => if e.isIOException then return else throw e

def t1Exceeded : JavaException :=
  .iOException
    ("The maximum time that no confirmation was received (t1) has been exceeded. t1 = " ++
      s!"{settings.maxTimeNoAckReceived}ms")

/-- `execute` of each timer. -/
def execute : TimerId → Body Unit
  | .maxTimeNoTestConReceived | .maxTimeNoAckReceived => do
    close
    notifyClosed (← get).aSduListener (some (t1Exceeded settings))
  | .maxTimeNoAckSentTimer => ignoringIOException (sendSFormatPdu settings)
  | .maxIdleTimeTimer => do
    ignoringIOException do
      write (unnumbered .TESTFR_ACT)
      flush
    addTimerTask .maxTimeNoTestConReceived
  | .stopDtOutstandingSFormatTimer _ => do
    if (← get).stopped then return
    ignoringIOException sendStopDtCon

def setDone (id : TimerId) : Body Unit :=
  modify fun c =>
    { c with timeoutManager := c.timeoutManager.set id { c.timer id with done := true } }

def executeManually (id : TimerId) : Body Unit := do
  if ((← get).timer id).canceled then return
  tryCatch (execute settings id) fun e => do
    setDone id
    throw e
  setDone id

/-- The timers of an I frame that goes out: it acknowledges what was received, and waits
to be acknowledged. -/
def armTimers : Body Unit := do
  cancelIfPlanned .maxTimeNoAckSentTimer
  if !((← get).timer .maxTimeNoAckReceived).isPlanned then
    addTimerTask .maxTimeNoAckReceived

/-- The part of `send` behind the loop that waits for the window, up to the encoding. -/
def prepareSend (aSdu : ASdu) : Body APdu := do
  if (← get).closed then throw (.iOException "connection closed")
  if (← get).stopped then
    throw (.illegalArgumentException "May not send ASdu, data transfer is stopped.")
  modify fun c => { c with acknowledgedReceiveSequenceNumber := c.receiveSequenceNumber }
  let c ← get
  let requestAPdu := APdu.iFormat c.sendSequenceNumber c.receiveSequenceNumber aSdu
  let oldSendSequenceNumber := c.sendSequenceNumber
  modify fun c => { c with sendSequenceNumber := (c.sendSequenceNumber + 1) % 2 ^ 15 }
  if oldSendSequenceNumber > (← get).sendSequenceNumber then
    sendSFormatPdu settings
  armTimers
  return requestAPdu

def send (aSdu : ASdu) : Body Unit := do
  let requestAPdu ← prepareSend settings aSdu
  encode settings requestAPdu
  write requestAPdu
  flush
  resetMaxIdleTimeTimer

/-- The object a latch field holds is counted down. -/
def countDown (latch : Option Nat) : Body Unit :=
  match latch with
  | some latch => modify fun c => { c with countedDown := latch :: c.countedDown }
  | none => return

/-- The `switch` of the reader's loop. -/
def dispatch (aPdu : APdu) : Body Unit := do
  match aPdu.apciType with
  | .I_FORMAT =>
    closeIfStopped server .I_FORMAT
    handleIFrame settings aPdu
  | .S_FORMAT =>
    closeIfStopped server .S_FORMAT
    handleReceiveSequenceNumber settings aPdu.receiveSeqNum
    match (← get).stopDtOutstandingSFormatTimer with
    | some object => executeManually settings (.stopDtOutstandingSFormatTimer object)
    | none => pure ()
  | .STARTDT_CON => countDown (← get).startDtConSignal
  | .STARTDT_ACT => handleStartDtAct
  | .TESTFR_ACT => sendTestFrameCon
  | .TESTFR_CON => cancel .maxTimeNoTestConReceived
  | .STOPDT_CON => countDown (← get).stopDtConSignal
  | .STOPDT_ACT => handleStopDtAct settings

def handle (aPdu : APdu) : Body Unit := do
  dispatch settings server aPdu
  resetMaxIdleTimeTimer

/-- The exception of the loop as `closedIOException` keeps it. -/
def closingException : JavaException → JavaException
  | .eOFException _ => .eOFException (some "Connection was closed by remote.")
  | .iOException message => .iOException message
  | .interruptedIOException message => .interruptedIOException message
  | _ => .iOException "Unexpected Exception."

/-- The loop ends with an exception; the `finally` block is still to come. -/
def leaveLoop (e : JavaException) : Body Unit :=
  modify fun c => { c with reader := .leaving, closedIOException := some (closingException e) }

def readerTurn (aPdu : APdu) : Body Unit := tryCatch (handle settings server aPdu) leaveLoop

/-- The `finally` block of the reader. -/
def endReader : Body Unit := do
  close
  let c ← get
  notifyClosed c.aSduListener c.closedIOException
  if c.stopped then notifyClosed c.aSduListenerBack c.closedIOException
  modify fun c => { c with reader := .ended }

end Connection

end J60870
