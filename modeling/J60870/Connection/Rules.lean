import J60870.Connection.Step

/-! One rule for each small method: what has to hold before it, for `Q` to hold when it
returns and `E` when it throws. Proofs about the larger methods rewrite with them. -/

namespace J60870

open Lib Method

namespace Connection

variable {settings : ConnectionSettings} {server : Bool} {c : Connection}
variable {E : JavaException → Connection → Prop} {Q : Unit → Connection → Prop}

@[simp] theorem post_addTimerTask (id : TimerId) :
    Post (addTimerTask id) c Q E ↔
      Q () { c with timeoutManager := c.timeoutManager.addTimerTask c.currentTimeMillis id } :=
  Iff.rfl

@[simp] theorem post_cancel (id : TimerId) :
    Post (cancel id) c Q E ↔ Q () { c with timeoutManager := c.timeoutManager.cancel id } :=
  Iff.rfl

@[simps -fullyApplied] def cancelledIfPlanned (c : Connection) (id : TimerId) : Connection :=
  { c with
    timeoutManager :=
      if (c.timer id).isPlanned then c.timeoutManager.cancel id else c.timeoutManager }

@[simp] theorem post_cancelIfPlanned (id : TimerId) :
    Post (cancelIfPlanned id) c Q E ↔ Q () (c.cancelledIfPlanned id) := by
  cases planned : (c.timer id).isPlanned <;> simp [cancelIfPlanned, cancelledIfPlanned, planned]

@[simp] theorem cancelledIfPlanned_timer_other (id other : TimerId) (different : other ≠ id) :
    (c.cancelledIfPlanned id).timer other = c.timer other := by
  cases planned : (c.timeoutManager.task id).isPlanned <;>
    simp [timer, cancelledIfPlanned, planned, different]

@[simp] theorem cancelledIfPlanned_timeout (id other : TimerId) :
    ((c.cancelledIfPlanned id).timer other).timeout = (c.timer other).timeout := by
  cases planned : (c.timeoutManager.task id).isPlanned <;> simp [timer, cancelledIfPlanned, planned]

@[simp] theorem cancelledIfPlanned_isPlanned (id : TimerId) :
    ((c.cancelledIfPlanned id).timer id).isPlanned = false := by
  cases planned : (c.timeoutManager.task id).isPlanned <;> simp [timer, cancelledIfPlanned, planned]

@[simp] theorem post_log (event : Event) :
    Post (log event) c Q E ↔ Q () { c with events := c.events ++ [event] } :=
  Iff.rfl

@[simp] theorem post_write (frame : APdu) :
    Post (write frame) c Q E ↔
      (c.ioFails c.ioCalls = true → E ioFailure { c with ioCalls := c.ioCalls + 1 }) ∧
      (c.ioFails c.ioCalls = false →
        Q () { c with ioCalls := c.ioCalls + 1, written := c.written ++ [⟨frame, c.stopped⟩] }) := by
  simp [write, callOs]

@[simp] theorem post_flush :
    Post flush c Q E ↔
      (c.ioFails c.ioCalls = true ∨ c.closed = true →
        E ioFailure { c with ioCalls := c.ioCalls + 1 }) ∧
      (c.ioFails c.ioCalls = false ∧ c.closed = false →
        Q () { c with ioCalls := c.ioCalls + 1, flushed := c.written.length }) := by
  cases failing : c.ioFails c.ioCalls <;> cases closed : c.closed <;>
    simp [flush, callOs, failing, closed]

@[irreducible] def sFormatBuffer (buffer : Vector Octet 255) (receiveSeqNum : Nat) : Vector Octet 255 :=
  overwrite buffer 0 (APdu.frameWire ([0x01, 0x00] ++ APdu.seqNumOctets receiveSeqNum) [])

@[simp] theorem post_encode_sFormat (receiveSeqNum : Nat) :
    Post (encode settings (.sFormat receiveSeqNum)) c Q E ↔
      Q () { c with buffer := sFormatBuffer c.buffer receiveSeqNum } := by
  simp [encode, sFormatBuffer, APdu.encode_sFormat settings receiveSeqNum c.buffer (by decide)]

/-- The idle timer is started anew. -/
@[simps -fullyApplied] def idleTimeReset (c : Connection) : Connection :=
  { c with
    timeoutManager := (c.timeoutManager.cancel .maxIdleTimeTimer).addTimerTask
      c.currentTimeMillis .maxIdleTimeTimer }

@[simp] theorem idleTimeReset_timer_other (id : TimerId) (different : id ≠ .maxIdleTimeTimer) :
    c.idleTimeReset.timer id = c.timer id := by
  simp [timer, different]

/-- Encoding changes the buffer only. -/
theorem keeps_encode {β : Type} {f : Connection → β}
    (same : ∀ c buffer, f { c with buffer := buffer } = f c) (aPdu : APdu) :
    Keeps f (encode settings aPdu) := by
  intro c
  cases encoded : aPdu.encode settings c.buffer <;> simp [encode, encoded, same]

@[simp] theorem post_resetMaxIdleTimeTimer :
    Post resetMaxIdleTimeTimer c Q E ↔ Q () c.idleTimeReset :=
  Iff.rfl

@[simp] theorem post_setStopped (stopped : Bool) :
    Post (setStopped stopped) c Q E ↔
      Q () { c with
        stopped := stopped
        events := c.events ++
          (c.aSduListener.map fun listener => .dataTransferStateChanged listener stopped).toList } := by
  cases registered : c.aSduListener <;> simp [setStopped, registered]

@[simp] theorem post_closeIfStopped (apciType : ApciType) :
    Post (closeIfStopped server apciType) c Q E ↔
      ((server && c.stopped && !c.pending) = true →
        E (.iOException s!"Got {apciType.name} message while STOPDT state.") c) ∧
      ((server && c.stopped && !c.pending) = false → Q () c) := by
  simp [closeIfStopped]

@[simp] theorem post_handOver (aSdu : Option ASdu) :
    Post (handOver aSdu) c Q E ↔
      Q () { c with
        events := c.events ++ [.accepted aSdu c.aSduListener]
        serialExecutor :=
          match c.aSduListener with
          | some listener => c.serialExecutor.execute ⟨aSdu, listener⟩
          | none => c.serialExecutor } := by
  cases registered : c.aSduListener <;> simp [handOver, registered]

@[simp] theorem post_notifyAll :
    Post notifyAll c Q E ↔ Q () { c with notifications := c.notifications + 1 } :=
  Iff.rfl

@[simp] theorem post_close :
    Post close c Q E ↔
      (c.closed = true → Q () c) ∧
      (c.closed = false →
        Q () { c with
          acknowledgedSendSequenceNumber := c.sendSequenceNumber
          notifications := c.notifications + 1
          closed := true }) := by
  simp [close]

@[simp] theorem post_notifyClosed (listener : Option Listener) (cause : Option JavaException) :
    Post (notifyClosed listener cause) c Q E ↔
      Q () { c with
        events := c.events ++
          (listener.map fun listener => .connectionClosed listener cause).toList } := by
  cases listener <;> simp [notifyClosed]

@[simp] theorem post_countDown (latch : Option Nat) :
    Post (countDown latch) c Q E ↔
      Q () { c with countedDown := latch.toList ++ c.countedDown } := by
  cases latch <;> simp [countDown]

@[simp] theorem post_ignoringIOException (body : Body Unit) :
    Post (ignoringIOException body) c Q E ↔
      Post body c Q (fun e d =>
        (e.isIOException = true → Q () d) ∧ (e.isIOException = false → E e d)) := by
  simp [ignoringIOException]

@[simp] theorem post_setDone (id : TimerId) :
    Post (setDone id) c Q E ↔
      Q () { c with
        timeoutManager := c.timeoutManager.set id { c.timer id with done := true } } :=
  Iff.rfl

@[simp] theorem post_newStopDtTimer (timeout : Int) :
    Post (newStopDtTimer timeout) c Q E ↔
      Q () { c with
        timeoutManager := c.timeoutManager.set
          (.stopDtOutstandingSFormatTimer c.stopDtTimers) ⟨timeout, 0, false, false⟩
        stopDtOutstandingSFormatTimer := some c.stopDtTimers
        stopDtTimers := c.stopDtTimers + 1 } :=
  Iff.rfl

@[simps -fullyApplied] def left (c : Connection) (e : JavaException) : Connection :=
  { c with reader := .leaving, closedIOException := some (closingException e) }

@[simp] theorem post_leaveLoop (e : JavaException) : Post (leaveLoop e) c Q E ↔ Q () (c.left e) :=
  Iff.rfl

theorem post_readerTurn (aPdu : APdu) :
    Post (readerTurn settings server aPdu) c Q E ↔
      Post (dispatch settings server aPdu) c (fun _ d => Q () d.idleTimeReset)
        (fun e d => Q () (d.left e)) := by
  simp [readerTurn, handle]

@[simp] theorem post_setCall (thread : Nat) (call : Call) :
    Post (setCall thread call) c Q E ↔
      Q () { c with calls := Function.update c.calls thread call } :=
  Iff.rfl

@[simp] theorem ioFailure_isIOException : ioFailure.isIOException = true := rfl

/-- `os.write` has failed on an S frame. -/
@[simps -fullyApplied] def sFormatUnwritten (c : Connection) : Connection :=
  { c with
    buffer := sFormatBuffer c.buffer c.receiveSequenceNumber
    ioCalls := c.ioCalls + 1 }

/-- `os.flush` has failed on an S frame. -/
@[simps -fullyApplied] def sFormatUnflushed (c : Connection) : Connection :=
  { c.sFormatUnwritten with
    ioCalls := c.ioCalls + 2
    written := c.written ++ [⟨.sFormat c.receiveSequenceNumber, c.stopped⟩] }

@[simp] theorem sFormatUnwritten_timer : c.sFormatUnwritten.timer = c.timer := rfl

@[simp] theorem sFormatUnflushed_timer : c.sFormatUnflushed.timer = c.timer := rfl

/-- An S frame is out, and acknowledges what was received. -/
@[simps! -fullyApplied] def sFormatSent (c : Connection) : Connection :=
  { c.sFormatUnflushed.idleTimeReset with
    flushed := c.sFormatUnflushed.written.length
    acknowledgedReceiveSequenceNumber := c.receiveSequenceNumber }

@[simp] theorem sFormatSent_timer_other (id : TimerId) (different : id ≠ .maxIdleTimeTimer) :
    c.sFormatSent.timer id = c.timer id := by
  simp [timer, different]

@[simp] theorem post_sendSFormatPdu :
    Post (sendSFormatPdu settings) c Q E ↔
      (c.ioFails c.ioCalls = true → E ioFailure c.sFormatUnwritten) ∧
      (c.ioFails c.ioCalls = false →
        (c.ioFails (c.ioCalls + 1) = true ∨ c.closed = true → E ioFailure c.sFormatUnflushed) ∧
        (c.ioFails (c.ioCalls + 1) = false ∧ c.closed = false → Q () c.sFormatSent)) := by
  simp only [sendSFormatPdu, post_bind, post_get, post_encode_sFormat, post_write, post_flush,
    post_modify, post_resetMaxIdleTimeTimer]
  rfl

/-- The numbers of the next I frame are taken. -/
@[simps -fullyApplied] def numbered (c : Connection) : Connection :=
  { c with
    acknowledgedReceiveSequenceNumber := c.receiveSequenceNumber
    sendSequenceNumber := (c.sendSequenceNumber + 1) % 2 ^ 15 }

@[simp] theorem numbered_timer : c.numbered.timer = c.timer := rfl

@[simps -fullyApplied] def armed (c : Connection) : Connection :=
  let cancelled := c.cancelledIfPlanned .maxTimeNoAckSentTimer
  { c with
    timeoutManager :=
      if (cancelled.timer .maxTimeNoAckReceived).isPlanned then cancelled.timeoutManager
      else cancelled.timeoutManager.addTimerTask c.currentTimeMillis .maxTimeNoAckReceived }

@[simp] theorem armed_timeout (id : TimerId) :
    (c.armed.timer id).timeout = (c.timer id).timeout := by
  calc (c.armed.timer id).timeout
      = ((c.cancelledIfPlanned .maxTimeNoAckSentTimer).timer id).timeout := by
        rw [timer, armed_timeoutManager]
        split
        · rfl
        · rw [TimeoutManager.addTimerTask_timeout, timer]
    _ = (c.timer id).timeout := cancelledIfPlanned_timeout ..

@[simp] theorem armed_timer_other (id : TimerId) (t1 : id ≠ .maxTimeNoAckReceived)
    (t2 : id ≠ .maxTimeNoAckSentTimer) : c.armed.timer id = c.timer id := by
  calc c.armed.timer id
      = (c.cancelledIfPlanned .maxTimeNoAckSentTimer).timer id := by
        rw [timer, armed_timeoutManager]
        split
        · rfl
        · rw [TimeoutManager.addTimerTask_other _ _ _ _ t1, timer]
    _ = c.timer id := cancelledIfPlanned_timer_other _ _ t2

@[simp] theorem post_armTimers : Post armTimers c Q E ↔ Q () c.armed := by
  simp only [armTimers, post_bind, post_cancelIfPlanned, post_get, post_ite, post_addTimerTask,
    post_pure, armed]
  cases ((c.cancelledIfPlanned .maxTimeNoAckSentTimer).timer .maxTimeNoAckReceived).isPlanned <;>
    simp [cancelledIfPlanned]

theorem post_prepareSend {Q : APdu → Connection → Prop} (aSdu : ASdu) :
    Post (prepareSend settings aSdu) c Q E ↔
      (c.closed = true → E (.iOException "connection closed") c) ∧
      (c.closed = false →
        (c.stopped = true →
          E (.illegalArgumentException "May not send ASdu, data transfer is stopped.") c) ∧
        (c.stopped = false →
          (c.numbered.sendSequenceNumber < c.sendSequenceNumber →
            Post (sendSFormatPdu settings) c.numbered
              (fun _ d => Q (.iFormat c.sendSequenceNumber c.receiveSequenceNumber aSdu) d.armed) E) ∧
          (c.sendSequenceNumber ≤ c.numbered.sendSequenceNumber →
            Q (.iFormat c.sendSequenceNumber c.receiveSequenceNumber aSdu) c.numbered.armed))) := by
  simp only [prepareSend, post_bind, post_get, post_ite, post_throw, post_modify, post_pure,
    post_armTimers, Bool.not_eq_true, gt_iff_lt, not_lt]
  rfl

/-- An I frame is counted. -/
@[simps -fullyApplied] def received (c : Connection) : Connection :=
  { c with receiveSequenceNumber := (c.receiveSequenceNumber + 1) % 2 ^ 15 }

@[simp] theorem received_timer : c.received.timer = c.timer := rfl

theorem post_updateReceiveSeqNum (sendSeqNumber : Nat) :
    Post (updateReceiveSeqNum settings sendSeqNumber) c Q E ↔
      (c.receiveSequenceNumber ≠ sendSeqNumber → E (unexpectedSendSequenceNumber c sendSeqNumber) c) ∧
      (c.receiveSequenceNumber = sendSeqNumber →
        (c.received.receiveSequenceNumber < c.receiveSequenceNumber →
          Post (sendSFormatPdu settings) c.received Q E) ∧
        (c.receiveSequenceNumber ≤ c.received.receiveSequenceNumber → Q () c.received)) := by
  by_cases expected : c.receiveSequenceNumber = sendSeqNumber
  · subst expected
    simp only [updateReceiveSeqNum, verifySeqNumber, post_bind, post_get, post_ite, post_throw,
      post_modify, post_pure, gt_iff_lt, not_lt]
    simp [received, -post_sendSFormatPdu]
  · simp [updateReceiveSeqNum, verifySeqNumber, expected]

/-- The t2 timer is started if it has to be. -/
@[simps -fullyApplied] def acknowledgementPlanned (c : Connection) : Connection :=
  { c with
    timeoutManager :=
      if (c.timer .maxTimeNoAckSentTimer).isPlanned ∧ c.numUnconfirmedIPdusReceived ≠ 1 then
        c.timeoutManager
      else c.timeoutManager.addTimerTask c.currentTimeMillis .maxTimeNoAckSentTimer }

@[simp] theorem acknowledgementPlanned_timer_other (id : TimerId) (different : id ≠ .maxTimeNoAckSentTimer) :
    c.acknowledgementPlanned.timer id = c.timer id := by
  rw [timer, acknowledgementPlanned_timeoutManager]
  split
  · rfl
  · rw [TimeoutManager.addTimerTask_other _ _ _ _ different, timer]

theorem post_acknowledgeReceived :
    Post (acknowledgeReceived settings) c Q E ↔
      (settings.maxUnconfirmedIPdusReceived ≤ c.numUnconfirmedIPdusReceived →
        Post (sendSFormatPdu settings) c
          (fun _ d => Q () (d.cancelledIfPlanned .maxTimeNoAckSentTimer)) E) ∧
      (c.numUnconfirmedIPdusReceived < settings.maxUnconfirmedIPdusReceived →
        Q () c.acknowledgementPlanned) := by
  simp only [acknowledgeReceived, post_bind, post_get, post_ite, post_cancelIfPlanned,
    post_addTimerTask, post_pure, ge_iff_le, not_le, acknowledgementPlanned]
  by_cases one : c.numUnconfirmedIPdusReceived = 1
  · simp [one, -post_sendSFormatPdu]
  · cases (c.timer .maxTimeNoAckSentTimer).isPlanned <;> simp [one, -post_sendSFormatPdu]

theorem post_sendSFormatIfUnconfirmedAPdu :
    Post (sendSFormatIfUnconfirmedAPdu settings) c Q E ↔
      (0 < c.numUnconfirmedIPdusReceived →
        Post (sendSFormatPdu settings) c
          (fun _ d => Q () (d.cancelledIfPlanned .maxTimeNoAckSentTimer)) E) ∧
      (c.numUnconfirmedIPdusReceived = 0 → Q () c) := by
  simp [sendSFormatIfUnconfirmedAPdu, -post_sendSFormatPdu]

/-- A frame is handed to `os`, and `os` is told to flush. -/
@[simps -fullyApplied] def sent (c : Connection) (frame : APdu) : Connection :=
  { c with ioCalls := c.ioCalls + 2, written := c.written ++ [⟨frame, c.stopped⟩] }

theorem post_sendStopDtCon :
    Post sendStopDtCon c Q E ↔
      (c.ioFails c.ioCalls = true → E ioFailure { c with ioCalls := c.ioCalls + 1 }) ∧
      (c.ioFails c.ioCalls = false →
        (c.ioFails (c.ioCalls + 1) = true ∨ c.closed = true →
          E ioFailure (c.sent (unnumbered .STOPDT_CON))) ∧
        (c.ioFails (c.ioCalls + 1) = false ∧ c.closed = false →
          Q () { c.sent (unnumbered .STOPDT_CON) with
            pending := false
            flushed := (c.sent (unnumbered .STOPDT_CON)).written.length })) := by
  simp only [sendStopDtCon, post_bind, post_write, post_flush, post_modify]
  rfl

/-- The first statements of `handleStopDtAct`. -/
@[simps! -fullyApplied] def stopRequested (c : Connection) : Connection :=
  { c.cancelledIfPlanned .maxTimeNoAckSentTimer with
    stopped := true
    pending := true
    events := c.events ++
      (c.aSduListener.map fun listener => .dataTransferStateChanged listener true).toList
    aSduListenerBack := if c.aSduListener.isSome then c.aSduListener else c.aSduListenerBack
    aSduListener := none }

/-- The confirmation of the stop is left to a timer. -/
@[simps -fullyApplied] def stopDeferred (c : Connection) : Connection :=
  { c with
    timeoutManager :=
      (c.timeoutManager.set (.stopDtOutstandingSFormatTimer c.stopDtTimers)
        ⟨(c.timer .maxTimeNoAckReceived).sleepTimeFromDueTime c.currentTimeMillis, 0, false, false⟩
        ).addTimerTask c.currentTimeMillis (.stopDtOutstandingSFormatTimer c.stopDtTimers)
    stopDtOutstandingSFormatTimer := some c.stopDtTimers
    stopDtTimers := c.stopDtTimers + 1 }

@[simp] theorem stopRequested_timer :
    c.stopRequested.timer = (c.cancelledIfPlanned .maxTimeNoAckSentTimer).timer :=
  rfl

@[simp] theorem stopDeferred_timer_other (id : TimerId)
    (different : id ≠ .stopDtOutstandingSFormatTimer c.stopDtTimers) :
    c.stopDeferred.timer id = c.timer id := by
  simp [timer, different]

theorem post_handleStopDtAct :
    Post (handleStopDtAct settings) c Q E ↔
      Post (sendSFormatIfUnconfirmedAPdu settings) c.stopRequested
        (fun _ d =>
          (0 < d.getNumUnconfirmedAPdusSent ∧ (d.timer .maxTimeNoAckReceived).isPlanned = true →
            Q () d.stopDeferred) ∧
          (d.getNumUnconfirmedAPdusSent = 0 ∨ (d.timer .maxTimeNoAckReceived).isPlanned = false →
            Post sendStopDtCon d Q E)) E := by
  have deferring (d : Connection) :
      (((decide (0 < d.getNumUnconfirmedAPdusSent) && (d.timer .maxTimeNoAckReceived).isPlanned) = true →
        Q () d.stopDeferred) ∧
      ((decide (0 < d.getNumUnconfirmedAPdusSent) && (d.timer .maxTimeNoAckReceived).isPlanned) = false →
        Post sendStopDtCon d Q E)) ↔
      (0 < d.getNumUnconfirmedAPdusSent ∧ (d.timer .maxTimeNoAckReceived).isPlanned = true →
        Q () d.stopDeferred) ∧
      (d.getNumUnconfirmedAPdusSent = 0 ∨ (d.timer .maxTimeNoAckReceived).isPlanned = false →
        Post sendStopDtCon d Q E) := by
    simp [Nat.pos_iff_ne_zero, ← Bool.not_eq_true, imp_iff_not_or, or_comm]
  cases registered : c.aSduListener <;>
    simp only [handleStopDtAct, post_bind, post_setStopped, post_modify, post_get, post_ite,
      post_cancelIfPlanned, post_newStopDtTimer, post_addTimerTask, Bool.not_eq_true, ← deferring,
      stopRequested, registered, Option.isSome_none, Option.isSome_some, Bool.false_eq_true,
      Bool.true_eq_false, if_true, if_false, false_implies, true_implies, true_and, and_true] <;>
    rfl

/-- What the parts of `handleStopDtAct` keep stays as the request has left it. -/
theorem handleStopDtAct_of_keeps {β : Type} {f : Connection → β} {b : β}
    (requested : f c.stopRequested = b) (confirm : Keeps f (sendSFormatIfUnconfirmedAPdu settings))
    (deferred : ∀ d, f d.stopDeferred = f d) (con : Keeps f sendStopDtCon) :
    Post (handleStopDtAct settings) c (fun _ d => f d = b) (fun _ d => f d = b) := by
  rw [post_handleStopDtAct]
  apply (confirm c.stopRequested).mono
  · intro _ d confirmed
    have same : f d = b := confirmed.trans requested
    exact ⟨fun _ => (deferred d).trans same,
      fun _ => (con d).mono (fun _ _ kept => kept.trans same) fun _ _ kept => kept.trans same⟩
  · exact fun _ _ confirmed => confirmed.trans requested

/-- A start is confirmed, and the listener is back, up to the flushing. -/
@[simps -fullyApplied] def startConfirmed (c : Connection) : Connection :=
  { c with
    ioCalls := c.ioCalls + 2
    written := c.written ++ [⟨unnumbered .STARTDT_CON, c.stopped⟩]
    stopped := false
    aSduListener := c.aSduListener.or c.aSduListenerBack
    events := c.events ++ ((c.aSduListener.or c.aSduListenerBack).map fun listener =>
      .dataTransferStateChanged listener false).toList }

theorem post_handleStartDtAct :
    Post handleStartDtAct c Q E ↔
      (c.ioFails c.ioCalls = true → E ioFailure { c with ioCalls := c.ioCalls + 1 }) ∧
      (c.ioFails c.ioCalls = false →
        (c.ioFails (c.ioCalls + 1) = true ∨ c.closed = true → E ioFailure c.startConfirmed) ∧
        (c.ioFails (c.ioCalls + 1) = false ∧ c.closed = false →
          Q () { c.startConfirmed with flushed := c.startConfirmed.written.length }.idleTimeReset)) := by
  cases registered : c.aSduListener <;> simp [handleStartDtAct, startConfirmed, registered]

theorem post_executeManually (id : TimerId) :
    Post (executeManually settings id) c Q E ↔
      ((c.timer id).canceled = true → Q () c) ∧
      ((c.timer id).canceled = false →
        Post (execute settings id) c (fun _ d => Post (setDone id) d Q E)
          (fun e d => Post (setDone id) d (fun _ => E e) E)) := by
  simp [executeManually]

theorem post_execute_close {id : TimerId}
    (closes : id = .maxTimeNoTestConReceived ∨ id = .maxTimeNoAckReceived) :
    Post (execute settings id) c Q E ↔
      Post close c (fun _ d => Q () { d with
        events := d.events ++ (d.aSduListener.map fun listener =>
          .connectionClosed listener (some (t1Exceeded settings))).toList }) E := by
  rcases closes with rfl | rfl <;> simp [execute]

@[simps -fullyApplied] def dequeued (c : Connection) (id : TimerId) : Connection :=
  { c with timeoutManager := { c.timeoutManager with queue := c.timeoutManager.queue.erase id } }

@[simp] theorem post_fire (id : TimerId) :
    Post (fire settings id) c Q E ↔ Post (executeManually settings id) (c.dequeued id) Q E := by
  simp [fire, dequeued]

/-- The reader is over, and the listeners know. -/
@[simps -fullyApplied] def ended (c : Connection) : Connection :=
  { c with
    reader := .ended
    events := c.events ++
      (c.aSduListener.map fun listener => .connectionClosed listener c.closedIOException).toList ++
      if c.stopped then
        (c.aSduListenerBack.map fun listener => .connectionClosed listener c.closedIOException).toList
      else [] }

theorem post_endReader : Post endReader c Q E ↔ Post close c (fun _ d => Q () d.ended) E := by
  have told (d : Connection) : Post (do
      notifyClosed d.aSduListener d.closedIOException
      if d.stopped then notifyClosed d.aSduListenerBack d.closedIOException
      modify fun c => { c with reader := .ended }) d Q E ↔ Q () d.ended := by
    cases stopped : d.stopped <;> simp [ended, stopped]
  simp only [endReader, post_bind, post_get, ← told]

@[simp] theorem post_runTask (task : Task) :
    Post (runTask settings task) c Q E ↔
      Q () { c with
        events := c.events ++ [match c.aSduListener with
          | some listener => .newASdu listener task.aSdu
          | none => .taskDied task.aSdu]
        serialExecutor := c.serialExecutor.scheduleNext
        taskRejected := !poolRuns settings c } := by
  cases registered : c.aSduListener <;> simp [runTask, poolRuns, registered]

/-- What has to be shown of each kind of frame the reader takes. -/
structure Dispatches (settings : ConnectionSettings) (aPdu : APdu) (c : Connection)
    (Q : Unit → Connection → Prop) (E : JavaException → Connection → Prop) : Prop where
  refused : ∀ e, E e c
  handleIFrame : aPdu.apciType = .I_FORMAT → Post (handleIFrame settings aPdu) c Q E
  handleSFormat : aPdu.apciType = .S_FORMAT →
    Post (handleReceiveSequenceNumber settings aPdu.receiveSeqNum) c
      (fun _ d => (d.stopDtOutstandingSFormatTimer = none → Q () d) ∧
        ∀ object, d.stopDtOutstandingSFormatTimer = some object →
          Post (executeManually settings (.stopDtOutstandingSFormatTimer object)) d Q E) E
  handleStartDtAct : aPdu.apciType = .STARTDT_ACT → Post handleStartDtAct c Q E
  handleStopDtAct : aPdu.apciType = .STOPDT_ACT → Post (handleStopDtAct settings) c Q E
  sendTestFrameCon : Post sendTestFrameCon c Q E
  cancelTestCon : aPdu.apciType = .TESTFR_CON →
    Q () { c with timeoutManager := c.timeoutManager.cancel .maxTimeNoTestConReceived }
  countDown : ∀ latches, Q () { c with countedDown := latches ++ c.countedDown }

/-- The kinds of frames are all there is to the switch. -/
theorem Dispatches.post {aPdu : APdu} (kinds : Dispatches settings aPdu c Q E) :
    Post (dispatch settings server aPdu) c Q E := by
  cases format : aPdu.apciType <;> simp only [dispatch, format]
  case I_FORMAT =>
    rw [post_bind, post_closeIfStopped]
    exact ⟨fun _ => kinds.refused _, fun _ => kinds.handleIFrame format⟩
  case S_FORMAT =>
    rw [post_bind, post_closeIfStopped]
    refine ⟨fun _ => kinds.refused _, fun _ => ?_⟩
    refine Post.seq (kinds.handleSFormat format) fun _ d acknowledged => ?_
    rw [post_bind, post_get]
    cases field : d.stopDtOutstandingSFormatTimer with
    | none => exact acknowledged.1 field
    | some object => exact acknowledged.2 object field
  case STARTDT_ACT => exact kinds.handleStartDtAct format
  case STOPDT_ACT => exact kinds.handleStopDtAct format
  case TESTFR_ACT => exact kinds.sendTestFrameCon
  case TESTFR_CON => exact kinds.cancelTestCon format
  case STARTDT_CON =>
    rw [post_bind, post_get, post_countDown]
    exact kinds.countDown _
  case STOPDT_CON =>
    rw [post_bind, post_get, post_countDown]
    exact kinds.countDown _

/-- Whether it returns or throws, the method leaves `I` true. -/
abbrev Always (I : Connection → Prop) (c : Connection) (method : Body Unit) : Prop :=
  Post method c (fun _ => I) (fun _ => I)

/-- What has to be shown of `I` to keep it in every step that meets the condition
`good`: one obligation for each thing the system does. -/
structure Preserves (settings : ConnectionSettings) (server : Bool)
    (good : Connection → Action → Prop) (I : Connection → Prop) : Prop where
  progress : ∀ c calls, I c → I { c with calls := calls }
  callEnds : ∀ c event, I c → event.endsCall = true → I { c with events := c.events ++ [event] }
  tick : ∀ c milliseconds, I c → I { c with currentTimeMillis := c.currentTimeMillis + milliseconds }
  send : ∀ c aSdu, I c → good c (.send aSdu) →
    c.getNumUnconfirmedAPdusSent < settings.maxNumOfOutstandingIPdus →
    Always I c (send settings aSdu)
  receive : ∀ c aPdu, I c → good c (.receive aPdu) → c.reader = .running →
    Post (dispatch settings server aPdu.toAPdu) c (fun _ d => I d.idleTimeReset)
      (fun e d => I (d.left e))
  readFailure : ∀ c e, I c → c.reader = .running → I (c.left e)
  endReader : ∀ c, I c → good c .endReader → c.reader = .leaving → Always I c endReader
  fire : ∀ c id, I c → good c (.fire id) → Always I c (fire settings id)
  runTask : ∀ c task, I c → good c .runTask → c.serialExecutor.active = some task →
    Always I c (runTask settings task)
  setConnectionListener : ∀ c listener, I c → good c (.setConnectionListener listener) →
    I { c with aSduListener := listener }
  close : ∀ c, I c → Always I c close
  writeStartDtAct : ∀ c, I c → Always I c writeStartDtAct
  register : ∀ c thread listener, I c → good c (.proceed thread) →
    c.calls thread = .startRegistering listener → Always I c (register listener)
  beginStop : ∀ c thread, I c → good c (.stopDataTransfer thread) → Always I c beginStop
  confirm : ∀ c thread, I c → good c (.proceed thread) → c.calls thread = .stopBegun →
    Always I c (sendSFormatIfUnconfirmedAPdu settings)
  cancelT2 : ∀ c thread, I c → good c (.proceed thread) → c.calls thread = .stopConfirmed →
    Always I c (cancelIfPlanned .maxTimeNoAckSentTimer)
  writeStopDtAct : ∀ c, I c → Always I c writeStopDtAct
  finishStop : ∀ c thread, I c → good c (.proceed thread) → c.calls thread = .stopFinishing →
    I { c with pending := false }

namespace Preserves

variable {good : Connection → Action → Prop} {I : Connection → Prop}

theorem part (kept : Preserves settings server good I) {thread : Nat} {call : Call}
    {method : Body Unit} (always : Always I c method) : Always I c (part thread call method) := by
  simp only [Connection.part, Always, post_tryCatch, post_bind, post_setCall, post_log]
  refine Post.mono always (fun _ d holds => kept.progress d _ holds) fun e d holds => ?_
  have ended : I { d with calls := Function.update d.calls thread .idle } := kept.progress d _ holds
  exact kept.callEnds _ (.threw thread e) ended rfl

theorem lastPart (kept : Preserves settings server good I) {thread : Nat} {method : Body Unit}
    (always : Always I c method) : Always I c (lastPart thread method) := by
  simp only [Connection.lastPart, Always, post_bind, post_setCall, post_log]
  refine Post.mono always (fun _ d holds => ?_) fun _ _ holds => holds
  have ended : I { d with calls := Function.update d.calls thread .idle } := kept.progress d _ holds
  exact kept.callEnds _ (.returned thread) ended rfl

private theorem proceed (kept : Preserves settings server good I) {thread : Nat} {method : Body Unit}
    (holds : I c) (meets : good c (.proceed thread)) (found : proceed settings c thread = some method) :
    Always I c method := by
  cases call : c.calls thread <;> simp only [Connection.proceed, call] at found
  case idle => cases found
  case startWritten listener =>
    obtain ⟨latch, _, rfl⟩ := Option.map_eq_some_iff.mp found
    exact kept.progress c _ holds
  case startAwaiting listener latch =>
    split at found
    · cases found
      exact kept.progress c _ holds
    · cases found
  case startRegistering listener =>
    cases found
    exact kept.lastPart (kept.register c thread listener holds meets call)
  case stopBegun =>
    cases found
    exact kept.part (kept.confirm c thread holds meets call)
  case stopConfirmed =>
    cases found
    exact kept.part (kept.cancelT2 c thread holds meets call)
  case stopCancelled =>
    cases found
    exact kept.part (kept.writeStopDtAct c holds)
  case stopWritten =>
    obtain ⟨latch, _, rfl⟩ := Option.map_eq_some_iff.mp found
    exact kept.progress c _ holds
  case stopAwaiting latch =>
    split at found
    · cases found
      exact kept.progress c _ holds
    · cases found
  case stopFinishing =>
    cases found
    exact kept.lastPart (kept.finishStop c thread holds meets call)

private theorem waiting (kept : Preserves settings server good I) {thread : Nat} {method : Body Unit}
    (holds : I c) (found : timeOut c thread = some method ∨ interrupt c thread = some method) :
    Always I c method := by
  rcases found with found | found
  · have thrown : Always I c (throw requestTimedOut) := holds
    cases call : c.calls thread <;> simp only [timeOut, call] at found <;> cases found <;>
      exact kept.part thrown
  · cases call : c.calls thread <;> simp only [interrupt, call] at found <;> cases found <;>
      exact kept.progress c _ holds

/-- The obligations are all there is to a step. -/
theorem step (kept : Preserves settings server good I) {action : Action} {d : Connection}
    (holds : I c) (meets : good c action) (taken : Step settings server c action d) : I d := by
  obtain ⟨method, found, rfl⟩ := step_eq_some taken
  refine Post.outcome (P := I) ?_
  cases action with
  | send aSdu =>
    obtain ⟨window, ⟨⟩⟩ := Option.ite_none_right_eq_some.mp found
    exact kept.send c aSdu holds meets window
  | receive aPdu =>
    obtain ⟨running, ⟨⟩⟩ := Option.ite_none_right_eq_some.mp found
    exact post_readerTurn aPdu.toAPdu |>.mpr (kept.receive c aPdu holds meets running)
  | readFailure e =>
    obtain ⟨running, ⟨⟩⟩ := Option.ite_none_right_eq_some.mp found
    exact kept.readFailure c e holds running
  | endReader =>
    obtain ⟨leaving, ⟨⟩⟩ := Option.ite_none_right_eq_some.mp found
    exact kept.endReader c holds meets leaving
  | fire id =>
    obtain ⟨_, ⟨⟩⟩ := Option.ite_none_right_eq_some.mp found
    exact kept.fire c id holds meets
  | tick milliseconds =>
    cases found
    exact kept.tick c _ holds
  | runTask =>
    obtain ⟨_, given⟩ := Option.ite_none_left_eq_some.mp found
    obtain ⟨task, first, rfl⟩ := Option.map_eq_some_iff.mp given
    exact kept.runTask c task holds meets first
  | setConnectionListener listener =>
    cases found
    exact kept.setConnectionListener c listener holds meets
  | close =>
    cases found
    exact kept.close c holds
  | startDataTransfer thread listener =>
    obtain ⟨_, ⟨⟩⟩ := Option.ite_none_right_eq_some.mp found
    exact kept.part (kept.writeStartDtAct c holds)
  | stopDataTransfer thread =>
    obtain ⟨_, ⟨⟩⟩ := Option.ite_none_right_eq_some.mp found
    exact kept.part (kept.beginStop c thread holds meets)
  | proceed thread => exact kept.proceed holds meets found
  | timeOut thread => exact kept.waiting holds (.inl found)
  | interrupt thread => exact kept.waiting holds (.inr found)

/-- In every run whose steps all meet the condition, `I` holds in every state
reached. -/
theorem run (kept : Preserves settings server good I) {actions : List Action} {d : Connection}
    (run : Run (Run.Guarded good (Step settings server)) c actions d) (start : I c) : I d :=
  run.invariant start fun _ _ _ holds taken => kept.step holds taken.1 taken.2

end Preserves

end Connection

end J60870
