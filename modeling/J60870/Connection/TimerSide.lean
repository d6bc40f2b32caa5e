import J60870.Connection.Phases
import J60870.Connection.Supervision

namespace J60870

open Lib Method

namespace Connection

variable {settings : ConnectionSettings} {server : Bool} {c d : Connection}

/-- The timers and their queue, the clock, the numbers of the sending side, and whether it is all over. -/
def timerSide (c : Connection) : TimeoutManager TimerId × Nat × (Nat × Nat) × Bool :=
  (c.timeoutManager, c.currentTimeMillis, (c.sendSequenceNumber, c.acknowledgedSendSequenceNumber), c.closed)

def plans (c : Connection) (id : TimerId) : Connection :=
  { c with timeoutManager := c.timeoutManager.addTimerTask c.currentTimeMillis id }

def cancels (c : Connection) (id : TimerId) : Connection :=
  { c with timeoutManager := c.timeoutManager.cancel id }

def finishes (c : Connection) (id : TimerId) : Connection :=
  { c with timeoutManager := c.timeoutManager.set id { c.timer id with done := true } }

/-- A timer object that confirms a stop later is new. -/
def creates (c : Connection) (object : Nat) (timeout : Int) : Connection :=
  { c with
    timeoutManager := c.timeoutManager.set (.stopDtOutstandingSFormatTimer object) ⟨timeout, 0, false, false⟩ }

section Fields

variable {id other : TimerId}

@[simp] theorem plans_timer_self :
    (c.plans id).timer id = (c.timer id).updateDueTime c.currentTimeMillis :=
  TimeoutManager.addTimerTask_self ..

@[simp] theorem plans_timer_other (different : other ≠ id) : (c.plans id).timer other = c.timer other :=
  TimeoutManager.addTimerTask_other _ _ _ _ different

@[simp] theorem cancels_timer_self : (c.cancels id).timer id = (c.timer id).cancel :=
  TimeoutManager.cancel_self _ _

@[simp] theorem cancels_timer_other (different : other ≠ id) : (c.cancels id).timer other = c.timer other :=
  TimeoutManager.cancel_other _ _ _ different

@[simp] theorem finishes_timer_self : (c.finishes id).timer id = { c.timer id with done := true } :=
  TimeoutManager.set_self ..

@[simp] theorem finishes_timer_other (different : other ≠ id) : (c.finishes id).timer other = c.timer other :=
  TimeoutManager.set_other _ _ _ _ different

@[simp] theorem creates_timer_other {object : Nat} {timeout : Int}
    (different : other ≠ .stopDtOutstandingSFormatTimer object) :
    (c.creates object timeout).timer other = c.timer other :=
  TimeoutManager.set_other _ _ _ _ different

end Fields

/-- What has to be shown of an invariant of the timers. The test timer is planned only if `testing` holds and
cancelled only if `confirming` does, and the t1 timer is planned only where something is outstanding. -/
structure TimerInvariant (settings : ConnectionSettings) (testing confirming : Prop) (I : Connection → Prop) :
    Prop where
  congr : ∀ c d, I c → d.timerSide = c.timerSide → I d
  tick : ∀ c milliseconds, I c → I { c with currentTimeMillis := c.currentTimeMillis + milliseconds }
  plan : ∀ c id, I c → id ≠ .maxTimeNoAckReceived → (id = .maxTimeNoTestConReceived → testing) →
    I (c.plans id)
  cancel : ∀ c id, I c → (id = .maxTimeNoTestConReceived → confirming) → I (c.cancels id)
  finish : ∀ c id, I c → (TimerId.Closes id → c.closed = true) → I (c.finishes id)
  create : ∀ c object timeout, I c → I (c.creates object timeout)
  dequeue : ∀ c id, I c → I (c.dequeued id)
  number : ∀ c, I c → Counting settings c →
    c.getNumUnconfirmedAPdusSent < settings.maxNumOfOutstandingIPdus → I c.numbered
  arm : ∀ c, I c → c.sendSequenceNumber ≠ c.acknowledgedSendSequenceNumber → I (c.plans .maxTimeNoAckReceived)
  acknowledge : ∀ c receiveSeqNumber, I c → Counting settings c → receiveSeqNumber < 2 ^ 15 →
    c.Acknowledges receiveSeqNumber → I (c.acknowledged receiveSeqNumber)
  close : ∀ c, I c → c.closed = false →
    I { c with acknowledgedSendSequenceNumber := c.sendSequenceNumber, closed := true }

namespace TimerInvariant

variable {testing confirming : Prop} {I : Connection → Prop}

private theorem kept (invariant : TimerInvariant settings testing confirming I) {method : Body Unit} (holds : I c)
    (keeps : Keeps timerSide method) : Always I c method :=
  keeps.post fun d same => invariant.congr c d holds same

private theorem cancelIfPlanned (invariant : TimerInvariant settings testing confirming I) (holds : I c)
    {id : TimerId} (other : id ≠ .maxTimeNoTestConReceived) : I (c.cancelledIfPlanned id) := by
  rw [Connection.cancelledIfPlanned]
  split
  · exact invariant.cancel c id holds fun test => absurd test other
  · exact holds

private theorem idleTimeReset (invariant : TimerInvariant settings testing confirming I) (holds : I c) :
    I c.idleTimeReset :=
  invariant.plan _ .maxIdleTimeTimer
    (invariant.cancel c .maxIdleTimeTimer holds fun idle => by cases idle) (by simp) fun idle => by cases idle

private theorem always_sendSFormatPdu (invariant : TimerInvariant settings testing confirming I) (holds : I c) :
    Always I c (sendSFormatPdu settings) := by
  rw [Always, post_sendSFormatPdu]
  refine ⟨fun _ => invariant.congr c _ holds rfl, fun _ => ⟨fun _ => invariant.congr c _ holds rfl, fun _ => ?_⟩⟩
  exact invariant.congr _ _ (invariant.idleTimeReset holds) rfl

private theorem always_sendSFormatIfUnconfirmedAPdu (invariant : TimerInvariant settings testing confirming I)
    (holds : I c) : Always I c (sendSFormatIfUnconfirmedAPdu settings) := by
  rw [Always, post_sendSFormatIfUnconfirmedAPdu]
  refine ⟨fun _ => ?_, fun _ => holds⟩
  exact (invariant.always_sendSFormatPdu holds).mono (fun _ _ holds => invariant.cancelIfPlanned holds (by simp))
    fun _ _ holds => holds

private theorem armed (invariant : TimerInvariant settings testing confirming I) (holds : I c)
    (outstanding : c.sendSequenceNumber ≠ c.acknowledgedSendSequenceNumber) : I c.armed := by
  have cancelled : I (c.cancelledIfPlanned .maxTimeNoAckSentTimer) := invariant.cancelIfPlanned holds (by simp)
  rw [Connection.armed]
  split
  · exact invariant.congr _ _ cancelled rfl
  · exact invariant.congr _ _ (invariant.arm _ cancelled outstanding) rfl

private theorem always_send (invariant : TimerInvariant settings testing confirming I) (holds : I c)
    (counting : Counting settings c) (window : c.getNumUnconfirmedAPdusSent < settings.maxNumOfOutstandingIPdus)
    (aSdu : ASdu) : Always I c (send settings aSdu) := by
  have numbered := invariant.number c holds counting window
  have outstanding := Supervised.numbered_outstanding counting window
  have prepared : Post (prepareSend settings aSdu) c (fun _ => I) (fun _ => I) := by
    rw [post_prepareSend]
    refine ⟨fun _ => holds, fun _ => ⟨fun _ => holds, fun _ => ⟨fun _ => ?_, fun _ => ?_⟩⟩⟩
    · have both := (invariant.always_sendSFormatPdu numbered).and (SendingSide.keeps_sendSFormatPdu c.numbered)
      refine both.mono (fun _ d both => invariant.armed both.1 ?_) fun _ _ both => both.1
      obtain ⟨send, acknowledged⟩ := Prod.mk.inj (Prod.mk.inj both.2).1
      rwa [send, acknowledged]
    · exact invariant.armed numbered outstanding
  refine Post.seq prepared fun aPdu d holds => ?_
  refine Post.seq (invariant.kept holds (keeps_encode (fun _ _ => rfl) aPdu)) fun _ d holds => ?_
  simp only [post_bind, post_write, post_flush, post_resetMaxIdleTimeTimer]
  have same {e : Connection} (same : e.timerSide = d.timerSide) : I e := invariant.congr d e holds same
  exact ⟨fun _ => same rfl, fun _ => ⟨fun _ => same rfl, fun _ => invariant.idleTimeReset (same rfl)⟩⟩

theorem always_execute (invariant : TimerInvariant settings testing confirming I) (holds : I c) (id : TimerId)
    (tests : id = .maxIdleTimeTimer → testing) : Always I c (execute settings id) := by
  have same {d e : Connection} (holds : I d) (same : e.timerSide = d.timerSide) : I e :=
    invariant.congr d e holds same
  have closes (id : TimerId) (closes : TimerId.Closes id) : Always I c (execute settings id) := by
    rw [Always, post_execute_close closes, post_close]
    exact ⟨fun _ => same holds rfl, fun isOpen => same (invariant.close c holds isOpen) rfl⟩
  cases id with
  | maxTimeNoTestConReceived => exact closes _ (.inl rfl)
  | maxTimeNoAckReceived => exact closes _ (.inr rfl)
  | maxTimeNoAckSentTimer =>
    rw [Always, execute, post_ignoringIOException]
    exact (invariant.always_sendSFormatPdu holds).mono (fun _ _ holds => holds)
      fun _ _ holds => ⟨fun _ => holds, fun _ => holds⟩
  | maxIdleTimeTimer =>
    have planned := invariant.plan c .maxTimeNoTestConReceived holds (by simp) fun _ => tests rfl
    simp only [Always, execute, post_bind, post_ignoringIOException, post_write, post_flush, post_addTimerTask]
    refine ⟨fun _ => ⟨fun _ => same planned rfl, fun thrown => by cases thrown⟩, fun _ => ⟨fun _ =>
      ⟨fun _ => same planned rfl, fun thrown => by cases thrown⟩, fun _ => same planned rfl⟩⟩
  | stopDtOutstandingSFormatTimer object =>
    exact invariant.kept holds fun c => by simp [execute, sendStopDtCon, timerSide]

private theorem always_executeManually (invariant : TimerInvariant settings testing confirming I) (holds : I c)
    (id : TimerId) (tests : id = .maxIdleTimeTimer → (c.timer id).canceled = false → testing) :
    Always I c (executeManually settings id) := by
  rw [Always, post_executeManually]
  refine ⟨fun _ => holds, fun live => ?_⟩
  have ran := invariant.always_execute holds id fun idle => tests idle live
  by_cases closing : TimerId.Closes id
  · have shut : Post (execute settings id) c (fun _ d => d.closed = true) (fun _ _ => False) :=
      (execute_closes closing).mono (fun _ _ closed => congrArg Prod.snd closed) fun _ _ thrown => thrown
    exact (ran.and shut).mono (fun _ d both => invariant.finish d id both.1 fun _ => both.2)
      fun _ d both => both.2.elim
  · have finished {d : Connection} (holds : I d) : I (d.finishes id) :=
      invariant.finish d id holds fun closes => absurd closes closing
    exact ran.mono (fun _ _ holds => finished holds) fun _ _ holds => finished holds

private theorem always_handleIFrame (invariant : TimerInvariant settings testing confirming I) (holds : I c)
    (counting : Counting settings c) (aPdu : ReceivedAPdu) :
    Always I c (handleIFrame settings aPdu.toAPdu) := by
  have counted : Always I c (updateReceiveSeqNum settings aPdu.sendSeqNum) := by
    have received : I c.received := invariant.congr c _ holds rfl
    rw [Always, post_updateReceiveSeqNum]
    exact ⟨fun _ => holds, fun _ => ⟨fun _ => invariant.always_sendSFormatPdu received, fun _ => received⟩⟩
  have between := counted.and (counting.always_updateReceiveSeqNum aPdu.sendSeqNum)
  refine Post.seq (between.mono (fun _ _ both => both) fun _ _ both => both.1) ?_
  rintro _ d ⟨holds, counting⟩
  rw [post_bind, post_handleReceiveSequenceNumber counting aPdu.receiveSeqNum_lt]
  refine ⟨fun inside => ?_, fun _ => holds⟩
  have acknowledged := invariant.acknowledge d _ holds counting aPdu.receiveSeqNum_lt inside
  refine Post.seq (invariant.kept acknowledged fun _ => (post_handOver aPdu.aSdu).mpr rfl) fun _ e holds => ?_
  rw [post_acknowledgeReceived]
  refine ⟨fun _ => ?_, fun _ => ?_⟩
  · exact (invariant.always_sendSFormatPdu holds).mono (fun _ _ holds => invariant.cancelIfPlanned holds (by simp))
      fun _ _ holds => holds
  · rw [acknowledgementPlanned]
    split
    · exact holds
    · exact invariant.plan e .maxTimeNoAckSentTimer holds (by simp) fun idle => by cases idle

private theorem always_handleStopDtAct (invariant : TimerInvariant settings testing confirming I) (holds : I c) :
    Always I c (handleStopDtAct settings) := by
  have requested : I c.stopRequested := invariant.congr _ _ (invariant.cancelIfPlanned holds (by simp)) rfl
  rw [Always, post_handleStopDtAct]
  refine (invariant.always_sendSFormatIfUnconfirmedAPdu requested).mono
    (fun _ d holds => ⟨fun _ => ?_, fun _ => ?_⟩) fun _ _ holds => holds
  · have created := invariant.create d d.stopDtTimers
      ((d.timer .maxTimeNoAckReceived).sleepTimeFromDueTime d.currentTimeMillis) holds
    exact invariant.congr _ _ (invariant.plan _ (.stopDtOutstandingSFormatTimer d.stopDtTimers) created
      (by simp) fun idle => by cases idle) rfl
  · exact invariant.kept holds fun d => by simp [sendStopDtCon, timerSide]

theorem always_dispatch (invariant : TimerInvariant settings testing confirming I) (holds : I c)
    (counting : Counting settings c) (aPdu : ReceivedAPdu)
    (confirms : aPdu.apciType = .TESTFR_CON → confirming) :
    Always I c (dispatch settings server aPdu.toAPdu) := by
  apply Dispatches.post
  constructor
  case refused => exact fun _ => holds
  case handleIFrame => exact fun _ => invariant.always_handleIFrame holds counting aPdu
  case handleSFormat =>
    intro _
    rw [post_handleReceiveSequenceNumber counting aPdu.receiveSeqNum_lt]
    refine ⟨fun inside => ?_, fun _ => holds⟩
    have acknowledged := invariant.acknowledge c _ holds counting aPdu.receiveSeqNum_lt inside
    exact ⟨fun _ => acknowledged, fun object _ =>
      invariant.always_executeManually acknowledged _ fun idle => by cases idle⟩
  case handleStartDtAct =>
    intro _
    rw [post_handleStartDtAct]
    have same {d : Connection} (same : d.timerSide = c.timerSide) : I d := invariant.congr c d holds same
    exact ⟨fun _ => same rfl, fun _ => ⟨fun _ => same rfl, fun _ => invariant.idleTimeReset (same rfl)⟩⟩
  case handleStopDtAct => exact fun _ => invariant.always_handleStopDtAct holds
  case sendTestFrameCon => exact invariant.kept holds fun c => by simp [Connection.sendTestFrameCon, timerSide]
  case cancelTestCon =>
    exact fun test => invariant.cancel c .maxTimeNoTestConReceived holds fun _ => confirms test
  case countDown => exact fun _ => invariant.congr c _ holds rfl

/-- An idle timer that runs is allowed to plan the test timer, and a frame that confirms a test to cancel it. -/
def MayTest (testing confirming : Prop) (c : Connection) (action : Action) : Prop :=
  (action = .fire .maxIdleTimeTimer → (c.timer .maxIdleTimeTimer).canceled = false → testing) ∧
    ∀ aPdu, action = .receive aPdu → aPdu.apciType = .TESTFR_CON → confirming

/-- The obligations are all there is to such an invariant. -/
theorem preserves (invariant : TimerInvariant settings testing confirming I) :
    Preserves settings server (fun c action => MayTest testing confirming c action ∧ Bounded settings c) I where
  progress c _ holds := invariant.congr c _ holds rfl
  callEnds c _ holds _ := invariant.congr c _ holds rfl
  tick c milliseconds holds := invariant.tick c milliseconds holds
  send c aSdu holds meets window := invariant.always_send holds meets.2.toCounting window aSdu
  receive c aPdu holds meets _ :=
    (invariant.always_dispatch holds meets.2.toCounting aPdu (meets.1.2 aPdu rfl)).mono
      (fun _ _ holds => invariant.idleTimeReset holds) fun _ d holds => invariant.congr d _ holds rfl
  readFailure c _ holds _ := invariant.congr c _ holds rfl
  endReader c holds _ _ := by
    rw [Always, post_endReader, post_close]
    exact ⟨fun _ => invariant.congr c _ holds rfl, fun isOpen =>
      invariant.congr _ _ (invariant.close c holds isOpen) rfl⟩
  fire c id holds meets := by
    rw [Always, post_fire]
    refine invariant.always_executeManually (invariant.dequeue c id holds) id fun idle live => ?_
    subst idle
    exact meets.1.1 rfl live
  runTask c _ holds _ _ := (post_runTask _).mpr (invariant.congr c _ holds rfl)
  setConnectionListener c _ holds _ := invariant.congr c _ holds rfl
  close c holds := by
    rw [Always, post_close]
    exact ⟨fun _ => holds, fun isOpen => invariant.congr _ _ (invariant.close c holds isOpen) rfl⟩
  writeStartDtAct c holds := invariant.kept holds fun c => by
    simp [writeStartDtAct, newStartDtConSignal, timerSide]
  register c _ _ holds _ _ := invariant.kept holds fun c => by simp [register, timerSide]
  beginStop c _ holds _ := invariant.kept holds fun c => by simp [beginStop, timerSide]
  confirm c _ holds _ _ := invariant.always_sendSFormatIfUnconfirmedAPdu holds
  cancelT2 c _ holds _ _ := (post_cancelIfPlanned _).mpr (invariant.cancelIfPlanned holds (by simp))
  writeStopDtAct c holds := invariant.kept holds fun c => by
    simp [writeStopDtAct, newStopDtConSignal, timerSide]
  finishStop c _ holds _ _ := invariant.congr c _ holds rfl

end TimerInvariant

end Connection

end J60870
