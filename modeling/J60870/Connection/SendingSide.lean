import J60870.Connection.Windows

namespace J60870

open Lib Method

namespace Connection

variable {settings : ConnectionSettings} {server : Bool} {c d : Connection}

/-- The numbers of the sending side, the t1 timer, and what else `send` goes by. -/
def sendingSide (c : Connection) : (Nat × Nat) × TimeoutTask × Bool × Nat × (Nat → Bool) :=
  ((c.sendSequenceNumber, c.acknowledgedSendSequenceNumber), c.timer .maxTimeNoAckReceived, c.closed,
    c.notifications, c.ioFails)

namespace SendingSide

theorem keeps_sendSFormatPdu : Keeps sendingSide (sendSFormatPdu settings) := fun c => by
  simp [sendingSide]

theorem keeps_sendSFormatIfUnconfirmedAPdu :
    Keeps sendingSide (sendSFormatIfUnconfirmedAPdu settings) := fun c => by
  simp [post_sendSFormatIfUnconfirmedAPdu, sendingSide]

theorem keeps_updateReceiveSeqNum (sendSeqNumber : Nat) :
    Keeps sendingSide (updateReceiveSeqNum settings sendSeqNumber) := fun c => by
  simp [post_updateReceiveSeqNum, sendingSide]

theorem keeps_acknowledgeReceived : Keeps sendingSide (acknowledgeReceived settings) := fun c => by
  simp [post_acknowledgeReceived, sendingSide]

theorem keeps_handOver (aSdu : Option ASdu) : Keeps sendingSide (handOver aSdu) := fun _ =>
  (post_handOver aSdu).mpr rfl

theorem keeps_sendStopDtCon : Keeps sendingSide sendStopDtCon := fun c => by
  simp [sendStopDtCon, sendingSide, timer]

theorem keeps_handleStopDtAct : Keeps sendingSide (handleStopDtAct settings) := fun c =>
  handleStopDtAct_of_keeps (by simp [sendingSide]) keeps_sendSFormatIfUnconfirmedAPdu
    (fun d => by simp [sendingSide]) keeps_sendStopDtCon

theorem keeps_handleStartDtAct : Keeps sendingSide handleStartDtAct := fun c => by
  cases c.aSduListener <;> simp [handleStartDtAct, sendingSide, timer]

theorem keeps_transmit (aPdu : APdu) : Keeps sendingSide (do
    encode settings aPdu
    write aPdu
    flush
    resetMaxIdleTimeTimer) := by
  apply Keeps.bind (keeps_encode (fun _ _ => rfl) aPdu)
  intro _ c
  simp [sendingSide, timer]

theorem keeps_executeManually {id : TimerId} (t1 : id ≠ .maxTimeNoAckReceived)
    (test : id ≠ .maxTimeNoTestConReceived) : Keeps sendingSide (executeManually settings id) := fun c => by
  cases id with
  | maxTimeNoTestConReceived => exact absurd rfl test
  | maxTimeNoAckReceived => exact absurd rfl t1
  | maxTimeNoAckSentTimer => simp [post_executeManually, execute, sendingSide, timer]
  | maxIdleTimeTimer => simp [post_executeManually, execute, sendingSide, timer]
  | stopDtOutstandingSFormatTimer object =>
    simp [post_executeManually, execute, sendStopDtCon, sendingSide, timer]

end SendingSide

/-- What has to be shown of an invariant that depends on the sending side only. -/
structure SendingInvariant (settings : ConnectionSettings) (I : Connection → Prop) : Prop where
  congr : ∀ c d, I c → d.sendingSide = c.sendingSide → I d
  prepareSend : ∀ c aSdu, I c → Counting settings c →
    c.getNumUnconfirmedAPdusSent < settings.maxNumOfOutstandingIPdus →
    Post (prepareSend settings aSdu) c (fun _ => I) (fun _ => I)
  acknowledged : ∀ c receiveSeqNumber, I c → Counting settings c → receiveSeqNumber < 2 ^ 15 →
    c.Acknowledges receiveSeqNumber → I (c.acknowledged receiveSeqNumber)
  close : ∀ c, I c → Always I c close
  expire : ∀ c id, I c → id = .maxTimeNoTestConReceived ∨ id = .maxTimeNoAckReceived →
    Always I c (executeManually settings id)

namespace SendingInvariant

open SendingSide

variable {I : Connection → Prop}

private theorem kept (invariant : SendingInvariant settings I) {method : Body Unit} (holds : I c)
    (keeps : Keeps sendingSide method) : Always I c method :=
  keeps.post fun d same => invariant.congr c d holds same

private theorem handleIFrame (invariant : SendingInvariant settings I) (holds : I c)
    (counting : Counting settings c) (aPdu : ReceivedAPdu) :
    Always I c (handleIFrame settings aPdu.toAPdu) := by
  have counted : Always I c (updateReceiveSeqNum settings aPdu.sendSeqNum) :=
    invariant.kept holds (keeps_updateReceiveSeqNum _)
  have between := counted.and (counting.always_updateReceiveSeqNum aPdu.sendSeqNum)
  refine Post.seq (between.mono (fun _ _ both => both) fun _ _ both => both.1) ?_
  rintro _ d ⟨holds, counting⟩
  rw [post_bind, post_handleReceiveSequenceNumber counting aPdu.receiveSeqNum_lt]
  refine ⟨fun inside => ?_, fun _ => holds⟩
  have acknowledged := invariant.acknowledged d _ holds counting aPdu.receiveSeqNum_lt inside
  exact invariant.kept acknowledged ((keeps_handOver _).bind fun _ => keeps_acknowledgeReceived)

private theorem always_dispatch (invariant : SendingInvariant settings I) (holds : I c)
    (counting : Counting settings c) (aPdu : ReceivedAPdu) :
    Always I c (dispatch settings server aPdu.toAPdu) := by
  apply Dispatches.post
  constructor
  case refused => exact fun _ => holds
  case handleIFrame => exact fun _ => invariant.handleIFrame holds counting aPdu
  case handleSFormat =>
    intro _
    rw [post_handleReceiveSequenceNumber counting aPdu.receiveSeqNum_lt]
    refine ⟨fun inside => ?_, fun _ => holds⟩
    have acknowledged := invariant.acknowledged c _ holds counting aPdu.receiveSeqNum_lt inside
    refine ⟨fun _ => acknowledged, fun object _ => ?_⟩
    exact invariant.kept acknowledged (keeps_executeManually (by simp) (by simp))
  case handleStartDtAct => exact fun _ => invariant.kept holds keeps_handleStartDtAct
  case handleStopDtAct => exact fun _ => invariant.kept holds keeps_handleStopDtAct
  case sendTestFrameCon =>
    apply invariant.kept holds
    intro c
    simp [Connection.sendTestFrameCon, sendingSide, timer]
  case cancelTestCon =>
    intro _
    apply invariant.congr c _ holds
    simp [sendingSide, timer]
  case countDown => exact fun _ => invariant.congr c _ holds rfl

/-- The obligations are all there is to such an invariant. -/
theorem preserves (invariant : SendingInvariant settings I) :
    Preserves settings server (fun c _ => True ∧ Bounded settings c) I where
  progress c _ holds := invariant.congr c _ holds rfl
  callEnds c _ holds _ := invariant.congr c _ holds rfl
  tick c _ holds := invariant.congr c _ holds rfl
  send c aSdu holds meets window := by
    apply (invariant.prepareSend c aSdu holds meets.2.toCounting window).seq
    exact fun aPdu d holds => invariant.kept holds (keeps_transmit aPdu)
  receive c aPdu holds meets _ := by
    apply (invariant.always_dispatch holds meets.2.toCounting aPdu).mono
    · intro _ d holds
      apply invariant.congr d _ holds
      simp [sendingSide]
    · exact fun _ d holds => invariant.congr d _ holds rfl
  readFailure c _ holds _ := invariant.congr c _ holds rfl
  endReader c holds _ _ := by
    rw [Always, post_endReader]
    exact (invariant.close c holds).mono (fun _ d holds => invariant.congr d _ holds rfl)
      fun _ _ holds => holds
  fire c id holds _ := by
    have dequeued : I (c.dequeued id) := invariant.congr c _ holds rfl
    rw [Always, post_fire]
    by_cases closes : id = .maxTimeNoTestConReceived ∨ id = .maxTimeNoAckReceived
    · exact invariant.expire _ id dequeued closes
    · obtain ⟨test, t1⟩ := not_or.mp closes
      exact invariant.kept dequeued (keeps_executeManually t1 test)
  runTask c _ holds _ _ := (post_runTask _).mpr (invariant.congr c _ holds rfl)
  setConnectionListener c _ holds _ := invariant.congr c _ holds rfl
  close c holds := invariant.close c holds
  writeStartDtAct c holds := invariant.kept holds fun c => by
    simp [Connection.writeStartDtAct, newStartDtConSignal, sendingSide, timer]
  register c _ _ holds _ _ := invariant.kept holds fun c => by
    simp [Connection.register, sendingSide, timer]
  beginStop c _ holds _ := invariant.kept holds fun c => by
    simp [Connection.beginStop, sendingSide, timer]
  confirm c _ holds _ _ := invariant.kept holds keeps_sendSFormatIfUnconfirmedAPdu
  cancelT2 c _ holds _ _ := invariant.kept holds fun c => by
    simp [sendingSide]
  writeStopDtAct c holds := invariant.kept holds fun c => by
    simp [Connection.writeStopDtAct, newStopDtConSignal, sendingSide, timer]
  finishStop c _ holds _ _ := invariant.congr c _ holds rfl

/-- The invariant holds in every state reached. -/
theorem run (invariant : SendingInvariant settings I) {actions : List Action} {ioFails : Nat → Bool}
    {now : Nat} (run : Run (Step settings server) (started settings ioFails now) actions c)
    (start : I (started settings ioFails now)) : I c :=
  Bounded.run invariant.preserves (run.guarded fun _ _ => trivial) start

private theorem closed : SendingInvariant settings fun c => c.closed = true where
  congr c d closed same := by
    simp only [sendingSide, Prod.mk.injEq] at same
    exact same.2.2.1.trans closed
  prepareSend c aSdu closed _ _ := by
    rw [post_prepareSend]
    exact ⟨fun _ => closed, fun isOpen => absurd closed (by simp [isOpen])⟩
  acknowledged _ _ closed _ _ _ := closed
  close c closed := by
    rw [Always, post_close]
    exact ⟨fun _ => closed, fun _ => rfl⟩
  expire c id closed closes := by
    rw [Always, post_executeManually, post_execute_close closes, post_close]
    exact ⟨fun _ => closed, fun _ => ⟨fun _ => closed, fun _ => rfl⟩⟩

end SendingInvariant

/-- Nothing opens a closed connection again. -/
theorem closed_stays {action : Action} (bounded : Bounded settings c)
    (taken : Step settings server c action d) (closed : c.closed = true) : d.closed = true :=
  SendingInvariant.closed.preserves.step closed ⟨trivial, bounded⟩ taken

end Connection

end J60870
