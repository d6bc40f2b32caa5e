import J60870.Connection.Windows

namespace J60870

open Lib Method

namespace Connection

variable {settings : ConnectionSettings} {server : Bool} {c d : Connection}

/-- Nothing ever cancels the timer of a deferred confirmation. -/
def Uncanceled (c : Connection) : Prop :=
  ∀ object, (c.timer (.stopDtOutstandingSFormatTimer object)).canceled = false

/-- A frame that acknowledges the last outstanding I frame of a pending stop is either an
I frame that is refused, or an S frame that comes when data transfer is started again and
whose confirmation goes out. The application does not stop the data transfer itself. -/
def LastAcknowledgementConfirms (c : Connection) : Action → Prop
  | .receive aPdu => c.IsOpen → c.pending = true → aPdu.receiveSeqNum = c.sendSequenceNumber →
      (aPdu.apciType = .I_FORMAT → aPdu.sendSeqNum ≠ c.receiveSequenceNumber) ∧
      (aPdu.apciType = .S_FORMAT →
        c.stopped = false ∧ c.ioFails c.ioCalls = false ∧ c.ioFails (c.ioCalls + 1) = false)
  | .stopDataTransfer _ => False
  | _ => True

/-- A stop is pending only over outstanding frames, and with a timer to confirm it. -/
structure PendingOutstanding (c : Connection) : Prop where
  uncanceled : c.Uncanceled
  outstanding : c.IsOpen → c.pending = true →
    c.sendSequenceNumber ≠ c.acknowledgedSendSequenceNumber ∧
    ∃ object, c.stopDtOutstandingSFormatTimer = some object

def deferral (c : Connection) : (Nat × Nat) × Bool × Option Nat × (Nat → Bool) × Bool × ReaderState :=
  ((c.sendSequenceNumber, c.acknowledgedSendSequenceNumber), c.pending, c.stopDtOutstandingSFormatTimer,
    fun object => (c.timer (.stopDtOutstandingSFormatTimer object)).canceled, c.closed, c.reader)

/-- If the frame acknowledges the last outstanding I frame, the pending stop is confirmed. -/
def Completes (c d : Connection) : Prop :=
  c.IsOpen → c.pending = true → d.IsOpen →
    d.sendSequenceNumber = d.acknowledgedSendSequenceNumber →
    d.pending = false ∧ d.written = c.written ++ [⟨unnumbered .STOPDT_CON, false⟩]

namespace PendingOutstanding

theorem congr (pending : PendingOutstanding c) (same : d.deferral = c.deferral) :
    PendingOutstanding d := by
  simp only [deferral, Prod.mk.injEq] at same
  obtain ⟨⟨send, acknowledged⟩, stop, field, canceled, closed, reader⟩ := same
  obtain ⟨uncanceled, outstanding⟩ := pending
  constructor
  · intro object
    exact (congrFun canceled object).trans (uncanceled object)
  · simpa only [IsOpen, send, acknowledged, stop, field, closed, reader] using outstanding

private theorem kept {method : Body Unit} (pending : PendingOutstanding c)
    (keeps : Keeps deferral method) : Always PendingOutstanding c method :=
  keeps.post fun _ same => pending.congr same

theorem of_not_pending (uncanceled : c.Uncanceled) (confirmed : c.pending = false) :
    PendingOutstanding c :=
  ⟨uncanceled, fun _ pending => absurd (confirmed.symm.trans pending) Bool.false_ne_true⟩

theorem of_not_open (uncanceled : c.Uncanceled) (shut : ¬ c.IsOpen) : PendingOutstanding c :=
  ⟨uncanceled, fun isOpen => absurd isOpen shut⟩

theorem left (uncanceled : c.Uncanceled) (e : JavaException) : PendingOutstanding (c.left e) :=
  of_not_open uncanceled (by simp [IsOpen])

private theorem keeps_sendSFormatPdu : Keeps deferral (sendSFormatPdu settings) := by
  intro c
  simp [deferral]

private theorem keeps_sendSFormatIfUnconfirmedAPdu :
    Keeps deferral (sendSFormatIfUnconfirmedAPdu settings) := by
  intro c
  simp [sendSFormatIfUnconfirmedAPdu, deferral]

private theorem numbered (pending : PendingOutstanding c) (bounded : Bounded settings c)
    (window : c.getNumUnconfirmedAPdusSent < settings.maxNumOfOutstandingIPdus) :
    PendingOutstanding c.numbered := by
  obtain ⟨uncanceled, outstanding⟩ := pending
  refine ⟨uncanceled, fun isOpen stop => ⟨?_, (outstanding isOpen stop).2⟩⟩
  have send_lt := bounded.send_lt
  have acknowledgedSend_lt := bounded.acknowledgedSend_lt
  have range := settings.k_range
  simp only [getNumUnconfirmedAPdusSent, sequenceNumberDiff, numbered_sendSequenceNumber,
    numbered_acknowledgedSendSequenceNumber] at window ⊢
  grind

private theorem always_send (pending : PendingOutstanding c) (bounded : Bounded settings c) (aSdu : ASdu)
    (window : c.getNumUnconfirmedAPdusSent < settings.maxNumOfOutstandingIPdus) :
    Always PendingOutstanding c (send settings aSdu) := by
  have numbered := pending.numbered bounded window
  refine Post.seq (P := fun _ => PendingOutstanding) ?_ fun aPdu d pending => ?_
  · rw [post_prepareSend]
    refine ⟨fun _ => pending, fun _ => ⟨fun _ => pending, fun _ => ⟨fun _ => ?_, fun _ => ?_⟩⟩⟩
    · exact (numbered.kept keeps_sendSFormatPdu).mono
        (fun _ _ pending => pending.congr (by simp [deferral])) fun _ _ pending => pending
    · exact numbered.congr (by simp [deferral])
  · refine pending.kept <| .bind (keeps_encode (fun _ _ => rfl) aPdu) fun _ c => ?_
    simp [deferral, timer]

private theorem always_handleStopDtAct (pending : PendingOutstanding c) :
    Post (handleStopDtAct settings) c (fun _ => PendingOutstanding) (fun _ => Uncanceled) := by
  have requested : c.stopRequested.Uncanceled := fun object => by
    simpa using pending.uncanceled object
  rw [post_handleStopDtAct]
  refine (keeps_sendSFormatIfUnconfirmedAPdu c.stopRequested).mono (fun _ d same => ?_) fun _ d same => ?_
  all_goals
    have canceled := congrArg (fun deferral => deferral.2.2.2.1) same
    have uncanceled : d.Uncanceled := fun object => (congrFun canceled object).trans (requested object)
  · refine ⟨fun deferred => ⟨fun object => ?_, fun _ _ => ⟨fun acknowledged => ?_, _, rfl⟩⟩, fun _ => ?_⟩
    · by_cases new : object = d.stopDtTimers
      · simp [timer, new, TimeoutTask.updateDueTime]
      · rw [stopDeferred_timer_other _ (by simpa using new)]
        exact uncanceled object
    · have outstanding : 0 < sequenceNumberDiff d.sendSequenceNumber d.acknowledgedSendSequenceNumber :=
        deferred.1
      rw [show d.sendSequenceNumber = d.acknowledgedSendSequenceNumber from acknowledged,
        sequenceNumberDiff_self] at outstanding
      exact absurd outstanding (Nat.lt_irrefl 0)
    · rw [post_sendStopDtCon]
      exact ⟨fun _ => uncanceled, fun _ => ⟨fun _ => uncanceled, fun _ => of_not_pending uncanceled rfl⟩⟩
  · exact uncanceled

private theorem canceled_done (id : TimerId) (object : Nat) :
    ((c.timeoutManager.set id { c.timer id with done := true }).task
      (.stopDtOutstandingSFormatTimer object)).canceled =
    (c.timer (.stopDtOutstandingSFormatTimer object)).canceled := by
  by_cases same : TimerId.stopDtOutstandingSFormatTimer object = id
  · rw [same, TimeoutManager.set_self]
  · rw [TimeoutManager.set_other _ _ _ _ same, timer]

private theorem keeps_setDone (id : TimerId) : Keeps deferral (setDone id) := by
  intro c
  rw [post_setDone]
  simp only [deferral, timer, Prod.mk.injEq, true_and, and_true]
  exact funext (canceled_done id)

private theorem always_close (pending : PendingOutstanding c) : Always PendingOutstanding c close := by
  rw [Always, post_close]
  exact ⟨fun _ => pending, fun _ => of_not_open pending.uncanceled (by simp [IsOpen])⟩

private theorem always_execute (pending : PendingOutstanding c) (id : TimerId) :
    Always PendingOutstanding c (execute settings id) := by
  have uncanceled := pending.uncanceled
  have closing {id : TimerId} (closes : id = .maxTimeNoTestConReceived ∨ id = .maxTimeNoAckReceived) :
      Always PendingOutstanding c (execute settings id) := by
    rw [Always, post_execute_close closes]
    exact pending.always_close.mono (fun _ _ pending => pending.congr rfl) fun _ _ pending => pending
  cases id with
  | maxTimeNoTestConReceived => exact closing (.inl rfl)
  | maxTimeNoAckReceived => exact closing (.inr rfl)
  | maxTimeNoAckSentTimer =>
    simp only [Always, execute, post_ignoringIOException]
    exact (pending.kept keeps_sendSFormatPdu).mono (fun _ _ pending => pending)
      fun _ _ pending => ⟨fun _ => pending, fun _ => pending⟩
  | maxIdleTimeTimer =>
    refine pending.kept fun c => ?_
    simp [execute, deferral, timer]
  | stopDtOutstandingSFormatTimer object =>
    simp only [Always, execute, post_bind, post_get, post_ite, post_pure, post_ignoringIOException,
      post_sendStopDtCon]
    refine ⟨fun _ => pending, fun _ => ⟨fun _ => ?_, fun _ => ⟨fun _ => ?_, fun _ => ?_⟩⟩⟩
    · exact ⟨fun _ => pending.congr rfl, fun _ => pending.congr rfl⟩
    · exact ⟨fun _ => pending.congr rfl, fun _ => pending.congr rfl⟩
    · exact of_not_pending uncanceled rfl

private theorem always_executeManually (pending : PendingOutstanding c) (id : TimerId) :
    Always PendingOutstanding c (executeManually settings id) := by
  rw [Always, post_executeManually]
  refine ⟨fun _ => pending, fun _ => (pending.always_execute id).mono (fun _ _ pending => ?_)
    fun _ _ pending => ?_⟩
  · exact pending.kept (keeps_setDone id)
  · exact pending.kept (keeps_setDone id)

private theorem executeManually_confirms (uncanceled : c.Uncanceled) (object : Nat)
    (restarted : c.stopped = false) (writes : c.ioFails c.ioCalls = false)
    (flushes : c.ioFails (c.ioCalls + 1) = false) (unclosed : c.closed = false) :
    Post (executeManually settings (.stopDtOutstandingSFormatTimer object)) c
      (fun _ d => d.Uncanceled ∧ d.pending = false ∧
        d.written = c.written ++ [⟨unnumbered .STOPDT_CON, false⟩])
      (fun _ _ => False) := by
  simp only [post_executeManually, execute, post_bind, post_get, post_ite, post_ignoringIOException,
    post_sendStopDtCon, post_setDone, uncanceled object, restarted, writes, flushes, unclosed, sent,
    Bool.false_eq_true, false_implies, true_implies, not_false_eq_true, true_and, and_true, or_self]
  exact fun other => (canceled_done _ other).trans (uncanceled other)

private theorem completes (pending : PendingOutstanding d) (still : c.pending = true → d.pending = true) :
    Completes c d := by
  -- Where the stop stays pending there is nothing to confirm.
  intro _ stop isOpen acknowledged
  exact absurd acknowledged (pending.outstanding isOpen (still stop)).1

private theorem keeps_acknowledgeReceived : Keeps deferral (acknowledgeReceived settings) := by
  intro c
  rw [post_acknowledgeReceived]
  refine ⟨fun _ => ?_, fun _ => by simp [deferral]⟩
  refine (keeps_sendSFormatPdu c).mono (fun _ d same => ?_) fun _ _ same => same
  calc (d.cancelledIfPlanned .maxTimeNoAckSentTimer).deferral
      = d.deferral := by simp [deferral]
    _ = c.deferral := same

private theorem handleIFrame (pending : PendingOutstanding c) (bounded : Bounded settings c)
    (aPdu : ReceivedAPdu)
    (refused : c.IsOpen → c.pending = true → aPdu.receiveSeqNum = c.sendSequenceNumber →
      aPdu.sendSeqNum ≠ c.receiveSequenceNumber) :
    Post (handleIFrame settings aPdu.toAPdu) c (fun _ d => PendingOutstanding d ∧ Completes c d)
      (fun _ => Uncanceled) := by
  -- An I frame that is accepted does not acknowledge the last outstanding frame.
  have expected : Post (updateReceiveSeqNum settings aPdu.sendSeqNum) c
      (fun _ _ => aPdu.sendSeqNum = c.receiveSequenceNumber) (fun _ _ => True) := by
    rw [post_updateReceiveSeqNum]
    refine ⟨fun _ => trivial, fun same => ⟨fun _ => ?_, fun _ => same.symm⟩⟩
    simp [same]
  have keeps : Keeps deferral (updateReceiveSeqNum settings aPdu.sendSeqNum) := fun c => by
    simp [updateReceiveSeqNum, verifySeqNumber, deferral, timer]
  have counted := bounded.toCounting.always_updateReceiveSeqNum aPdu.sendSeqNum
  refine Post.seq ((expected.and (counted.and (keeps c))).mono (fun _ _ holds => holds) ?_)
    fun _ d holds => ?_
  · exact fun _ _ holds => (pending.congr holds.2.2).uncanceled
  obtain ⟨expected, counting, same⟩ := holds
  have before : PendingOutstanding d := pending.congr same
  simp only [deferral, Prod.mk.injEq] at same
  obtain ⟨⟨send, -⟩, stop, -, -, closed, reader⟩ := same
  refine Post.seq (P := fun _ e => PendingOutstanding e ∧ e.pending = c.pending) ?_ fun _ e holds => ?_
  · rw [post_handleReceiveSequenceNumber counting aPdu.receiveSeqNum_lt]
    refine ⟨fun inside => ⟨⟨fun object => ?_, fun isOpen pending => ?_⟩, stop⟩, fun _ => before.uncanceled⟩
    · rw [acknowledged_timer_other _ _ (by simp)]
      exact before.uncanceled object
    · refine ⟨fun last => ?_, (before.outstanding isOpen pending).2⟩
      have isOpen : c.IsOpen := ⟨closed.symm.trans isOpen.1, reader.symm.trans isOpen.2⟩
      exact refused isOpen (stop.symm.trans pending) (last.symm.trans send) expected
  obtain ⟨after, still⟩ := holds
  have keeps : Keeps deferral (do handOver aPdu.aSdu; acknowledgeReceived settings) :=
    .bind (fun c => by simp [deferral, timer]) fun _ => keeps_acknowledgeReceived
  refine (keeps e).mono (fun _ f same => ?_) fun _ _ same => (after.congr same).uncanceled
  have kept := after.congr same
  simp only [deferral, Prod.mk.injEq] at same
  exact ⟨kept, kept.completes fun stop => (same.2.1.trans still).trans stop⟩

private theorem completes_of_numbers (pending : PendingOutstanding c)
    (same : (d.sendSequenceNumber, d.acknowledgedSendSequenceNumber) =
      (c.sendSequenceNumber, c.acknowledgedSendSequenceNumber)) : Completes c d := by
  intro isOpen stop _ acknowledged
  obtain ⟨send, ack⟩ := Prod.mk.inj same
  exact absurd ((send.symm.trans acknowledged).trans ack) (pending.outstanding isOpen stop).1

private theorem handleSFormat (pending : PendingOutstanding c) (bounded : Bounded settings c)
    {receiveSeqNum : Nat} (number_lt : receiveSeqNum < 2 ^ 15)
    (confirms : c.IsOpen → c.pending = true → receiveSeqNum = c.sendSequenceNumber →
      c.stopped = false ∧ c.ioFails c.ioCalls = false ∧ c.ioFails (c.ioCalls + 1) = false) :
    Post (handleReceiveSequenceNumber settings receiveSeqNum) c
      (fun _ d =>
        (d.stopDtOutstandingSFormatTimer = none → PendingOutstanding d ∧ Completes c d) ∧
        ∀ object, d.stopDtOutstandingSFormatTimer = some object →
          Post (executeManually settings (.stopDtOutstandingSFormatTimer object)) d
            (fun _ e => PendingOutstanding e ∧ Completes c e) (fun _ => Uncanceled))
      (fun _ => Uncanceled) := by
  -- An S frame that acknowledges the last outstanding frame has the stop confirmed.
  rw [post_handleReceiveSequenceNumber bounded.toCounting number_lt]
  refine ⟨fun inside => ?_, fun _ => pending.uncanceled⟩
  have uncanceled : (c.acknowledged receiveSeqNum).Uncanceled := fun object => by
    rw [acknowledged_timer_other _ _ (by simp)]
    exact pending.uncanceled object
  by_cases last : c.IsOpen ∧ c.pending = true ∧ receiveSeqNum = c.sendSequenceNumber
  · obtain ⟨isOpen, stop, all⟩ := last
    obtain ⟨-, object, field⟩ := pending.outstanding isOpen stop
    obtain ⟨restarted, writes, flushes⟩ := confirms isOpen stop all
    refine ⟨fun none => absurd (none.symm.trans field) (Option.some_ne_none object).symm, fun object _ => ?_⟩
    refine (executeManually_confirms uncanceled object restarted writes flushes isOpen.1).mono
      (fun _ d holds => ?_) fun _ _ => False.elim
    obtain ⟨uncanceled, confirmed, written⟩ := holds
    exact ⟨of_not_pending uncanceled confirmed, fun _ _ _ _ => ⟨confirmed, written⟩⟩
  · have outstanding : PendingOutstanding (c.acknowledged receiveSeqNum) := by
      refine ⟨uncanceled, fun isOpen stop => ⟨fun all => ?_, (pending.outstanding isOpen stop).2⟩⟩
      exact last ⟨isOpen, stop, all.symm⟩
    refine ⟨fun _ => ⟨outstanding, outstanding.completes fun stop => stop⟩, fun object _ => ?_⟩
    have numbers : Keeps (fun c => (c.sendSequenceNumber, c.acknowledgedSendSequenceNumber))
        (executeManually settings (.stopDtOutstandingSFormatTimer object)) := fun c => by
      simp [post_executeManually, execute, sendStopDtCon]
    refine ((outstanding.always_executeManually _).and (numbers _)).mono (fun _ d holds => ?_)
      fun _ _ holds => holds.1.uncanceled
    obtain ⟨pending, same⟩ := holds
    refine ⟨pending, fun isOpen stop _ acknowledged => ?_⟩
    obtain ⟨send, ack⟩ := Prod.mk.inj same
    exact absurd ⟨isOpen, stop, (ack.symm.trans acknowledged.symm).trans send⟩ last

private theorem always_dispatch (pending : PendingOutstanding c) (bounded : Bounded settings c)
    (aPdu : ReceivedAPdu) (confirms : c.LastAcknowledgementConfirms (.receive aPdu)) :
    Post (dispatch settings server aPdu.toAPdu) c (fun _ d => PendingOutstanding d ∧ Completes c d)
      (fun _ => Uncanceled) := by
  have unchanged {d : Connection} (same : d.deferral = c.deferral) :
      PendingOutstanding d ∧ Completes c d :=
    ⟨pending.congr same, pending.completes_of_numbers (Prod.mk.inj same).1⟩
  have kept {method : Body Unit} (keeps : Keeps deferral method) :
      Post method c (fun _ d => PendingOutstanding d ∧ Completes c d) (fun _ => Uncanceled) :=
    (keeps c).mono (fun _ _ same => unchanged same) fun _ _ same => (unchanged same).1.uncanceled
  apply Dispatches.post
  constructor
  case refused => exact fun _ => pending.uncanceled
  case handleIFrame =>
    intro format
    exact pending.handleIFrame bounded aPdu fun isOpen stop all => (confirms isOpen stop all).1 format
  case handleSFormat =>
    intro format
    exact pending.handleSFormat bounded aPdu.receiveSeqNum_lt fun isOpen stop all =>
      (confirms isOpen stop all).2 format
  case handleStartDtAct =>
    intro _
    refine kept fun c => ?_
    cases c.aSduListener <;> simp [handleStartDtAct, deferral, timer]
  case handleStopDtAct =>
    intro _
    have numbers : Keeps (fun c => (c.sendSequenceNumber, c.acknowledgedSendSequenceNumber))
        (handleStopDtAct settings) := fun c => by
      simp [handleStopDtAct, sendStopDtCon, sendSFormatIfUnconfirmedAPdu]
    refine (pending.always_handleStopDtAct.and (numbers c)).mono (fun _ d holds => ?_)
      fun _ _ holds => holds.1
    exact ⟨holds.1, pending.completes_of_numbers holds.2⟩
  case sendTestFrameCon =>
    refine kept fun c => ?_
    simp [Connection.sendTestFrameCon, deferral, timer]
  case cancelTestCon => exact fun _ => unchanged (by simp [deferral, timer])
  case countDown => exact fun _ => unchanged rfl

theorem preserves :
    Preserves settings server
      (fun c action => c.LastAcknowledgementConfirms action ∧ Bounded settings c) PendingOutstanding where
  progress _ _ pending := pending.congr rfl
  callEnds _ _ pending _ := pending.congr rfl
  tick _ _ pending := pending.congr rfl
  send _ aSdu pending meets window := pending.always_send meets.2 aSdu window
  receive c aPdu pending meets _ :=
    (pending.always_dispatch meets.2 aPdu meets.1).mono
      (fun _ _ holds => holds.1.congr (by simp [deferral])) fun e _ uncanceled => left uncanceled e
  readFailure _ e pending _ := left pending.uncanceled e
  endReader c pending _ _ := by
    rw [Always, post_endReader]
    refine pending.always_close.mono (fun _ d pending => ?_) fun _ _ pending => pending
    exact of_not_open pending.uncanceled (by simp [IsOpen])
  fire c id pending _ := by
    have dequeued : PendingOutstanding (c.dequeued id) := pending.congr rfl
    rw [Always, post_fire]
    exact dequeued.always_executeManually id
  runTask _ _ pending _ _ := (post_runTask _).mpr (pending.congr rfl)
  setConnectionListener _ _ pending _ := pending.congr rfl
  close _ pending := pending.always_close
  writeStartDtAct _ pending := pending.kept fun c => by
    simp [Connection.writeStartDtAct, newStartDtConSignal, deferral, timer]
  register _ _ _ pending _ _ := pending.kept fun c => by
    simp [Connection.register, deferral, timer]
  beginStop _ _ _ meets := meets.1.elim
  confirm _ _ pending _ _ := pending.kept keeps_sendSFormatIfUnconfirmedAPdu
  cancelT2 _ _ pending _ _ := (post_cancelIfPlanned _).mpr (pending.congr (by simp [deferral]))
  writeStopDtAct _ pending := pending.kept fun c => by
    simp [Connection.writeStopDtAct, newStopDtConSignal, deferral, timer]
  finishStop _ _ pending _ _ := of_not_pending pending.uncanceled rfl

theorem started (ioFails : Nat → Bool) (now : Nat) :
    PendingOutstanding (started settings ioFails now) := by
  refine of_not_pending (fun object => ?_) rfl
  simp [Connection.started, timer, newTimers]

theorem of_run {actions : List Action} {ioFails : Nat → Bool} {now : Nat}
    (run : Run (Run.Guarded LastAcknowledgementConfirms (Step settings server))
      (Connection.started settings ioFails now) actions c) :
    PendingOutstanding c :=
  Bounded.run preserves run (.started ioFails now)

end PendingOutstanding

/-- In a run in which the last outstanding frame of a pending stop is acknowledged only
where its timer confirms the stop, a stop is pending only while frames are outstanding;
and the frame that acknowledges the last one has `STOPDT_CON` written. -/
theorem stop_completed {actions : List Action} {ioFails : Nat → Bool} {now : Nat}
    (run : Run (Run.Guarded LastAcknowledgementConfirms (Step settings true))
      (started settings ioFails now) actions c) :
    (c.IsOpen → c.pending = true → c.sendSequenceNumber ≠ c.acknowledgedSendSequenceNumber) ∧
    ∀ aPdu d, Run.Guarded LastAcknowledgementConfirms (Step settings true) c (.receive aPdu) d →
      Completes c d := by
  have pending := PendingOutstanding.of_run run
  have bounded : Bounded settings c := .of_run run.unguarded
  refine ⟨fun isOpen stop => (pending.outstanding isOpen stop).1, fun aPdu d last => ?_⟩
  obtain ⟨confirms, taken⟩ := last
  obtain ⟨method, found, rfl⟩ := step_eq_some taken
  obtain ⟨-, ⟨⟩⟩ := Option.ite_none_right_eq_some.mp found
  refine Post.outcome ?_
  rw [post_readerTurn]
  refine (pending.always_dispatch bounded aPdu confirms).mono (fun _ _ holds => holds.2) fun _ _ _ => ?_
  exact fun _ _ isOpen => absurd isOpen.2 (by simp)

/-- A stop over an outstanding frame, and a new start. -/
def sampleCompletion : List Action :=
  [.receive (sampleUnnumbered .STARTDT_ACT), .send sampleCommand,
    .receive (sampleUnnumbered .STOPDT_ACT), .receive (sampleUnnumbered .STARTDT_ACT)]

theorem stop_completed_sample :
    (sampleState true sampleCompletion).pending = true ∧
    (sampleState true sampleCompletion).sendSequenceNumber ≠
      (sampleState true sampleCompletion).acknowledgedSendSequenceNumber ∧
    (sampleState true (sampleCompletion ++ [.receive (sampleSFormat 1)])).pending = false ∧
    (sampleState true (sampleCompletion ++ [.receive (sampleSFormat 1)])).written =
      (sampleState true sampleCompletion).written ++ [⟨unnumbered .STOPDT_CON, false⟩] := by
  have meets : RunMeets {} true LastAcknowledgementConfirms (started {} (fun _ => false) 0)
      sampleCompletion := by
    refine .intro ?_ <| .intro trivial <| .intro ?_ <| .intro ?_ trivial
    · rintro - ⟨⟩
    · rintro - ⟨⟩
    · exact fun _ _ acknowledges => absurd acknowledges (by decide)
  have run : Run (Run.Guarded LastAcknowledgementConfirms (Step {} true)) (started {} (fun _ => false) 0)
      sampleCompletion (sampleState true sampleCompletion) := guarded_of_runActions rfl meets
  obtain ⟨outstanding, completes⟩ := stop_completed run
  have confirms : (sampleState true sampleCompletion).LastAcknowledgementConfirms
      (.receive (sampleSFormat 1)) :=
    fun _ _ _ => ⟨fun informs => absurd informs (by decide), fun _ => ⟨rfl, rfl, rfl⟩⟩
  refine ⟨rfl, outstanding ⟨rfl, rfl⟩ rfl, ?_⟩
  exact completes (sampleSFormat 1) _ ⟨confirms, rfl⟩ ⟨rfl, rfl⟩ rfl ⟨rfl, rfl⟩ rfl

/-- The S frame that acknowledges the only outstanding frame of a stop: the stop stays
pending, and no confirmation is written. -/
theorem not_stop_completed :
    ∃ c, Run (Step {} true) (started {} (fun _ => false) 0)
        [.receive (sampleUnnumbered .STARTDT_ACT), .send sampleCommand,
          .receive (sampleUnnumbered .STOPDT_ACT), .receive (sampleSFormat 1)] c ∧
      c.IsOpen ∧ c.pending = true ∧ c.sendSequenceNumber = c.acknowledgedSendSequenceNumber ∧
      c.written.map (fun frame => frame.frame.apciType) = [.STARTDT_CON, .I_FORMAT] :=
  ⟨_, run_of_runActions rfl, ⟨rfl, rfl⟩, rfl, rfl, rfl⟩

end Connection

end J60870
