import J60870.Connection.Windows

namespace J60870

open Lib Method

namespace Connection

variable {settings : ConnectionSettings} {server : Bool} {c d : Connection}

def AcknowledgementPlanned (c : Connection) : Prop :=
  c.receiveSequenceNumber ≠ c.acknowledgedReceiveSequenceNumber →
    (c.timer .maxTimeNoAckSentTimer).isPlanned = true

/-- The two steps that can lose an acknowledgement: `stopDataTransfer` cancels the t2
timer although a frame has been received since it acknowledged, and the S frame of the t2
timer does not go out. -/
def AcknowledgementKept (c : Connection) : Action → Prop
  | .proceed thread => c.IsOpen → c.calls thread = .stopConfirmed →
      c.receiveSequenceNumber = c.acknowledgedReceiveSequenceNumber
  | .fire .maxTimeNoAckSentTimer => c.IsOpen →
      c.receiveSequenceNumber = c.acknowledgedReceiveSequenceNumber ∨
      c.ioFails c.ioCalls = false ∧ c.ioFails (c.ioCalls + 1) = false
  | _ => True

/-- The invariant: the t2 timer keeps its timeout, and it is planned when it has to be. -/
structure Acknowledging (settings : ConnectionSettings) (c : Connection) : Prop where
  timeout : (c.timer .maxTimeNoAckSentTimer).timeout = settings.maxTimeNoAckSent
  planned : c.IsOpen → c.AcknowledgementPlanned

def awaited (c : Connection) : (Nat × Nat) × TimeoutTask × Bool × ReaderState :=
  ((c.receiveSequenceNumber, c.acknowledgedReceiveSequenceNumber), c.timer .maxTimeNoAckSentTimer,
    c.closed, c.reader)

namespace Acknowledging

theorem congr (acknowledging : Acknowledging settings c) (same : d.awaited = c.awaited) :
    Acknowledging settings d := by
  simp only [awaited, Prod.mk.injEq] at same
  obtain ⟨⟨receive, acknowledged⟩, t2, closed, reader⟩ := same
  obtain ⟨timeout, planned⟩ := acknowledging
  constructor
  · rwa [t2]
  · simpa only [IsOpen, AcknowledgementPlanned, receive, acknowledged, t2, closed, reader] using planned

private theorem kept {method : Body Unit} (acknowledging : Acknowledging settings c)
    (keeps : Keeps awaited method) : Always (Acknowledging settings) c method :=
  keeps.post fun _ same => acknowledging.congr same

theorem of_acknowledged
    (timeout : (c.timer .maxTimeNoAckSentTimer).timeout = settings.maxTimeNoAckSent)
    (acknowledged : c.receiveSequenceNumber = c.acknowledgedReceiveSequenceNumber) :
    Acknowledging settings c :=
  ⟨timeout, fun _ different => absurd acknowledged different⟩

theorem of_not_open
    (timeout : (c.timer .maxTimeNoAckSentTimer).timeout = settings.maxTimeNoAckSent)
    (shut : ¬ c.IsOpen) : Acknowledging settings c :=
  ⟨timeout, fun isOpen => absurd isOpen shut⟩

theorem left (timeout : (c.timer .maxTimeNoAckSentTimer).timeout = settings.maxTimeNoAckSent)
    (e : JavaException) : Acknowledging settings (c.left e) :=
  of_not_open timeout (by simp [IsOpen])

private theorem always_send (acknowledging : Acknowledging settings c) (aSdu : ASdu) :
    Always (Acknowledging settings) c (send settings aSdu) := by
  have timeout := acknowledging.timeout
  refine Post.seq (P := fun _ => Acknowledging settings) ?_ fun aPdu d acknowledging => ?_
  · rw [post_prepareSend]
    refine ⟨fun _ => acknowledging, fun _ => ⟨fun _ => acknowledging, fun _ => ⟨fun _ => ?_, fun _ => ?_⟩⟩⟩
    · rw [post_sendSFormatPdu]
      refine ⟨fun _ => of_acknowledged timeout rfl, fun _ => ⟨fun _ => of_acknowledged timeout rfl, fun _ => ?_⟩⟩
      exact of_acknowledged (by simpa using timeout) rfl
    · exact of_acknowledged (by simpa using timeout) rfl
  · refine acknowledging.kept fun c => ?_
    cases encoded : aPdu.encode settings c.buffer <;> simp [encode, encoded, awaited, timer]

private theorem post_sendSFormatIfUnconfirmedAPdu (bounded : Bounded settings c)
    (timeout : (c.timer .maxTimeNoAckSentTimer).timeout = settings.maxTimeNoAckSent) :
    Post (sendSFormatIfUnconfirmedAPdu settings) c
      (fun _ d => (d.timer .maxTimeNoAckSentTimer).timeout = settings.maxTimeNoAckSent ∧
        d.receiveSequenceNumber = d.acknowledgedReceiveSequenceNumber)
      (fun _ d => (d.timer .maxTimeNoAckSentTimer).timeout = settings.maxTimeNoAckSent ∧
        d.awaited = c.awaited) := by
  rw [Connection.post_sendSFormatIfUnconfirmedAPdu, post_sendSFormatPdu]
  refine ⟨fun _ => ⟨fun _ => ⟨timeout, rfl⟩, fun _ => ⟨fun _ => ⟨timeout, rfl⟩, fun _ => ⟨?_, rfl⟩⟩⟩,
    fun none => ⟨timeout, ?_⟩⟩
  · simpa using timeout
  · exact (sequenceNumberDiff_eq_zero bounded.receive_lt bounded.acknowledgedReceive_lt).mp none

private theorem acknowledgeReceived
    (timeout : (c.timer .maxTimeNoAckSentTimer).timeout = settings.maxTimeNoAckSent) :
    Post (acknowledgeReceived settings) c (fun _ d => Acknowledging settings d)
      (fun _ d => (d.timer .maxTimeNoAckSentTimer).timeout = settings.maxTimeNoAckSent) := by
  rw [post_acknowledgeReceived, post_sendSFormatPdu]
  refine ⟨fun _ => ⟨fun _ => timeout, fun _ => ⟨fun _ => timeout, fun _ => ?_⟩⟩, fun _ => ⟨?_, fun _ _ => ?_⟩⟩
  · exact of_acknowledged (by simpa using timeout) rfl
  · rw [timer, acknowledgementPlanned_timeoutManager]
    split
    · exact timeout
    · rwa [TimeoutManager.addTimerTask_timeout]
  · have positive : 0 < (c.timer .maxTimeNoAckSentTimer).timeout := by
      have range := settings.t2_range
      omega
    rw [timer, acknowledgementPlanned_timeoutManager]
    split
    case isTrue running => exact running.1
    case isFalse =>
      rw [TimeoutManager.addTimerTask_self]
      exact TimeoutTask.updateDueTime_isPlanned _ _ positive

private theorem handleIFrame (acknowledging : Acknowledging settings c) (bounded : Bounded settings c)
    (aPdu : ReceivedAPdu) :
    Post (handleIFrame settings aPdu.toAPdu) c (fun _ d => Acknowledging settings d)
      (fun _ d => (d.timer .maxTimeNoAckSentTimer).timeout = settings.maxTimeNoAckSent) := by
  have received := bounded.toCounting.received
  have timeout : (c.received.timer .maxTimeNoAckSentTimer).timeout = settings.maxTimeNoAckSent :=
    acknowledging.timeout
  refine Post.seq (P := fun _ d => Counting settings d ∧
    (d.timer .maxTimeNoAckSentTimer).timeout = settings.maxTimeNoAckSent) ?_ fun _ d between => ?_
  · rw [post_updateReceiveSeqNum, post_sendSFormatPdu]
    refine ⟨fun _ => timeout, fun _ => ⟨fun _ => ⟨fun _ => timeout, fun _ => ⟨fun _ => timeout, fun _ => ?_⟩⟩,
      fun _ => ⟨received, timeout⟩⟩⟩
    exact ⟨received.sFormatSent.toCounting, by simpa using timeout⟩
  obtain ⟨counting, timeout⟩ := between
  rw [post_bind, post_handleReceiveSequenceNumber counting aPdu.receiveSeqNum_lt]
  refine ⟨fun _ => ?_, fun _ => timeout⟩
  rw [post_bind, post_handOver]
  refine acknowledgeReceived ?_
  calc _ = ((d.acknowledged aPdu.receiveSeqNum).timer .maxTimeNoAckSentTimer).timeout := rfl
    _ = settings.maxTimeNoAckSent := by simpa using timeout

private theorem dispatch (acknowledging : Acknowledging settings c) (bounded : Bounded settings c)
    (aPdu : ReceivedAPdu) :
    Post (dispatch settings server aPdu.toAPdu) c (fun _ d => Acknowledging settings d)
      (fun _ d => (d.timer .maxTimeNoAckSentTimer).timeout = settings.maxTimeNoAckSent) := by
  have timeout := acknowledging.timeout
  have weaken {d : Connection} {method : Body Unit} (always : Always (Acknowledging settings) d method) :
      Post method d (fun _ d => Acknowledging settings d)
        (fun _ d => (d.timer .maxTimeNoAckSentTimer).timeout = settings.maxTimeNoAckSent) :=
    always.mono (fun _ _ acknowledging => acknowledging) fun _ _ acknowledging => acknowledging.timeout
  apply Dispatches.post
  constructor
  case refused => exact fun _ => timeout
  case handleIFrame => exact fun _ => acknowledging.handleIFrame bounded aPdu
  case handleSFormat =>
    intro _
    rw [post_handleReceiveSequenceNumber bounded.toCounting aPdu.receiveSeqNum_lt]
    refine ⟨fun inside => ?_, fun _ => timeout⟩
    have acknowledged : Acknowledging settings (c.acknowledged aPdu.receiveSeqNum) :=
      acknowledging.congr (by simp [awaited])
    refine ⟨fun _ => acknowledged, fun object _ => weaken (acknowledged.kept fun c => ?_)⟩
    simp [post_executeManually, execute, sendStopDtCon, awaited, timer]
  case handleStartDtAct =>
    intro _
    refine weaken (acknowledging.kept fun c => ?_)
    cases c.aSduListener <;> simp [handleStartDtAct, awaited, timer]
  case handleStopDtAct =>
    intro _
    rw [post_handleStopDtAct]
    have requested : Bounded settings c.stopRequested := bounded.congr rfl
    refine (post_sendSFormatIfUnconfirmedAPdu requested (by simpa using timeout)).mono
      (fun _ d sent => ?_) fun _ _ sent => sent.1
    obtain ⟨timeout, acknowledged⟩ := sent
    refine ⟨fun _ => of_acknowledged (by simpa using timeout) acknowledged, fun _ => ?_⟩
    refine weaken ((of_acknowledged timeout acknowledged).kept fun c => ?_)
    simp [sendStopDtCon, awaited, timer]
  case sendTestFrameCon =>
    refine weaken (acknowledging.kept fun c => ?_)
    simp [Connection.sendTestFrameCon, awaited, timer]
  case cancelTestCon => exact fun _ => acknowledging.congr (by simp [awaited, timer])
  case countDown => exact fun _ => acknowledging.congr rfl

private theorem always_acknowledge (acknowledging : Acknowledging settings c)
    (kept : c.AcknowledgementKept (.fire .maxTimeNoAckSentTimer)) :
    Always (Acknowledging settings) c (executeManually settings .maxTimeNoAckSentTimer) := by
  -- The t2 timer is done when it has fired, so its S frame has to go out.
  have done {d : Connection}
      (timeout : (d.timer .maxTimeNoAckSentTimer).timeout = settings.maxTimeNoAckSent)
      (acknowledged : d.IsOpen → d.receiveSequenceNumber = d.acknowledgedReceiveSequenceNumber) :
      Always (Acknowledging settings) d (setDone .maxTimeNoAckSentTimer) := by
    rw [Always, post_setDone]
    refine ⟨?_, fun isOpen different => absurd (acknowledged isOpen) different⟩
    simpa [timer] using timeout
  rw [Always, post_executeManually]
  refine ⟨fun _ => acknowledging, fun _ => ?_⟩
  have failing (fails : c.ioFails c.ioCalls = true ∨ c.ioFails (c.ioCalls + 1) = true)
      (isOpen : c.IsOpen) : c.receiveSequenceNumber = c.acknowledgedReceiveSequenceNumber := by
    rcases kept isOpen with acknowledged | ⟨first, second⟩
    · exact acknowledged
    · simp [first, second] at fails
  rw [execute, post_ignoringIOException, post_sendSFormatPdu]
  have ignored {P : Prop} (other : ioFailure.isIOException = false) : P :=
    absurd other (by simp)
  refine ⟨fun first => ⟨fun _ => ?_, ignored⟩, fun _ => ⟨fun second => ⟨fun _ => ?_, ignored⟩, fun _ => ?_⟩⟩
  · exact done acknowledging.timeout (failing (.inl first))
  · refine done acknowledging.timeout fun isOpen => failing ?_ isOpen
    rcases second with second | closed
    · exact .inr second
    · simp [IsOpen, closed] at isOpen
  · exact done (by simpa using acknowledging.timeout) fun _ => rfl

private theorem always_close (acknowledging : Acknowledging settings c) (id : TimerId)
    (closes : id = .maxTimeNoTestConReceived ∨ id = .maxTimeNoAckReceived) :
    Always (Acknowledging settings) c (executeManually settings id) := by
  have shut {d : Connection}
      (timeout : (d.timer .maxTimeNoAckSentTimer).timeout = settings.maxTimeNoAckSent)
      (closed : d.closed = true) : Always (Acknowledging settings) d (setDone id) := by
    rw [Always, post_setDone]
    refine of_not_open ?_ (by simp [IsOpen, closed])
    rcases closes with rfl | rfl <;> simpa [timer] using timeout
  rw [Always, post_executeManually, post_execute_close closes, post_close]
  exact ⟨fun _ => acknowledging, fun _ => ⟨fun closed => shut acknowledging.timeout closed, fun _ =>
    shut acknowledging.timeout rfl⟩⟩

theorem preserves : Preserves settings server
    (fun c action => c.AcknowledgementKept action ∧ Bounded settings c) (Acknowledging settings) where
  progress _ _ acknowledging := acknowledging.congr rfl
  callEnds _ _ acknowledging _ := acknowledging.congr rfl
  tick _ _ acknowledging := acknowledging.congr rfl
  send _ aSdu acknowledging _ _ := acknowledging.always_send aSdu
  receive _ aPdu acknowledging meets _ :=
    (acknowledging.dispatch meets.2 aPdu).mono
      (fun _ _ acknowledging => acknowledging.congr (by simp [awaited])) fun e _ timeout => left timeout e
  readFailure _ e acknowledging _ := left acknowledging.timeout e
  endReader c acknowledging _ _ := by
    rw [Always, post_endReader, post_close]
    exact ⟨fun _ => of_not_open acknowledging.timeout (by simp [IsOpen]), fun _ =>
      of_not_open acknowledging.timeout (by simp [IsOpen])⟩
  fire c id acknowledging meets := by
    have dequeued : Acknowledging settings (c.dequeued id) := acknowledging.congr rfl
    rw [Always, post_fire]
    cases id with
    | maxTimeNoAckSentTimer => exact dequeued.always_acknowledge meets.1
    | maxTimeNoTestConReceived => exact dequeued.always_close _ (.inl rfl)
    | maxTimeNoAckReceived => exact dequeued.always_close _ (.inr rfl)
    | maxIdleTimeTimer =>
      refine dequeued.kept fun c => ?_
      simp [post_executeManually, execute, awaited, timer]
    | stopDtOutstandingSFormatTimer object =>
      refine dequeued.kept fun c => ?_
      simp [post_executeManually, execute, sendStopDtCon, awaited, timer]
  runTask _ _ acknowledging _ _ := (post_runTask _).mpr (acknowledging.congr rfl)
  setConnectionListener _ _ acknowledging _ := acknowledging.congr rfl
  close c acknowledging := by
    rw [Always, post_close]
    exact ⟨fun _ => acknowledging, fun _ => of_not_open acknowledging.timeout (by simp [IsOpen])⟩
  writeStartDtAct _ acknowledging := acknowledging.kept fun c => by
    simp [Connection.writeStartDtAct, newStartDtConSignal, awaited, timer]
  register _ _ _ acknowledging _ _ := acknowledging.kept fun c => by
    simp [Connection.register, awaited, timer]
  beginStop _ _ acknowledging _ := acknowledging.kept fun c => by
    simp [Connection.beginStop, awaited, timer]
  confirm c _ acknowledging _ _ := by
    rw [Always, Connection.post_sendSFormatIfUnconfirmedAPdu, post_sendSFormatPdu]
    refine ⟨fun _ => ⟨fun _ => acknowledging.congr rfl, fun _ => ⟨fun _ => acknowledging.congr rfl, fun _ =>
      ?_⟩⟩, fun _ => acknowledging⟩
    exact of_acknowledged (by simpa using acknowledging.timeout) rfl
  cancelT2 c thread acknowledging meets call := by
    have timeout : ((c.cancelledIfPlanned .maxTimeNoAckSentTimer).timer .maxTimeNoAckSentTimer).timeout =
        settings.maxTimeNoAckSent := by simpa using acknowledging.timeout
    rw [Always, post_cancelIfPlanned]
    by_cases isOpen : c.IsOpen
    · exact of_acknowledged timeout (meets.1 isOpen call)
    · exact of_not_open timeout isOpen
  writeStopDtAct _ acknowledging := acknowledging.kept fun c => by
    simp [Connection.writeStopDtAct, newStopDtConSignal, awaited, timer]
  finishStop _ _ acknowledging _ _ := acknowledging.congr rfl

end Acknowledging

theorem Acknowledging.started (ioFails : Nat → Bool) (now : Nat) :
    Acknowledging settings (started settings ioFails now) :=
  of_acknowledged (by simp [Connection.started, timer, newTimers]) rfl

private theorem Acknowledging.of_run {actions : List Action} {ioFails : Nat → Bool} {now : Nat}
    (run : Run (Run.Guarded AcknowledgementKept (Step settings server))
      (Connection.started settings ioFails now) actions c) :
    Acknowledging settings c :=
  Bounded.run preserves run (.started ioFails now)

/-- In a run in which `stopDataTransfer` never cancels the t2 timer over a frame received
since it acknowledged, and in which no S frame of that timer fails to go out, the open
connection has the acknowledgement of every received I frame on its way. -/
theorem acknowledgement_planned {actions : List Action} {ioFails : Nat → Bool} {now : Nat}
    (run : Run (Run.Guarded AcknowledgementKept (Step settings server))
      (started settings ioFails now) actions c)
    (isOpen : c.IsOpen)
    (unacknowledged : c.receiveSequenceNumber ≠ c.acknowledgedReceiveSequenceNumber) :
    (c.timer .maxTimeNoAckSentTimer).isPlanned = true :=
  (Acknowledging.of_run run).planned isOpen unacknowledged

/-- A frame that comes once the timer is cancelled is acknowledged in time. -/
def sampleStopBetweenFrames : List Action :=
  sampleStart ++ [.receive (sampleIFormat 0 0), .stopDataTransfer 0, .proceed 0, .proceed 0,
    .receive (sampleIFormat 1 0)]

theorem acknowledgement_planned_sample :
    ∃ c, Run (Run.Guarded AcknowledgementKept (Step {} false)) (started {} (fun _ => false) 0)
        sampleStopBetweenFrames c ∧
      c.receiveSequenceNumber = 2 ∧ c.acknowledgedReceiveSequenceNumber = 1 ∧
      (c.timer .maxTimeNoAckSentTimer).isPlanned = true := by
  have meets : RunMeets {} false AcknowledgementKept (started {} (fun _ => false) 0)
      sampleStopBetweenFrames := by
    have other {P Q : Prop} {call : Call} (different : call ≠ .stopConfirmed) : P → call = .stopConfirmed → Q :=
      fun _ same => absurd same different
    refine .intro trivial <| .intro (other (by decide)) <| .intro trivial <|
      .intro (other (by decide)) <| .intro (other (by decide)) <| ?_
    exact .intro trivial <| .intro trivial <| .intro (other (by decide)) <|
      .intro (fun _ _ => rfl) <| .intro trivial trivial
  have run : Run (Run.Guarded AcknowledgementKept (Step {} false)) (started {} (fun _ => false) 0)
      sampleStopBetweenFrames (sampleState false sampleStopBetweenFrames) := guarded_of_runActions rfl meets
  exact ⟨_, run, rfl, rfl, acknowledgement_planned run ⟨rfl, rfl⟩ (by decide)⟩

/-- A frame received between the S frame and the cancelling of the timer stays without an
acknowledgement. -/
theorem not_acknowledgement_planned :
    ∃ c, Run (Step {} false) (started {} (fun _ => false) 0)
        (sampleStart ++ [.receive (sampleIFormat 0 0), .stopDataTransfer 0, .proceed 0,
          .receive (sampleIFormat 1 0), .proceed 0]) c ∧
      c.IsOpen ∧ c.receiveSequenceNumber = 2 ∧ c.acknowledgedReceiveSequenceNumber = 1 ∧
      (c.timer .maxTimeNoAckSentTimer).isPlanned = false :=
  ⟨_, run_of_runActions rfl, ⟨rfl, rfl⟩, rfl, rfl, rfl⟩

end Connection

end J60870
