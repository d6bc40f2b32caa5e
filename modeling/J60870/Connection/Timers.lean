import J60870.Connection.Windows

namespace J60870

open Lib Method

namespace Connection

variable {settings : ConnectionSettings} {server : Bool} {c d : Connection} {taken : Option TimerId}

/-- Unless some call of `addTimerTask` has lost a timer, every planned timer is in the
queue, the one the manager has taken apart. -/
def TimersQueued (taken : Option TimerId) (c : Connection) : Prop := c.timeoutManager.Queued taken

namespace TimersQueued

theorem congr (queued : TimersQueued taken c) (same : d.timeoutManager = c.timeoutManager) :
    TimersQueued taken d := by
  rwa [TimersQueued, same]

private theorem kept {method : Body Unit} (queued : TimersQueued taken c)
    (keeps : Keeps timeoutManager method) : Always (TimersQueued taken) c method :=
  keeps.post fun _ same => queued.congr same

theorem idleTimeReset (queued : TimersQueued taken c) : TimersQueued taken c.idleTimeReset :=
  (queued.cancel _).addTimerTask _ _

theorem cancelledIfPlanned (queued : TimersQueued taken c) (id : TimerId) :
    TimersQueued taken (c.cancelledIfPlanned id) := by
  rw [TimersQueued, cancelledIfPlanned_timeoutManager]
  split
  · exact queued.cancel id
  · exact queued

private theorem armed (queued : TimersQueued taken c) : TimersQueued taken c.armed := by
  rw [TimersQueued, armed_timeoutManager]
  split
  · exact queued.cancelledIfPlanned _
  · exact (queued.cancelledIfPlanned _).addTimerTask _ _

private theorem acknowledged (queued : TimersQueued taken c) (receiveSeqNumber : Nat) :
    TimersQueued taken (c.acknowledged receiveSeqNumber) := by
  rw [TimersQueued, acknowledged_timeoutManager, acknowledgedTimers]
  split
  · exact queued
  · have cancelled := queued.cancelledIfPlanned .maxTimeNoAckReceived
    by_cases all : c.sendSequenceNumber = receiveSeqNumber
    · rw [if_neg (not_not.mpr all)]
      exact cancelled
    · rw [if_pos all]
      exact cancelled.addTimerTask _ _

private theorem acknowledgementPlanned (queued : TimersQueued taken c) :
    TimersQueued taken c.acknowledgementPlanned := by
  rw [TimersQueued, acknowledgementPlanned_timeoutManager]
  split
  · exact queued
  · exact queued.addTimerTask _ _

private theorem stopDeferred (queued : TimersQueued taken c) : TimersQueued taken c.stopDeferred := by
  rw [TimersQueued, stopDeferred_timeoutManager]
  exact (queued.set _ rfl).addTimerTask _ _

private theorem always_sendSFormatPdu (queued : TimersQueued taken c) :
    Always (TimersQueued taken) c (sendSFormatPdu settings) := by
  rw [Always, post_sendSFormatPdu]
  exact ⟨fun _ => queued, fun _ => ⟨fun _ => queued, fun _ => queued.idleTimeReset⟩⟩

private theorem always_sendSFormatIfUnconfirmedAPdu (queued : TimersQueued taken c) :
    Always (TimersQueued taken) c (sendSFormatIfUnconfirmedAPdu settings) := by
  rw [Always, post_sendSFormatIfUnconfirmedAPdu]
  refine ⟨fun _ => ?_, fun _ => queued⟩
  exact queued.always_sendSFormatPdu.mono (fun _ _ queued => queued.cancelledIfPlanned _)
    fun _ _ queued => queued

private theorem always_send (queued : TimersQueued taken c) (aSdu : ASdu) :
    Always (TimersQueued taken) c (send settings aSdu) := by
  apply Post.seq (P := fun _ => TimersQueued taken)
  · rw [post_prepareSend]
    refine ⟨fun _ => queued, fun _ => ⟨fun _ => queued, fun _ => ?_⟩⟩
    have numbered : TimersQueued taken c.numbered := queued
    constructor
    · intro _
      exact numbered.always_sendSFormatPdu.mono (fun _ _ queued => queued.armed) fun _ _ queued => queued
    · exact fun _ => numbered.armed
  · intro aPdu d queued
    apply Post.seq (queued.kept (keeps_encode (fun _ _ => rfl) aPdu))
    intro _ d queued
    simp only [post_bind, post_write, post_flush, post_resetMaxIdleTimeTimer]
    have reset := queued.idleTimeReset
    exact ⟨fun _ => queued, fun _ => ⟨fun _ => queued, fun _ => reset⟩⟩

private theorem always_execute (queued : TimersQueued taken c) (id : TimerId) :
    Always (TimersQueued taken) c (execute settings id) := by
  cases id with
  | maxTimeNoTestConReceived => exact queued.kept fun c => by simp [execute]
  | maxTimeNoAckReceived => exact queued.kept fun c => by simp [execute]
  | maxTimeNoAckSentTimer =>
    rw [Always, execute, post_ignoringIOException]
    exact queued.always_sendSFormatPdu.mono (fun _ _ queued => queued)
      fun _ _ queued => ⟨fun _ => queued, fun _ => queued⟩
  | maxIdleTimeTimer =>
    have tested : Always (TimersQueued taken) c (ignoringIOException do
        write (unnumbered .TESTFR_ACT)
        flush) := queued.kept fun c => by simp
    exact Post.seq tested fun _ d queued => queued.addTimerTask _ _
  | stopDtOutstandingSFormatTimer object =>
    exact queued.kept fun c => by simp [execute, sendStopDtCon]

private theorem done (queued : TimersQueued taken c) (id : TimerId) :
    (c.timeoutManager.set id { c.timer id with done := true }).Queued taken :=
  queued.set id (by simp [TimeoutTask.isPlanned])

private theorem always_executeManually (queued : TimersQueued taken c) (id : TimerId) :
    Always (TimersQueued taken) c (executeManually settings id) := by
  rw [Always, post_executeManually]
  refine ⟨fun _ => queued, fun _ =>
    (queued.always_execute id).mono (fun _ d queued => ?_) fun _ d queued => ?_⟩
  · exact queued.done id
  · exact queued.done id

private theorem always_fire (queued : TimersQueued none c) (id : TimerId) :
    Always (TimersQueued none) c (fire settings id) := by
  have dequeued : TimersQueued (some id) (c.dequeued id) := queued.take id
  have finished (d : Connection) (queued : TimersQueued (some id) d) :
      (d.timeoutManager.set id { d.timer id with done := true }).Queued none :=
    (queued.done id).back (by simp [TimeoutTask.isPlanned])
  rw [Always, post_fire, post_executeManually]
  refine ⟨fun canceled => ?_, fun _ =>
    (dequeued.always_execute id).mono (fun _ d queued => ?_) fun _ d queued => ?_⟩
  · apply dequeued.back
    rw [timer] at canceled
    rw [TimeoutTask.isPlanned, canceled]
    rfl
  · exact finished d queued
  · exact finished d queued

private theorem always_acknowledgeReceived (queued : TimersQueued taken c) :
    Always (TimersQueued taken) c (acknowledgeReceived settings) := by
  rw [Always, post_acknowledgeReceived]
  refine ⟨fun _ => ?_, fun _ => queued.acknowledgementPlanned⟩
  exact queued.always_sendSFormatPdu.mono (fun _ _ queued => queued.cancelledIfPlanned _)
    fun _ _ queued => queued

private theorem handleIFrame (queued : TimersQueued taken c) (counting : Counting settings c)
    (aPdu : ReceivedAPdu) : Always (TimersQueued taken) c (handleIFrame settings aPdu.toAPdu) := by
  have counted : Always (TimersQueued taken) c (updateReceiveSeqNum settings aPdu.sendSeqNum) := by
    rw [Always, post_updateReceiveSeqNum]
    have received : TimersQueued taken c.received := queued
    exact ⟨fun _ => queued, fun _ => ⟨fun _ => received.always_sendSFormatPdu, fun _ => received⟩⟩
  have between := counted.and (counting.always_updateReceiveSeqNum aPdu.sendSeqNum)
  refine Post.seq (between.mono (fun _ _ both => both) fun _ _ both => both.1) ?_
  rintro _ d ⟨queued, counting⟩
  rw [post_bind, post_handleReceiveSequenceNumber counting aPdu.receiveSeqNum_lt]
  refine ⟨fun _ => ?_, fun _ => queued⟩
  have acknowledged := queued.acknowledged aPdu.receiveSeqNum
  have handed := acknowledged.kept (fun c => (post_handOver aPdu.aSdu).mpr rfl)
  exact Post.seq handed fun _ _ queued => queued.always_acknowledgeReceived

private theorem always_handleStopDtAct (queued : TimersQueued taken c) :
    Always (TimersQueued taken) c (handleStopDtAct settings) := by
  have requested : TimersQueued taken c.stopRequested := queued.cancelledIfPlanned _
  rw [Always, post_handleStopDtAct]
  refine requested.always_sendSFormatIfUnconfirmedAPdu.mono (fun _ d queued => ?_) fun _ _ queued => queued
  exact ⟨fun _ => queued.stopDeferred, fun _ => queued.kept fun c => by simp [sendStopDtCon]⟩

private theorem always_dispatch (queued : TimersQueued taken c) (counting : Counting settings c)
    (aPdu : ReceivedAPdu) : Always (TimersQueued taken) c (dispatch settings server aPdu.toAPdu) := by
  apply Dispatches.post
  constructor
  case refused => exact fun _ => queued
  case handleIFrame => exact fun _ => queued.handleIFrame counting aPdu
  case handleSFormat =>
    intro _
    rw [post_handleReceiveSequenceNumber counting aPdu.receiveSeqNum_lt]
    have acknowledged := queued.acknowledged aPdu.receiveSeqNum
    exact ⟨fun _ => ⟨fun _ => acknowledged, fun object _ => acknowledged.always_executeManually _⟩,
      fun _ => queued⟩
  case handleStartDtAct =>
    intro _
    rw [post_handleStartDtAct]
    have confirmed : TimersQueued taken c.startConfirmed := queued
    exact ⟨fun _ => queued, fun _ => ⟨fun _ => confirmed, fun _ => confirmed.idleTimeReset⟩⟩
  case handleStopDtAct => exact fun _ => queued.always_handleStopDtAct
  case sendTestFrameCon => exact queued.kept fun c => by simp [Connection.sendTestFrameCon]
  case cancelTestCon => exact fun _ => queued.cancel _
  case countDown => exact fun _ => queued

theorem preserves : Preserves settings server (fun c _ => True ∧ Bounded settings c) (TimersQueued none) where
  progress _ _ queued := queued
  callEnds _ _ queued _ := queued
  tick _ _ queued := queued
  send _ aSdu queued _ _ := queued.always_send aSdu
  receive _ aPdu queued meets _ :=
    (queued.always_dispatch meets.2.toCounting aPdu).mono (fun _ _ queued => queued.idleTimeReset)
      fun _ _ queued => queued
  readFailure _ _ queued _ := queued
  endReader _ queued _ _ := queued.kept fun c => by simp [post_endReader]
  fire _ id queued _ := queued.always_fire id
  runTask _ _ queued _ _ := (post_runTask _).mpr queued
  setConnectionListener _ _ queued _ := queued
  close _ queued := queued.kept fun c => by simp
  writeStartDtAct _ queued := queued.kept fun c => by simp [Connection.writeStartDtAct, newStartDtConSignal]
  register _ _ _ queued _ _ := queued.kept fun c => by simp [Connection.register]
  beginStop _ _ queued _ := queued.kept fun c => by simp [Connection.beginStop]
  confirm _ _ queued _ _ := queued.always_sendSFormatIfUnconfirmedAPdu
  cancelT2 _ _ queued _ _ := (post_cancelIfPlanned _).mpr (queued.cancelledIfPlanned _)
  writeStopDtAct _ queued := queued.kept fun c => by simp [Connection.writeStopDtAct, newStopDtConSignal]
  finishStop _ _ queued _ _ := queued

end TimersQueued

theorem TimersQueued.started (ioFails : Nat → Bool) (now : Nat) :
    TimersQueued none (started settings ioFails now) := by
  have idle : (newTimers settings).Queued none := by
    intro _ id _ planned
    cases id <;> simp [newTimers, TimeoutTask.isPlanned] at planned
  exact idle.addTimerTask now .maxIdleTimeTimer

private theorem post_fire_done (id : TimerId) (live : (c.timer id).canceled = false) :
    Always (fun d => (d.timer id).done = true) c (fire settings id) := by
  have finished (d : Connection) : ((d.timeoutManager.set id { d.timer id with done := true }).task id).done =
      true := by simp
  rw [Always, post_fire, post_executeManually]
  refine ⟨fun canceled => ?_, fun _ => ?_⟩
  · rw [timer] at live canceled
    exact absurd (canceled.symm.trans live) Bool.noConfusion
  · have runs : Post (execute settings id) (c.dequeued id) (fun _ _ => True) (fun _ _ => True) := by
      unfold Post
      cases execute settings id (c.dequeued id) <;> trivial
    exact runs.mono (fun _ d _ => finished d) fun _ d _ => finished d

/-- Arming a timer puts it into the queue once, and loses no other timer exactly if none in
the queue equals it then. Where this was so at every call, a timer that is planned is in
the queue, and the manager runs it when it is due. -/
theorem arming_loses_no_timer {actions : List Action} {ioFails : Nat → Bool} {now : Nat}
    (run : Run (Step settings server) (started settings ioFails now) actions c) :
    (∀ {ι : Type} [DecidableEq ι] (manager : TimeoutManager ι) (currentTimeMillis : Nat) (id : ι),
      (manager.addTimerTask currentTimeMillis id).queue.count id = 1 ∧
      ((∀ other ∈ manager.queue, other ≠ id →
        other ∈ (manager.addTimerTask currentTimeMillis id).queue) ↔
        (manager.arming currentTimeMillis id).Alone)) ∧
    ((∀ arming ∈ c.timeoutManager.armings, arming.Alone) →
      ∀ id, (c.timer id).isPlanned = true → id ∈ c.timeoutManager.queue ∧
        (managerRuns settings c = true → ∀ milliseconds : Nat,
          (c.timer id).dueTime ≤ c.currentTimeMillis + milliseconds →
          ∃ d e, Step settings server c (.tick milliseconds) d ∧ Step settings server d (.fire id) e ∧
            (e.timer id).done = true)) := by
  constructor
  · intro ι _ manager currentTimeMillis id
    exact ⟨manager.count_addTimerTask currentTimeMillis id,
      manager.addTimerTask_keeps_iff currentTimeMillis id⟩
  · intro alone id planned
    have queued : TimersQueued none c :=
      Bounded.run TimersQueued.preserves (run.guarded fun _ _ => trivial) (.started ioFails now)
    have member := queued alone id (by simp) planned
    refine ⟨member, fun runs milliseconds due => ?_⟩
    have live : (c.timer id).canceled = false := by
      simp only [TimeoutTask.isPlanned, Bool.and_eq_true, Bool.not_eq_true'] at planned
      exact planned.1.1
    let d : Connection := { c with currentTimeMillis := c.currentTimeMillis + milliseconds }
    have found : body settings server d (.fire id) = some (fire settings id) :=
      if_pos ⟨member, due, runs⟩
    refine ⟨d, (fire settings id).outcome d, rfl, congrArg (Option.map _) found, ?_⟩
    exact (post_fire_done (c := d) id live).outcome (P := fun e : Connection => (e.timer id).done = true)

/-- The two timers of a stream that is used: t1 for the frame sent, and t3 anew. -/
theorem arming_loses_no_timer_sample :
    ∃ c, Run (Step {} true) (started {} (fun _ => false) 0)
        [.receive (sampleUnnumbered .STARTDT_ACT), .send sampleCommand] c ∧
      TimerId.maxTimeNoAckReceived ∈ c.timeoutManager.queue ∧ .maxIdleTimeTimer ∈ c.timeoutManager.queue := by
  have run : Run (Step {} true) (started {} (fun _ => false) 0)
      [.receive (sampleUnnumbered .STARTDT_ACT), .send sampleCommand]
      (sampleState true [.receive (sampleUnnumbered .STARTDT_ACT), .send sampleCommand]) :=
    run_of_runActions rfl
  obtain ⟨-, queued⟩ := arming_loses_no_timer run
  have alone : ∀ arming ∈ (sampleState true [.receive (sampleUnnumbered .STARTDT_ACT),
      .send sampleCommand]).timeoutManager.armings, arming.Alone := by
    decide +kernel
  exact ⟨_, run, (queued alone _ rfl).1, (queued alone _ rfl).1⟩

/-- With t1 = t3 a command arms t1, and t3 in the same millisecond: t3 takes the place of t1
in the queue, and nobody will miss the acknowledgement. -/
theorem not_arming_loses_no_timer :
    ∃ c, Run (Step { maxIdleTime := 15000 } true) (started { maxIdleTime := 15000 } (fun _ => false) 0)
        [.receive (sampleUnnumbered .STARTDT_ACT), .send sampleCommand] c ∧
      c.IsOpen ∧ (c.timer .maxTimeNoAckReceived).isPlanned = true ∧
      c.timeoutManager.queue = [.maxIdleTimeTimer] :=
  ⟨_, run_of_runActions rfl, ⟨rfl, rfl⟩, rfl, rfl⟩

end Connection

end J60870
