import J60870.Connection.TimerSide
import J60870.Connection.Timers
import J60870.Connection.Unwrapped

namespace J60870

open Lib Method

/-- The timeouts of the timers that a connection has from the start. -/
def TimerId.limit (settings : ConnectionSettings) : TimerId → Option Nat
  | .maxTimeNoTestConReceived | .maxTimeNoAckReceived => some settings.maxTimeNoAckReceived
  | .maxIdleTimeTimer => some settings.maxIdleTime
  | .maxTimeNoAckSentTimer => some settings.maxTimeNoAckSent
  | .stopDtOutstandingSFormatTimer _ => none

theorem TimerId.limit_pos {settings : ConnectionSettings} {id : TimerId} {timeout : Nat}
    (limited : id.limit settings = some timeout) : 0 < timeout := by
  have t1 := settings.t1_range
  have t2 := settings.t2_range
  have t3 := settings.t3_range
  cases id <;> simp only [limit, Option.some.injEq, reduceCtorEq] at limited <;> omega

namespace Connection

variable {settings : ConnectionSettings} {server : Bool} {c d : Connection}

/-- No timer is due later than its timeout from now. -/
def Timely (settings : ConnectionSettings) (c : Connection) : Prop :=
  ∀ id (limit : Nat), id.limit settings = some limit →
    (c.timer id).timeout = limit ∧ (c.timer id).dueTime ≤ c.currentTimeMillis + limit

namespace Timely

theorem congr (timely : Timely settings c) (same : d.timer = c.timer)
    (later : c.currentTimeMillis ≤ d.currentTimeMillis := by exact Nat.le_refl _) : Timely settings d := by
  intro id limit limited
  obtain ⟨timeout, due⟩ := timely id limit limited
  rw [same]
  exact ⟨timeout, by omega⟩

private theorem set (timely : Timely settings c) {timeoutManager : TimeoutManager TimerId} (id : TimerId)
    (others : ∀ other, other ≠ id → timeoutManager.task other = c.timer other)
    (own : ∀ limit : Nat, id.limit settings = some limit → (timeoutManager.task id).timeout = limit ∧
      (timeoutManager.task id).dueTime ≤ c.currentTimeMillis + limit) :
    Timely settings { c with timeoutManager := timeoutManager } := by
  intro other limit limited
  by_cases same : other = id
  · subst same
    exact own limit limited
  · rw [timer, others other same]
    exact timely other limit limited

theorem addTimerTask (timely : Timely settings c) (id : TimerId) :
    Timely settings { c with timeoutManager := c.timeoutManager.addTimerTask c.currentTimeMillis id } := by
  refine timely.set id (fun _ => TimeoutManager.addTimerTask_other _ _ _ _) fun limit limited => ?_
  have timeout := (timely id limit limited).1
  rw [timer] at timeout
  rw [TimeoutManager.addTimerTask_self, TimeoutTask.updateDueTime]
  exact ⟨timeout, by simp only [timeout]; omega⟩

theorem cancel (timely : Timely settings c) (id : TimerId) :
    Timely settings { c with timeoutManager := c.timeoutManager.cancel id } := by
  refine timely.set id (fun _ => TimeoutManager.cancel_other _ _ _) fun limit limited => ?_
  rw [TimeoutManager.cancel_self]
  exact timely id limit limited

theorem cancelledIfPlanned (timely : Timely settings c) (id : TimerId) :
    Timely settings (c.cancelledIfPlanned id) := by
  rw [Connection.cancelledIfPlanned]
  split
  · exact timely.cancel id
  · exact timely

theorem idleTimeReset (timely : Timely settings c) : Timely settings c.idleTimeReset :=
  (timely.cancel .maxIdleTimeTimer).addTimerTask .maxIdleTimeTimer

theorem done (timely : Timely settings c) (id : TimerId) :
    Timely settings { c with timeoutManager := c.timeoutManager.set id { c.timer id with done := true } } := by
  refine timely.set id (fun _ => TimeoutManager.set_other _ _ _ _) fun limit limited => ?_
  rw [TimeoutManager.set_self]
  exact timely id limit limited

private theorem acknowledged (timely : Timely settings c) (receiveSeqNumber : Nat) :
    Timely settings (c.acknowledged receiveSeqNumber) := by
  have cancelled := timely.cancelledIfPlanned .maxTimeNoAckReceived
  have same : (c.acknowledged receiveSeqNumber).timer = (c.acknowledgedTimers receiveSeqNumber).task := rfl
  rw [acknowledgedTimers] at same
  split at same
  · exact timely.congr same
  · by_cases all : c.sendSequenceNumber = receiveSeqNumber
    · rw [if_neg (not_not.mpr all)] at same
      exact cancelled.congr same
    · rw [if_pos all] at same
      exact (cancelled.addTimerTask .maxTimeNoAckReceived).congr same

theorem invariant : TimerInvariant settings True True (Timely settings) where
  congr _ _ timely same := by
    obtain ⟨timers, now, -⟩ : _ ∧ _ ∧ _ := by simpa only [timerSide, Prod.mk.injEq] using same
    exact timely.congr (funext fun id => by rw [timer, timer, timers]) now.ge
  tick _ _ timely := timely.congr rfl (Nat.le_add_right _ _)
  plan _ id timely _ _ := timely.addTimerTask id
  cancel _ id timely _ := timely.cancel id
  finish _ id timely _ := timely.done id
  create _ object _ timely := timely.set (.stopDtOutstandingSFormatTimer object)
    (fun _ => TimeoutManager.set_other _ _ _ _) nofun
  dequeue _ _ timely := timely.congr rfl
  number _ timely _ _ := timely.congr rfl
  arm _ timely _ := timely.addTimerTask .maxTimeNoAckReceived
  acknowledge _ receiveSeqNumber timely _ _ _ := timely.acknowledged receiveSeqNumber
  close _ timely _ := timely.congr rfl

end Timely

def TestPlanned (c : Connection) : Prop := (c.timer .maxTimeNoTestConReceived).isPlanned = true

/-- The timer that starts a test, or the one that waits for its answer. -/
def Tested (c : Connection) : Prop := (c.timer .maxIdleTimeTimer).isPlanned = true ∨ TestPlanned c

/-- All timers are timely, and as long as the connection is open one of the two is planned. -/
structure Watched (settings : ConnectionSettings) (c : Connection) : Prop where
  timely : Timely settings c
  tested : c.closed = false → c.reader = .running → Tested c

namespace Watched

def watch (c : Connection) : (TimerId → TimeoutTask) × Nat × Bool × ReaderState :=
  (c.timeoutManager.task, c.currentTimeMillis, c.closed, c.reader)

theorem congr (watched : Watched settings c) (same : watch d = watch c) : Watched settings d := by
  simp only [watch, Prod.mk.injEq] at same
  obtain ⟨timers, now, closed, reader⟩ := same
  refine ⟨watched.timely.congr timers now.ge, ?_⟩
  rw [closed, reader, Tested, TestPlanned, timer, timer, timers]
  exact watched.tested

private theorem kept {method : Body Unit} (watched : Watched settings c) (keeps : Keeps watch method) :
    Always (Watched settings) c method :=
  keeps.post fun _ same => watched.congr same

private theorem addTimerTask (watched : Watched settings c) (id : TimerId) :
    Watched settings { c with timeoutManager := c.timeoutManager.addTimerTask c.currentTimeMillis id } := by
  refine ⟨watched.timely.addTimerTask id, fun isOpen running => ?_⟩
  have stays {other : TimerId} (limited : (other.limit settings).isSome)
      (planned : (c.timer other).isPlanned = true) :
      ((c.timeoutManager.addTimerTask c.currentTimeMillis id).task other).isPlanned = true := by
    by_cases same : other = id
    · subst same
      obtain ⟨timeout, limited⟩ := Option.isSome_iff_exists.mp limited
      have value := (watched.timely other timeout limited).1
      rw [timer] at value
      rw [TimeoutManager.addTimerTask_self]
      exact TimeoutTask.updateDueTime_isPlanned _ _ (by
        have positive := TimerId.limit_pos limited
        omega)
    · rwa [TimeoutManager.addTimerTask_other _ _ _ _ same]
  exact (watched.tested isOpen running).imp (stays rfl) (stays rfl)

private theorem of_left (timely : Timely settings c) (left : c.reader ≠ .running) : Watched settings c :=
  ⟨timely, fun _ running => absurd running left⟩

theorem idleTimeReset (timely : Timely settings c) : Watched settings c.idleTimeReset := by
  refine ⟨timely.idleTimeReset, fun _ _ => .inl ?_⟩
  have value := (timely .maxIdleTimeTimer _ rfl).1
  have range := settings.t3_range
  rw [timer] at value
  rw [timer, idleTimeReset_timeoutManager, TimeoutManager.addTimerTask_self]
  refine TimeoutTask.updateDueTime_isPlanned _ _ ?_
  rw [TimeoutManager.cancel_timeout, value]
  omega

private theorem set_other (watched : Watched settings c) {timeoutManager : TimeoutManager TimerId}
    (timely : Timely settings { c with timeoutManager := timeoutManager })
    (idle : timeoutManager.task .maxIdleTimeTimer = c.timer .maxIdleTimeTimer)
    (test : timeoutManager.task .maxTimeNoTestConReceived = c.timer .maxTimeNoTestConReceived) :
    Watched settings { c with timeoutManager := timeoutManager } := by
  refine ⟨timely, ?_⟩
  rw [Tested, TestPlanned, timer, timer, idle, test]
  exact watched.tested

private theorem cancelledIfPlanned (watched : Watched settings c) (id : TimerId)
    (idle : id ≠ .maxIdleTimeTimer) (test : id ≠ .maxTimeNoTestConReceived) :
    Watched settings (c.cancelledIfPlanned id) :=
  watched.set_other (watched.timely.cancelledIfPlanned id) (cancelledIfPlanned_timer_other _ _ idle.symm)
    (cancelledIfPlanned_timer_other _ _ test.symm)

private theorem done (watched : Watched settings c) {id : TimerId}
    (idle : id ≠ .maxIdleTimeTimer) (test : id ≠ .maxTimeNoTestConReceived) :
    Always (Watched settings) c (setDone id) :=
  watched.set_other (watched.timely.done id) (TimeoutManager.set_other _ _ _ _ idle.symm)
    (TimeoutManager.set_other _ _ _ _ test.symm)

private theorem armed (watched : Watched settings c) : Watched settings c.armed := by
  have cancelled := watched.cancelledIfPlanned .maxTimeNoAckSentTimer (by simp) (by simp)
  rw [Connection.armed]
  split
  · exact cancelled.congr rfl
  · exact (cancelled.addTimerTask .maxTimeNoAckReceived).congr rfl

private theorem always_sendSFormatPdu (watched : Watched settings c) :
    Always (Watched settings) c (sendSFormatPdu settings) := by
  rw [Always, post_sendSFormatPdu]
  exact ⟨fun _ => watched.congr rfl, fun _ => ⟨fun _ => watched.congr rfl, fun _ =>
    (idleTimeReset watched.timely).congr rfl⟩⟩

private theorem always_sendSFormatIfUnconfirmedAPdu (watched : Watched settings c) :
    Always (Watched settings) c (sendSFormatIfUnconfirmedAPdu settings) := by
  rw [Always, post_sendSFormatIfUnconfirmedAPdu]
  refine ⟨fun _ => ?_, fun _ => watched⟩
  exact watched.always_sendSFormatPdu.mono
    (fun _ _ watched => watched.cancelledIfPlanned _ (by simp) (by simp)) fun _ _ watched => watched

private theorem always_send (watched : Watched settings c) (aSdu : ASdu) :
    Always (Watched settings) c (send settings aSdu) := by
  have numbered : Watched settings c.numbered := watched.congr rfl
  have prepared : Post (prepareSend settings aSdu) c (fun _ => Watched settings)
      (fun _ => Watched settings) := by
    rw [post_prepareSend]
    refine ⟨fun _ => watched, fun _ => ⟨fun _ => watched, fun _ => ⟨fun _ => ?_, fun _ => numbered.armed⟩⟩⟩
    exact numbered.always_sendSFormatPdu.mono (fun _ _ watched => watched.armed) fun _ _ watched => watched
  refine Post.seq prepared fun aPdu d watched => ?_
  refine Post.seq (watched.kept (keeps_encode (fun _ _ => rfl) aPdu)) fun _ d watched => ?_
  simp only [post_bind, post_write, post_flush, post_resetMaxIdleTimeTimer]
  exact ⟨fun _ => watched.congr rfl, fun _ => ⟨fun _ => watched.congr rfl, fun _ =>
    (idleTimeReset watched.timely).congr rfl⟩⟩

private theorem of_closed (timely : Timely settings c) (closed : c.closed = true) : Watched settings c :=
  ⟨timely, fun isOpen => absurd (closed.symm.trans isOpen) Bool.false_ne_true.symm⟩

private theorem always_close (watched : Watched settings c) : Always (Watched settings) c close := by
  rw [Always, post_close]
  exact ⟨fun _ => watched, fun _ => of_closed (watched.timely.congr rfl) rfl⟩

/-- When the idle timer runs, the test timer is planned. -/
theorem testPlanned_of_execute (timely : Timely settings c) :
    Always TestPlanned c (execute settings .maxIdleTimeTimer) := by
  have value := (timely .maxTimeNoTestConReceived _ rfl).1
  have range := settings.t1_range
  rw [timer] at value
  have planned : TestPlanned { c with
      timeoutManager := c.timeoutManager.addTimerTask c.currentTimeMillis .maxTimeNoTestConReceived } := by
    rw [TestPlanned, timer, TimeoutManager.addTimerTask_self]
    exact TimeoutTask.updateDueTime_isPlanned _ _ (by omega)
  simp only [Always, execute, post_bind, post_ignoringIOException, post_write, post_flush, post_addTimerTask]
  exact ⟨fun _ => ⟨fun _ => planned, fun thrown => by cases thrown⟩, fun _ => ⟨fun _ =>
    ⟨fun _ => planned, fun thrown => by cases thrown⟩, fun _ => planned⟩⟩

theorem always_execute (watched : Watched settings c) (id : TimerId) :
    Always (Watched settings) c (execute settings id) := by
  have closes (id : TimerId) (closes : TimerId.Closes id) : Always (Watched settings) c (execute settings id) := by
    rw [Always, post_execute_close closes]
    exact watched.always_close.mono (fun _ _ watched => watched.congr rfl) fun _ _ watched => watched
  cases id with
  | maxTimeNoTestConReceived => exact closes _ (.inl rfl)
  | maxTimeNoAckReceived => exact closes _ (.inr rfl)
  | maxTimeNoAckSentTimer =>
    rw [Always, execute, post_ignoringIOException]
    exact watched.always_sendSFormatPdu.mono (fun _ _ watched => watched)
      fun _ _ watched => ⟨fun _ => watched, fun _ => watched⟩
  | maxIdleTimeTimer =>
    have tests : Keeps watch (ignoringIOException do
        write (unnumbered .TESTFR_ACT)
        flush) := fun c => by simp [watch]
    exact Post.seq (watched.kept tests) fun _ _ watched => watched.addTimerTask .maxTimeNoTestConReceived
  | stopDtOutstandingSFormatTimer object => exact watched.kept fun c => by simp [execute, sendStopDtCon, watch]

theorem finishes (watched : Watched settings c) {id : TimerId} (closes : TimerId.Closes id → c.closed = true)
    (tests : id = .maxIdleTimeTimer → c.closed = false → c.reader = .running → TestPlanned c) :
    Watched settings (c.finishes id) := by
  by_cases closing : TimerId.Closes id
  · exact of_closed (watched.timely.done id) (closes closing)
  by_cases idle : id = .maxIdleTimeTimer
  · subst idle
    refine ⟨watched.timely.done _, fun isOpen running => .inr ?_⟩
    rw [TestPlanned, finishes_timer_other (by simp)]
    exact tests rfl isOpen running
  · exact watched.done idle fun test => closing (.inl test)

private theorem always_executeManually (watched : Watched settings c) (id : TimerId) :
    Always (Watched settings) c (executeManually settings id) := by
  rw [Always, post_executeManually]
  refine ⟨fun _ => watched, fun _ => ?_⟩
  have ran := watched.always_execute id
  by_cases closing : TimerId.Closes id
  · have shut : Post (execute settings id) c (fun _ d => d.closed = true) (fun _ _ => False) :=
      (execute_closes closing).mono (fun _ _ closed => congrArg Prod.snd closed) fun _ _ thrown => thrown
    exact (ran.and shut).mono
      (fun _ _ both => of_closed (both.1.timely.done id) both.2) fun _ _ both => both.2.elim
  by_cases idle : id = .maxIdleTimeTimer
  · subst idle
    exact (ran.and (testPlanned_of_execute watched.timely)).mono
      (fun _ _ both => both.1.finishes (fun closes => absurd closes closing) fun _ _ _ => both.2)
      fun _ _ both => both.1.finishes (fun closes => absurd closes closing) fun _ _ _ => both.2
  · have finished {d : Connection} (watched : Watched settings d) : Always (Watched settings) d (setDone id) :=
      watched.done idle fun test => closing (.inl test)
    exact ran.mono (fun _ _ watched => finished watched) fun _ _ watched => finished watched

theorem preserves : Preserves settings server (fun c _ => True ∧ Bounded settings c) (Watched settings) where
  progress _ _ watched := watched.congr rfl
  callEnds _ _ watched _ := watched.congr rfl
  tick _ _ watched := ⟨watched.timely.congr rfl (Nat.le_add_right _ _), watched.tested⟩
  send _ aSdu watched _ _ := watched.always_send aSdu
  receive _ aPdu watched meets _ :=
    (Timely.invariant.always_dispatch watched.timely meets.2.toCounting aPdu fun _ => trivial).mono
      (fun _ _ timely => idleTimeReset timely)
      fun _ _ timely => of_left (timely.congr rfl) (by simp)
  readFailure _ _ watched _ := of_left (watched.timely.congr rfl) (by simp)
  endReader _ watched _ _ := by
    rw [Always, post_endReader]
    refine watched.always_close.mono (fun _ _ watched => ?_) fun _ _ watched => watched
    exact of_left (watched.timely.congr rfl) (by simp)
  fire c id watched _ := by
    have dequeued : Watched settings (c.dequeued id) := watched.congr rfl
    rw [Always, post_fire]
    exact dequeued.always_executeManually id
  runTask _ _ watched _ _ := (post_runTask _).mpr (watched.congr rfl)
  setConnectionListener _ _ watched _ := watched.congr rfl
  close _ watched := watched.always_close
  writeStartDtAct _ watched := watched.kept fun c => by
    simp [writeStartDtAct, newStartDtConSignal, watch]
  register _ _ _ watched _ _ := watched.kept fun c => by simp [register, watch]
  beginStop _ _ watched _ := watched.kept fun c => by simp [beginStop, watch]
  confirm _ _ watched _ _ := watched.always_sendSFormatIfUnconfirmedAPdu
  cancelT2 _ _ watched _ _ := (post_cancelIfPlanned _).mpr (watched.cancelledIfPlanned _ (by simp) (by simp))
  writeStopDtAct _ watched := watched.kept fun c => by
    simp [writeStopDtAct, newStopDtConSignal, watch]
  finishStop _ _ watched _ _ := watched.congr rfl

theorem started (ioFails : Nat → Bool) (now : Nat) : Watched settings (started settings ioFails now) := by
  refine ⟨?_, fun _ _ => .inl ?_⟩
  · have created : Timely settings
        { timeoutManager := newTimers settings, ioFails := ioFails, currentTimeMillis := now } := by
      intro id limit limited
      cases id <;> cases limited <;> refine ⟨rfl, ?_⟩ <;> simp only [timer, newTimers] <;> omega
    exact created.addTimerTask .maxIdleTimeTimer
  · have range := settings.t3_range
    rw [timer, Connection.started, TimeoutManager.addTimerTask_self]
    refine TimeoutTask.updateDueTime_isPlanned _ _ ?_
    simp only [newTimers]
    omega

theorem of_run {actions : List Action} {ioFails : Nat → Bool} {now : Nat}
    (run : Run (Step settings server) (.started settings ioFails now) actions c) : Watched settings c :=
  Bounded.run preserves (run.guarded fun _ _ => trivial) (started ioFails now)

end Watched

/-- Nothing is received, the application neither sends nor goes on with a call, and a timer that is
not cancelled runs when it is due and not later. -/
def Silent (c : Connection) : Action → Prop
  | .receive _ | .send _ | .proceed _ => False
  | .fire id => (c.timer id).canceled = false → c.currentTimeMillis ≤ (c.timer id).dueTime
  | _ => True

def OnTime (c : Connection) : Prop :=
  ∀ id ∈ c.timeoutManager.queue, (c.timer id).canceled = false → c.currentTimeMillis ≤ (c.timer id).dueTime

/-- The due times while nothing has been received since some time: an S frame may start the idle timer
anew once. -/
structure Expects (settings : ConnectionSettings) (since : Nat) (c : Connection) : Prop where
  timely : Timely settings c
  acknowledgement : (c.timer .maxTimeNoAckSentTimer).dueTime ≤ since + settings.maxTimeNoAckSent
  idle : (c.timer .maxIdleTimeTimer).dueTime ≤ since + settings.maxTimeNoAckSent + settings.maxIdleTime
  test : (c.timer .maxTimeNoTestConReceived).dueTime ≤
    since + settings.maxTimeNoAckSent + settings.maxIdleTime + settings.maxTimeNoAckReceived

namespace Expects

variable {since : Nat}

theorem of_timely (timely : Timely settings c) : Expects settings c.currentTimeMillis c := by
  have ack := (timely .maxTimeNoAckSentTimer _ rfl).2
  have idle := (timely .maxIdleTimeTimer _ rfl).2
  have test := (timely .maxTimeNoTestConReceived _ rfl).2
  exact ⟨timely, ack, by omega, by omega⟩

private theorem congr (expects : Expects settings since c)
    (same : d.timeoutManager.task = c.timeoutManager.task)
    (later : c.currentTimeMillis ≤ d.currentTimeMillis := by exact Nat.le_refl _) :
    Expects settings since d := by
  obtain ⟨timely, ack, idle, test⟩ := expects
  refine ⟨timely.congr same later, ?_, ?_, ?_⟩
  · rwa [timer, same]
  · rwa [timer, same]
  · rwa [timer, same]

private theorem kept {method : Body Unit} (expects : Expects settings since c)
    (keeps : Keeps (fun c => (c.timeoutManager.task, c.currentTimeMillis)) method) :
    Always (Expects settings since) c method :=
  keeps.post fun d same => by
    obtain ⟨timers, now⟩ := Prod.mk.inj same
    exact expects.congr timers now.ge

private theorem done (expects : Expects settings since c) (id : TimerId) :
    Always (Expects settings since) c (setDone id) := by
  obtain ⟨timely, ack, idle, test⟩ := expects
  have due (other : TimerId) : ((c.timeoutManager.set id { c.timer id with done := true }).task other).dueTime =
      (c.timer other).dueTime := by
    by_cases same : other = id
    · subst same
      rw [TimeoutManager.set_self]
    · rw [TimeoutManager.set_other _ _ _ _ same, timer]
  refine ⟨timely.done id, ?_, ?_, ?_⟩
  · rwa [timer, due]
  · rwa [timer, due]
  · rwa [timer, due]

private theorem idleTimeReset (expects : Expects settings since c)
    (onTime : c.currentTimeMillis ≤ since + settings.maxTimeNoAckSent) :
    Expects settings since c.idleTimeReset := by
  obtain ⟨timely, ack, -, test⟩ := expects
  have value := (timely .maxIdleTimeTimer _ rfl).1
  refine ⟨timely.idleTimeReset, ?_, ?_, ?_⟩
  · rwa [idleTimeReset_timer_other _ (by simp)]
  · rw [timer, idleTimeReset_timeoutManager, TimeoutManager.addTimerTask_self, TimeoutManager.cancel_self,
      TimeoutTask.updateDueTime, TimeoutTask.cancel]
    rw [timer] at value
    simp only [value]
    omega
  · rwa [idleTimeReset_timer_other _ (by simp)]

private theorem planTest (expects : Expects settings since c)
    (onTime : (c.currentTimeMillis : Int) ≤ since + settings.maxTimeNoAckSent + settings.maxIdleTime) :
    Expects settings since { c with
      timeoutManager := c.timeoutManager.addTimerTask c.currentTimeMillis .maxTimeNoTestConReceived } := by
  obtain ⟨timely, ack, idle, -⟩ := expects
  have value := (timely .maxTimeNoTestConReceived _ rfl).1
  refine ⟨timely.addTimerTask _, ?_, ?_, ?_⟩
  · rwa [timer, TimeoutManager.addTimerTask_other _ _ _ _ (by simp)]
  · rwa [timer, TimeoutManager.addTimerTask_other _ _ _ _ (by simp)]
  · rw [timer] at value
    rw [timer, TimeoutManager.addTimerTask_self, TimeoutTask.updateDueTime]
    simp only [value]
    omega

private theorem always_fire (expects : Expects settings since c) (id : TimerId)
    (onTime : (c.timer id).canceled = false → c.currentTimeMillis ≤ (c.timer id).dueTime) :
    Always (Expects settings since) c (fire settings id) := by
  have dequeued : Expects settings since (c.dequeued id) := expects.congr rfl
  have ran (runs : Always (Expects settings since) (c.dequeued id) (execute settings id)) :
      Post (execute settings id) (c.dequeued id) (fun _ d => Always (Expects settings since) d (setDone id))
        (fun _ d => Always (Expects settings since) d (setDone id)) :=
    runs.mono (fun _ _ expects => expects.done id) fun _ _ expects => expects.done id
  rw [Always, post_fire, post_executeManually]
  refine ⟨fun _ => dequeued, fun live => ran ?_⟩
  replace onTime := onTime live
  cases id with
  | maxTimeNoTestConReceived | maxTimeNoAckReceived => exact dequeued.kept fun c => by simp [execute]
  | maxTimeNoAckSentTimer =>
    have punctual : (c.currentTimeMillis : Int) ≤ since + settings.maxTimeNoAckSent :=
      onTime.trans expects.acknowledgement
    have reset {d : Connection} (timers : d.timeoutManager.task = c.timeoutManager.task)
        (now : d.currentTimeMillis = c.currentTimeMillis) : Expects settings since d.idleTimeReset :=
      (expects.congr timers now.ge).idleTimeReset (by omega)
    rw [Always, execute, post_ignoringIOException, post_sendSFormatPdu]
    exact ⟨fun _ => ⟨fun _ => dequeued.congr rfl, fun _ => dequeued.congr rfl⟩, fun _ =>
      ⟨fun _ => ⟨fun _ => dequeued.congr rfl, fun _ => dequeued.congr rfl⟩, fun _ =>
        (reset (d := c.dequeued .maxTimeNoAckSentTimer) rfl rfl).congr rfl⟩⟩
  | maxIdleTimeTimer =>
    have punctual : (c.currentTimeMillis : Int) ≤
        since + settings.maxTimeNoAckSent + settings.maxIdleTime := onTime.trans expects.idle
    have tests : Always (fun d => Expects settings since d ∧ d.currentTimeMillis = c.currentTimeMillis)
        (c.dequeued .maxIdleTimeTimer) (ignoringIOException do
          write (unnumbered .TESTFR_ACT)
          flush) := by
      have keeps : Keeps (fun c => (c.timeoutManager.task, c.currentTimeMillis)) (ignoringIOException do
          write (unnumbered .TESTFR_ACT)
          flush) := fun c => by simp
      refine keeps.post fun d same => ?_
      obtain ⟨timers, now⟩ := Prod.mk.inj same
      exact ⟨dequeued.congr timers now.ge, now⟩
    refine Post.seq (tests.mono (fun _ _ both => both) fun _ _ both => both.1) fun _ d both => ?_
    exact both.1.planTest (by rw [both.2]; exact punctual)
  | stopDtOutstandingSFormatTimer object => exact dequeued.kept fun c => by simp [execute, sendStopDtCon]

private theorem preserves (since : Nat) : Preserves settings server Silent (Expects settings since) where
  progress _ _ expects := expects.congr rfl
  callEnds _ _ expects _ := expects.congr rfl
  tick _ _ expects := expects.congr rfl (Nat.le_add_right _ _)
  send _ _ _ silent _ := silent.elim
  receive _ _ _ silent _ := silent.elim
  readFailure _ _ expects _ := expects.congr rfl
  endReader _ expects _ _ := expects.kept fun c => by simp [post_endReader]
  fire _ id expects silent := expects.always_fire id silent
  runTask _ _ expects _ _ := (post_runTask _).mpr (expects.congr rfl)
  setConnectionListener _ _ expects _ := expects.congr rfl
  close _ expects := expects.kept fun c => by simp
  writeStartDtAct _ expects := expects.kept fun c => by simp [writeStartDtAct, newStartDtConSignal]
  register _ _ _ _ silent _ := silent.elim
  beginStop _ _ expects _ := expects.kept fun c => by simp [beginStop]
  confirm _ _ _ silent _ := silent.elim
  cancelT2 _ _ _ silent _ := silent.elim
  writeStopDtAct _ expects := expects.kept fun c => by simp [writeStopDtAct, newStopDtConSignal]
  finishStop _ _ _ silent _ := silent.elim

end Expects

/-- A connection whose peer falls silent does not stay open for longer than t2 + t3 + t1, whatever its
socket does, if its timers run on time and none was lost from their queue. -/
theorem silence_bounded {actions silence : List Action} {ioFails : Nat → Bool} {now : Nat}
    (run : Run (Step settings server) (.started settings ioFails now) actions c)
    (silent : Run (Run.Guarded Silent (Step settings server)) c silence d) (isOpen : d.IsOpen)
    (alone : ∀ arming ∈ d.timeoutManager.armings, arming.Alone) (onTime : d.OnTime) :
    d.currentTimeMillis ≤ c.currentTimeMillis +
      (settings.maxTimeNoAckSent + settings.maxIdleTime + settings.maxTimeNoAckReceived) := by
  have whole := run.append silent.unguarded
  have watched : Watched settings d := .of_run whole
  obtain ⟨-, -, idle, test⟩ := (Expects.preserves _).run silent (.of_timely (Watched.of_run run).timely)
  have queued : TimersQueued none d :=
    Bounded.run TimersQueued.preserves (whole.guarded fun _ _ => trivial) (.started ioFails now)
  have due {id : TimerId} (planned : (d.timer id).isPlanned = true) :
      (d.currentTimeMillis : Int) ≤ (d.timer id).dueTime := by
    refine onTime id (queued alone id (by simp) planned) ?_
    simp only [TimeoutTask.isPlanned, Bool.and_eq_true, Bool.not_eq_true'] at planned
    exact planned.1.1
  rcases watched.tested isOpen.1 isOpen.2 with planned | planned
  · have first := due planned
    omega
  · have first := due planned
    omega

def sampleSilence : List Action := [.tick 20000, .fire .maxIdleTimeTimer, .tick 14999]

theorem silence_bounded_sample :
    (sampleState false sampleSilence).IsOpen ∧ (sampleState false sampleSilence).currentTimeMillis = 34999 ∧
    (sampleState false sampleSilence).currentTimeMillis ≤ 0 + (10000 + 20000 + 15000) := by
  have meets : RunMeets {} false Silent (started {} (fun _ => false) 0) sampleSilence :=
    .intro trivial <| .intro (fun _ => by decide) <| .intro trivial trivial
  have silent : Run (Run.Guarded Silent (Step {} false)) (started {} (fun _ => false) 0) sampleSilence
      (sampleState false sampleSilence) := guarded_of_runActions rfl meets
  have alone : ∀ arming ∈ (sampleState false sampleSilence).timeoutManager.armings, arming.Alone := by
    decide +kernel
  have onTime : (sampleState false sampleSilence).OnTime := by
    rw [OnTime]
    decide +kernel
  exact ⟨⟨rfl, rfl⟩, rfl, silence_bounded .start silent ⟨rfl, rfl⟩ alone onTime⟩

end Connection

end J60870
