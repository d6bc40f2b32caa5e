import J60870.Connection.Rules

namespace J60870

open Lib Method

namespace Connection

variable {settings : ConnectionSettings} {server : Bool} {c d : Connection}

@[simp] theorem sequenceNumberDiff_self (number : Nat) : sequenceNumberDiff number number = 0 := by
  simp [sequenceNumberDiff]

/-- The difference the source computes is the distance modulo 2^15. -/
theorem sequenceNumberDiff_eq {number ackNumber : Nat} (number_lt : number < 2 ^ 15)
    (ackNumber_lt : ackNumber < 2 ^ 15) :
    (sequenceNumberDiff number ackNumber : Int) = ((number : Int) - ackNumber) % 2 ^ 15 := by
  unfold sequenceNumberDiff
  split <;> omega

theorem sequenceNumberDiff_eq_zero {number ackNumber : Nat} (number_lt : number < 2 ^ 15)
    (ackNumber_lt : ackNumber < 2 ^ 15) :
    sequenceNumberDiff number ackNumber = 0 ↔ number = ackNumber := by
  unfold sequenceNumberDiff
  split <;> omega

/-- The four counters are in range, and at most k frames are outstanding. -/
structure Counting (settings : ConnectionSettings) (c : Connection) : Prop where
  send_lt : c.sendSequenceNumber < 2 ^ 15
  acknowledgedSend_lt : c.acknowledgedSendSequenceNumber < 2 ^ 15
  receive_lt : c.receiveSequenceNumber < 2 ^ 15
  acknowledgedReceive_lt : c.acknowledgedReceiveSequenceNumber < 2 ^ 15
  outstanding : c.getNumUnconfirmedAPdusSent ≤ settings.maxNumOfOutstandingIPdus

/-- Between two steps fewer than w frames are unconfirmed, unless the reader has left
its loop over a frame it has counted. -/
structure Bounded (settings : ConnectionSettings) (c : Connection) : Prop
    extends Counting settings c where
  unconfirmed : c.reader = .running →
    c.numUnconfirmedIPdusReceived < settings.maxUnconfirmedIPdusReceived

def numbers (c : Connection) : Nat × Nat × Nat × Nat :=
  (c.sendSequenceNumber, c.receiveSequenceNumber, c.acknowledgedReceiveSequenceNumber,
    c.acknowledgedSendSequenceNumber)

def counted (c : Connection) : (Nat × Nat × Nat × Nat) × ReaderState := (c.numbers, c.reader)

theorem Counting.congr (counting : Counting settings c) (same : d.numbers = c.numbers) :
    Counting settings d := by
  simp only [numbers, Prod.mk.injEq] at same
  obtain ⟨send, receive, acknowledgedReceive, acknowledgedSend⟩ := same
  obtain ⟨send_lt, acknowledgedSend_lt, receive_lt, acknowledgedReceive_lt, outstanding⟩ := counting
  constructor <;>
    simpa only [getNumUnconfirmedAPdusSent, send, receive, acknowledgedReceive, acknowledgedSend]

theorem Bounded.congr (bounded : Bounded settings c) (same : d.counted = c.counted) :
    Bounded settings d := by
  obtain ⟨numbers, reader⟩ := Prod.mk.inj same
  refine ⟨bounded.toCounting.congr numbers, fun running => ?_⟩
  obtain ⟨-, receive, acknowledgedReceive, -⟩ : _ ∧ _ ∧ _ ∧ _ := by
    simpa only [Connection.numbers, Prod.mk.injEq] using numbers
  simpa only [numUnconfirmedIPdusReceived, receive, acknowledgedReceive] using
    bounded.unconfirmed (reader ▸ running)

theorem Counting.sFormatSent (counting : Counting settings c) : Bounded settings c.sFormatSent where
  send_lt := counting.send_lt
  acknowledgedSend_lt := counting.acknowledgedSend_lt
  receive_lt := counting.receive_lt
  acknowledgedReceive_lt := counting.receive_lt
  outstanding := counting.outstanding
  unconfirmed _ := by
    have positive := settings.w_range
    simp [numUnconfirmedIPdusReceived]
    omega

theorem Counting.received (counting : Counting settings c) : Counting settings c.received :=
  { counting with receive_lt := Nat.mod_lt _ (Nat.two_pow_pos 15) }

theorem Counting.always_updateReceiveSeqNum (counting : Counting settings c) (sendSeqNumber : Nat) :
    Post (updateReceiveSeqNum settings sendSeqNumber) c (fun _ d => Counting settings d)
      (fun _ d => Counting settings d) := by
  rw [post_updateReceiveSeqNum]
  refine ⟨fun _ => counting, fun _ => ⟨fun _ => ?_, fun _ => counting.received⟩⟩
  rw [post_sendSFormatPdu]
  refine ⟨fun _ => counting.received.congr rfl, fun _ => ⟨fun _ => counting.received.congr rfl, fun _ => ?_⟩⟩
  exact counting.received.sFormatSent.toCounting

/-- The timers after an acknowledgement: t1 is cancelled, and armed again if frames
are still outstanding. -/
def acknowledgedTimers (c : Connection) (receiveSeqNumber : Nat) : TimeoutManager TimerId :=
  if c.acknowledgedSendSequenceNumber = receiveSeqNumber then c.timeoutManager
  else
    let cancelled := if (c.timer .maxTimeNoAckReceived).isPlanned then
      c.timeoutManager.cancel .maxTimeNoAckReceived else c.timeoutManager
    if c.sendSequenceNumber ≠ receiveSeqNumber then
      cancelled.addTimerTask c.currentTimeMillis .maxTimeNoAckReceived
    else cancelled

/-- The state after an acknowledgement. -/
@[simps -fullyApplied] def acknowledged (c : Connection) (receiveSeqNumber : Nat) : Connection :=
  { c with
    acknowledgedSendSequenceNumber := receiveSeqNumber
    timeoutManager := c.acknowledgedTimers receiveSeqNumber
    notifications :=
      if c.acknowledgedSendSequenceNumber = receiveSeqNumber then c.notifications
      else c.notifications + 1 }

@[simp] theorem acknowledged_timer_other (receiveSeqNumber : Nat) (id : TimerId)
    (different : id ≠ .maxTimeNoAckReceived) :
    (c.acknowledged receiveSeqNumber).timer id = c.timer id := by
  rw [timer, acknowledged_timeoutManager, acknowledgedTimers]
  split
  · rfl
  · cases planned : (c.timer .maxTimeNoAckReceived).isPlanned <;>
      by_cases all : c.sendSequenceNumber = receiveSeqNumber <;> simp [timer, all, different]

/-- The receive sequence number lies in the cyclic interval from the last acknowledged
number to the next number to send. -/
def Acknowledges (c : Connection) (receiveSeqNumber : Nat) : Prop :=
  sequenceNumberDiff receiveSeqNumber c.acknowledgedSendSequenceNumber ≤ c.getNumUnconfirmedAPdusSent

instance (c : Connection) (receiveSeqNumber : Nat) : Decidable (c.Acknowledges receiveSeqNumber) :=
  inferInstanceAs (Decidable (_ ≤ _))

theorem Counting.acknowledged {receiveSeqNumber : Nat} (counting : Counting settings c)
    (number_lt : receiveSeqNumber < 2 ^ 15) (inside : c.Acknowledges receiveSeqNumber) :
    Counting settings (c.acknowledged receiveSeqNumber) where
  send_lt := counting.send_lt
  acknowledgedSend_lt := number_lt
  receive_lt := counting.receive_lt
  acknowledgedReceive_lt := counting.acknowledgedReceive_lt
  outstanding := by
    obtain ⟨send_lt, acknowledged_lt, -, -, outstanding⟩ := counting
    simp only [Acknowledges, getNumUnconfirmedAPdusSent, sequenceNumberDiff,
      acknowledged_sendSequenceNumber, acknowledged_acknowledgedSendSequenceNumber] at inside outstanding ⊢
    grind

/-- An acknowledgement is accepted inside the interval and refused outside, and the
number of outstanding frames is never found exceeded. -/
theorem post_handleReceiveSequenceNumber {receiveSeqNumber : Nat}
    {Q : Unit → Connection → Prop} {E : JavaException → Connection → Prop}
    (counting : Counting settings c) (number_lt : receiveSeqNumber < 2 ^ 15) :
    Post (handleReceiveSequenceNumber settings receiveSeqNumber) c Q E ↔
      (c.Acknowledges receiveSeqNumber → Q () (c.acknowledged receiveSeqNumber)) ∧
      (¬ c.Acknowledges receiveSeqNumber →
        E (unexpectedReceiveSequenceNumber c receiveSeqNumber) c) := by
  by_cases same : c.acknowledgedSendSequenceNumber = receiveSeqNumber
  · have inside : c.Acknowledges receiveSeqNumber := by
      simp [Acknowledges, same]
    have unchanged : c.acknowledged receiveSeqNumber = c := by
      simp only [acknowledged, acknowledgedTimers, if_pos same]
      cases same
      rfl
    simp [handleReceiveSequenceNumber, same, inside, unchanged]
  · by_cases inside : c.Acknowledges receiveSeqNumber
    · have accepted : sequenceNumberDiff receiveSeqNumber c.acknowledgedSendSequenceNumber ≤
          sequenceNumberDiff c.sendSequenceNumber c.acknowledgedSendSequenceNumber := inside
      have within : sequenceNumberDiff c.sendSequenceNumber receiveSeqNumber ≤
          settings.maxNumOfOutstandingIPdus := (counting.acknowledged number_lt inside).outstanding
      simp only [inside, not_true_eq_false, false_implies, and_true, true_implies, acknowledged,
        acknowledgedTimers, if_neg same]
      cases planned : (c.timer .maxTimeNoAckReceived).isPlanned <;>
        by_cases all : c.sendSequenceNumber = receiveSeqNumber <;>
        simp [handleReceiveSequenceNumber, cancelledIfPlanned, same, accepted, accepted.not_gt, planned,
          all, getNumUnconfirmedAPdusSent, within, within.not_gt]
    · have refused : sequenceNumberDiff receiveSeqNumber c.acknowledgedSendSequenceNumber >
          c.getNumUnconfirmedAPdusSent := Nat.lt_of_not_le inside
      simp [handleReceiveSequenceNumber, same, inside, refused]

namespace Bounded

private theorem kept {method : Body Unit} (bounded : Bounded settings c)
    (keeps : Keeps counted method) : Always (Bounded settings) c method :=
  keeps.post fun _ same => bounded.congr same

theorem left (counting : Counting settings c) (e : JavaException) : Bounded settings (c.left e) where
  toCounting := counting.congr rfl
  unconfirmed := by simp

theorem ended (counting : Counting settings c) : Bounded settings c.ended where
  toCounting := counting.congr rfl
  unconfirmed := by simp

theorem numbered (bounded : Bounded settings c)
    (window : c.getNumUnconfirmedAPdusSent < settings.maxNumOfOutstandingIPdus) :
    Bounded settings c.numbered where
  send_lt := Nat.mod_lt _ (Nat.two_pow_pos 15)
  acknowledgedSend_lt := bounded.acknowledgedSend_lt
  receive_lt := bounded.receive_lt
  acknowledgedReceive_lt := bounded.receive_lt
  outstanding := by
    have send_lt := bounded.send_lt
    have acknowledgedSend_lt := bounded.acknowledgedSend_lt
    simp only [getNumUnconfirmedAPdusSent, sequenceNumberDiff, numbered_sendSequenceNumber,
      numbered_acknowledgedSendSequenceNumber] at window ⊢
    grind
  unconfirmed _ := by
    have positive := settings.w_range
    simp [numUnconfirmedIPdusReceived]
    omega

private theorem always_close (bounded : Bounded settings c) : Always (Bounded settings) c close := by
  simp only [Always, post_close]
  refine ⟨fun _ => bounded, fun _ => ⟨?_, bounded.unconfirmed⟩⟩
  exact ⟨bounded.send_lt, bounded.send_lt, bounded.receive_lt, bounded.acknowledgedReceive_lt,
    by simp [getNumUnconfirmedAPdusSent]⟩

private theorem always_sendSFormatPdu (bounded : Bounded settings c) :
    Always (Bounded settings) c (sendSFormatPdu settings) := by
  rw [Always, post_sendSFormatPdu]
  exact ⟨fun _ => bounded.congr rfl, fun _ => ⟨fun _ => bounded.congr rfl, fun _ =>
    bounded.toCounting.sFormatSent⟩⟩

private theorem always_sendSFormatIfUnconfirmedAPdu (bounded : Bounded settings c) :
    Always (Bounded settings) c (sendSFormatIfUnconfirmedAPdu settings) := by
  rw [Always, post_sendSFormatIfUnconfirmedAPdu]
  refine ⟨fun _ => ?_, fun _ => bounded⟩
  exact bounded.always_sendSFormatPdu.mono (fun _ _ bounded => bounded.congr rfl) fun _ _ bounded => bounded

private theorem always_send (bounded : Bounded settings c) (aSdu : ASdu)
    (window : c.getNumUnconfirmedAPdusSent < settings.maxNumOfOutstandingIPdus) :
    Always (Bounded settings) c (send settings aSdu) := by
  have numbered := bounded.numbered window
  refine Post.seq (P := fun _ => Bounded settings) ?_ fun aPdu d bounded => ?_
  · rw [post_prepareSend]
    refine ⟨fun _ => bounded, fun _ => ⟨fun _ => bounded, fun _ => ⟨fun _ => ?_, fun _ =>
      numbered.congr rfl⟩⟩⟩
    exact numbered.always_sendSFormatPdu.mono (fun _ _ bounded => bounded.congr rfl)
      fun _ _ bounded => bounded
  · refine bounded.kept fun c => ?_
    cases encoded : aPdu.encode settings c.buffer <;> simp [encode, encoded, counted, numbers]

private theorem always_handleStopDtAct (bounded : Bounded settings c) :
    Always (Bounded settings) c (handleStopDtAct settings) := by
  rw [Always, post_handleStopDtAct]
  have requested : Bounded settings c.stopRequested := bounded.congr rfl
  refine requested.always_sendSFormatIfUnconfirmedAPdu.mono (fun _ d bounded => ?_) fun _ _ bounded => bounded
  refine ⟨fun _ => bounded.congr rfl, fun _ => bounded.kept fun c => ?_⟩
  simp [sendStopDtCon, counted, numbers]

theorem always_execute (bounded : Bounded settings c) (id : TimerId) :
    Always (Bounded settings) c (execute settings id) := by
  have closing : Always (Bounded settings) c (do
      Connection.close
      notifyClosed (← get).aSduListener (some (t1Exceeded settings))) :=
    Post.seq bounded.always_close fun _ d bounded => by
      rw [post_bind, post_get, post_notifyClosed]
      exact bounded.congr rfl
  cases id with
  | maxTimeNoTestConReceived => exact closing
  | maxTimeNoAckReceived => exact closing
  | maxTimeNoAckSentTimer =>
    simp only [Always, execute, post_ignoringIOException]
    exact bounded.always_sendSFormatPdu.mono (fun _ _ bounded => bounded)
      fun _ _ bounded => ⟨fun _ => bounded, fun _ => bounded⟩
  | maxIdleTimeTimer =>
    refine bounded.kept fun c => ?_
    simp [execute, counted, numbers]
  | stopDtOutstandingSFormatTimer object =>
    refine bounded.kept fun c => ?_
    simp [execute, sendStopDtCon, counted, numbers]

private theorem always_executeManually (bounded : Bounded settings c) (id : TimerId) :
    Always (Bounded settings) c (executeManually settings id) := by
  rw [Always, post_executeManually]
  refine ⟨fun _ => bounded, fun _ => (bounded.always_execute id).mono ?_ ?_⟩ <;>
    intro _ _ bounded <;> exact bounded.congr rfl

private theorem handleIFrame (bounded : Bounded settings c) (aPdu : ReceivedAPdu) :
    Post (handleIFrame settings aPdu.toAPdu) c (fun _ d => Bounded settings d)
      (fun _ d => Counting settings d) := by
  -- between the counting of the frame and the end one more frame may be unconfirmed
  refine Post.seq (bounded.toCounting.always_updateReceiveSeqNum _) fun _ d counting => ?_
  refine Post.seq (P := fun _ d => Counting settings d) ?_ fun _ d counting => ?_
  · rw [post_handleReceiveSequenceNumber counting aPdu.receiveSeqNum_lt]
    exact ⟨counting.acknowledged aPdu.receiveSeqNum_lt, fun _ => counting⟩
  rw [post_bind, post_handOver, post_acknowledgeReceived]
  refine ⟨fun _ => ?_, fun unconfirmed => ⟨counting.congr rfl, fun _ => unconfirmed⟩⟩
  rw [post_sendSFormatPdu]
  refine ⟨fun _ => counting.congr rfl, fun _ => ⟨fun _ => counting.congr rfl, fun _ => ?_⟩⟩
  exact counting.sFormatSent.congr rfl

private theorem dispatch (bounded : Bounded settings c) (aPdu : ReceivedAPdu) :
    Post (dispatch settings server aPdu.toAPdu) c (fun _ d => Bounded settings d)
      (fun _ d => Counting settings d) := by
  have weaken {c : Connection} {method : Body Unit} (always : Always (Bounded settings) c method) :
      Post method c (fun _ d => Bounded settings d) (fun _ d => Counting settings d) :=
    always.mono (fun _ _ bounded => bounded) fun _ _ bounded => bounded.toCounting
  apply Dispatches.post
  constructor
  case refused => exact fun _ => bounded.toCounting
  case handleIFrame => exact fun _ => bounded.handleIFrame aPdu
  case handleSFormat =>
    intro _
    rw [post_handleReceiveSequenceNumber bounded.toCounting aPdu.receiveSeqNum_lt]
    refine ⟨fun inside => ?_, fun _ => bounded.toCounting⟩
    have acknowledged : Bounded settings (c.acknowledged aPdu.receiveSeqNum) :=
      ⟨bounded.toCounting.acknowledged aPdu.receiveSeqNum_lt inside, bounded.unconfirmed⟩
    exact ⟨fun _ => acknowledged, fun object _ => weaken (acknowledged.always_executeManually _)⟩
  case handleStartDtAct =>
    intro _
    refine weaken (bounded.kept fun c => ?_)
    cases c.aSduListener <;> simp [handleStartDtAct, counted, numbers]
  case handleStopDtAct => exact fun _ => weaken bounded.always_handleStopDtAct
  case sendTestFrameCon =>
    refine weaken (bounded.kept fun c => ?_)
    simp [Connection.sendTestFrameCon, counted, numbers]
  case cancelTestCon => exact fun _ => bounded.congr rfl
  case countDown => exact fun _ => bounded.congr rfl

theorem preserves : Preserves settings server (fun _ _ => True) (Bounded settings) where
  progress _ _ bounded := bounded.congr rfl
  callEnds _ _ bounded _ := bounded.congr rfl
  tick _ _ bounded := bounded.congr rfl
  send _ aSdu bounded _ window := bounded.always_send aSdu window
  receive _ aPdu bounded _ _ :=
    (bounded.dispatch aPdu).mono (fun _ _ bounded => bounded.congr rfl) fun e _ counting => .left counting e
  readFailure _ e bounded _ := .left bounded.toCounting e
  endReader c bounded _ _ := by
    rw [Always, post_endReader]
    exact bounded.always_close.mono (fun _ _ bounded => .ended bounded.toCounting) fun _ _ bounded => bounded
  fire c id bounded _ := by
    have dequeued : Bounded settings (c.dequeued id) := bounded.congr rfl
    rw [Always, post_fire]
    exact dequeued.always_executeManually id
  runTask _ _ bounded _ _ := (post_runTask _).mpr (bounded.congr rfl)
  setConnectionListener _ _ bounded _ := bounded.congr rfl
  close _ bounded := bounded.always_close
  writeStartDtAct _ bounded := bounded.kept fun c => by
    simp [Connection.writeStartDtAct, newStartDtConSignal, counted, numbers]
  register _ _ _ bounded _ _ := bounded.kept fun c => by
    simp [Connection.register, counted, numbers]
  beginStop _ _ bounded _ := bounded.kept fun c => by
    simp [Connection.beginStop, counted, numbers]
  confirm _ _ bounded _ _ := bounded.always_sendSFormatIfUnconfirmedAPdu
  cancelT2 _ _ bounded _ _ := (post_cancelIfPlanned _).mpr (bounded.congr rfl)
  writeStopDtAct _ bounded := bounded.kept fun c => by
    simp [Connection.writeStopDtAct, newStopDtConSignal, counted, numbers]
  finishStop _ _ bounded _ _ := bounded.congr rfl

theorem started (ioFails : Nat → Bool) (now : Nat) : Bounded settings (started settings ioFails now) := by
  have positive := settings.w_range
  refine ⟨⟨?_, ?_, ?_, ?_, ?_⟩, fun _ => ?_⟩ <;>
    simp [Connection.started, getNumUnconfirmedAPdusSent, numUnconfirmedIPdusReceived]
  omega

theorem of_run {actions : List Action} {ioFails : Nat → Bool} {now : Nat}
    (run : Run (Step settings server) (Connection.started settings ioFails now) actions c) :
    Bounded settings c :=
  run.invariant (started ioFails now) fun _ _ _ bounded taken => preserves.step bounded trivial taken

/-- What is kept wherever the counters are in range holds in every state reached. -/
theorem run {good : Connection → Action → Prop} {I : Connection → Prop} {actions : List Action}
    {ioFails : Nat → Bool} {now : Nat}
    (kept : Preserves settings server (fun c action => good c action ∧ Bounded settings c) I)
    (run : Run (Run.Guarded good (Step settings server)) (Connection.started settings ioFails now) actions c)
    (start : I (Connection.started settings ioFails now)) : I c :=
  run.invariant_where (fun _ _ before => of_run before.unguarded) start
    fun _ _ _ bounded holds last => kept.step holds ⟨last.1, bounded⟩ last.2

end Bounded

theorem unexpectedReceiveSequenceNumber_ne (receiveSeqNumber : Nat) :
    unexpectedReceiveSequenceNumber c receiveSeqNumber ≠ maxNumberExceeded := by
  intro same
  have first := congrArg (fun message => message.toList.head?) (JavaException.iOException.inj same)
  simp [toString] at first

/-- The windows of a connection against whatever its peer sends, in every state between
two steps. A receive sequence number is accepted inside the interval of outstanding
numbers, and only there; it then is all that changes of the counters, and a refused one
changes none. -/
theorem windows_respected {actions : List Action} {ioFails : Nat → Bool} {now : Nat}
    (run : Run (Step settings server) (started settings ioFails now) actions c) :
    c.sendSequenceNumber < 2 ^ 15 ∧ c.acknowledgedSendSequenceNumber < 2 ^ 15 ∧
    c.receiveSequenceNumber < 2 ^ 15 ∧ c.acknowledgedReceiveSequenceNumber < 2 ^ 15 ∧
    ((c.sendSequenceNumber : Int) - c.acknowledgedSendSequenceNumber) % 2 ^ 15 ≤
      settings.maxNumOfOutstandingIPdus ∧
    (c.reader = .running →
      ((c.receiveSequenceNumber : Int) - c.acknowledgedReceiveSequenceNumber) % 2 ^ 15 <
        settings.maxUnconfirmedIPdusReceived) ∧
    ∀ receiveSeqNumber : Nat, receiveSeqNumber < 2 ^ 15 →
      Post (handleReceiveSequenceNumber settings receiveSeqNumber) c
        (fun _ d =>
          ((receiveSeqNumber : Int) - c.acknowledgedSendSequenceNumber) % 2 ^ 15 ≤
            ((c.sendSequenceNumber : Int) - c.acknowledgedSendSequenceNumber) % 2 ^ 15 ∧
          d.numbers = { c with acknowledgedSendSequenceNumber := receiveSeqNumber }.numbers)
        (fun e d =>
          ((c.sendSequenceNumber : Int) - c.acknowledgedSendSequenceNumber) % 2 ^ 15 <
            ((receiveSeqNumber : Int) - c.acknowledgedSendSequenceNumber) % 2 ^ 15 ∧
          d.numbers = c.numbers ∧ e ≠ maxNumberExceeded) := by
  obtain ⟨counting, unconfirmed⟩ := Bounded.of_run run
  obtain ⟨send_lt, acknowledgedSend_lt, receive_lt, acknowledgedReceive_lt, outstanding⟩ := counting
  rw [← sequenceNumberDiff_eq send_lt acknowledgedSend_lt,
    ← sequenceNumberDiff_eq receive_lt acknowledgedReceive_lt]
  refine ⟨send_lt, acknowledgedSend_lt, receive_lt, acknowledgedReceive_lt, Int.ofNat_le.mpr outstanding,
    fun running => Int.ofNat_lt.mpr (unconfirmed running), fun receiveSeqNumber number_lt => ?_⟩
  rw [← sequenceNumberDiff_eq number_lt acknowledgedSend_lt, post_handleReceiveSequenceNumber
    ⟨send_lt, acknowledgedSend_lt, receive_lt, acknowledgedReceive_lt, outstanding⟩ number_lt]
  refine ⟨fun inside => ⟨Int.ofNat_le.mpr inside, rfl⟩, fun outside => ⟨?_, rfl, ?_⟩⟩
  · exact Int.ofNat_lt.mpr (Nat.lt_of_not_le outside)
  · exact unexpectedReceiveSequenceNumber_ne receiveSeqNumber

def sampleExchange : List Action :=
  [.setConnectionListener (some 0), .receive (sampleUnnumbered .STARTDT_ACT), .send sampleCommand,
    .send sampleCommand, .receive (sampleIFormat 0 1)]

theorem windows_respected_sample :
    ∃ c, Run (Step {} true) (started {} (fun _ => false) 0) sampleExchange c ∧
      c.sendSequenceNumber = 2 ∧ c.receiveSequenceNumber = 1 ∧
      ((c.sendSequenceNumber : Int) - c.acknowledgedSendSequenceNumber) % 2 ^ 15 ≤ 12 ∧
      ((c.receiveSequenceNumber : Int) - c.acknowledgedReceiveSequenceNumber) % 2 ^ 15 < 8 := by
  have run : Run (Step {} true) (started {} (fun _ => false) 0) sampleExchange
    (sampleState true sampleExchange) := run_of_runActions rfl
  obtain ⟨-, -, -, -, outstanding, unconfirmed, -⟩ := windows_respected run
  exact ⟨_, run, rfl, rfl, outstanding, unconfirmed rfl⟩

end Connection

end J60870
