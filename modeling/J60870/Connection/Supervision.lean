import J60870.Connection.SendingSide

namespace J60870

open Lib Method

namespace Connection

variable {settings : ConnectionSettings} {server : Bool} {c d : Connection}

/-- The t1 timer is planned if and only if not everything sent is acknowledged. -/
def SupervisionPlanned (c : Connection) : Prop :=
  (c.timer .maxTimeNoAckReceived).isPlanned = true ↔
    c.sendSequenceNumber ≠ c.acknowledgedSendSequenceNumber

/-- The invariant: the t1 timer keeps its timeout, no call of `os` fails, and the timer is
planned when it has to be. -/
structure Supervised (settings : ConnectionSettings) (c : Connection) : Prop where
  timeout : (c.timer .maxTimeNoAckReceived).timeout = settings.maxTimeNoAckReceived
  reliable : ∀ call, c.ioFails call = false
  planned : c.closed = false → c.SupervisionPlanned

namespace Supervised

theorem congr (supervised : Supervised settings c) (same : d.sendingSide = c.sendingSide) :
    Supervised settings d := by
  simp only [sendingSide, Prod.mk.injEq] at same
  obtain ⟨⟨send, acknowledged⟩, t1, closed, -, ioFails⟩ := same
  obtain ⟨timeout, reliable, planned⟩ := supervised
  constructor
  · rwa [t1]
  · rwa [ioFails]
  · simpa only [SupervisionPlanned, send, acknowledged, t1, closed] using planned

theorem of_closed (supervised : Supervised settings c)
    (timeout : (d.timer .maxTimeNoAckReceived).timeout = (c.timer .maxTimeNoAckReceived).timeout)
    (ioFails : d.ioFails = c.ioFails) (closed : d.closed = true) : Supervised settings d where
  timeout := timeout.trans supervised.timeout
  reliable := by
    rw [ioFails]
    exact supervised.reliable
  planned still := by
    rw [closed] at still
    cases still

private theorem armed
    (timeout : (c.timer .maxTimeNoAckReceived).timeout = settings.maxTimeNoAckReceived)
    (reliable : ∀ call, c.ioFails call = false)
    (outstanding : c.sendSequenceNumber ≠ c.acknowledgedSendSequenceNumber) :
    Supervised settings c.armed where
  timeout := (armed_timeout _).trans timeout
  reliable := reliable
  planned _ := by
    apply iff_of_true _ outstanding
    have t1 : (c.cancelledIfPlanned .maxTimeNoAckSentTimer).timer .maxTimeNoAckReceived =
        c.timer .maxTimeNoAckReceived := cancelledIfPlanned_timer_other _ _ (by simp)
    rw [timer, armed_timeoutManager]
    split
    case isTrue running => exact running
    case isFalse =>
      have range := settings.t1_range
      rw [TimeoutManager.addTimerTask_self]
      apply TimeoutTask.updateDueTime_isPlanned
      rw [timer] at t1
      rw [t1]
      omega

/-- The next number is never an outstanding one, since the window is not full. -/
theorem numbered_outstanding (counting : Counting settings c)
    (window : c.getNumUnconfirmedAPdusSent < settings.maxNumOfOutstandingIPdus) :
    c.numbered.sendSequenceNumber ≠ c.numbered.acknowledgedSendSequenceNumber := by
  have send_lt := counting.send_lt
  have acknowledged_lt := counting.acknowledgedSend_lt
  have range := settings.k_range
  simp only [getNumUnconfirmedAPdusSent, sequenceNumberDiff] at window
  simp only [numbered_sendSequenceNumber, numbered_acknowledgedSendSequenceNumber]
  grind

/-- The timer is cancelled by an acknowledgement, and armed again if frames are still
outstanding. -/
theorem acknowledged (supervised : Supervised settings c) (receiveSeqNumber : Nat) :
    Supervised settings (c.acknowledged receiveSeqNumber) := by
  by_cases same : c.acknowledgedSendSequenceNumber = receiveSeqNumber
  · apply supervised.congr
    simp [sendingSide, timer, acknowledgedTimers, same]
  · let cancelled := c.cancelledIfPlanned .maxTimeNoAckReceived
    have timers : c.acknowledgedTimers receiveSeqNumber =
        if c.sendSequenceNumber ≠ receiveSeqNumber then
          cancelled.timeoutManager.addTimerTask c.currentTimeMillis .maxTimeNoAckReceived
        else cancelled.timeoutManager := if_neg same
    have timeout : (cancelled.timer .maxTimeNoAckReceived).timeout = settings.maxTimeNoAckReceived :=
      (cancelledIfPlanned_timeout ..).trans supervised.timeout
    constructor
    case timeout =>
      rw [timer, acknowledged_timeoutManager, timers]
      split
      · rw [TimeoutManager.addTimerTask_timeout]
        exact timeout
      · exact timeout
    case reliable => exact supervised.reliable
    case planned =>
      intro _
      rw [SupervisionPlanned, timer, acknowledged_timeoutManager, timers]
      by_cases all : c.sendSequenceNumber = receiveSeqNumber
      · rw [if_neg (not_not.mpr all)]
        have idle : (cancelled.timer .maxTimeNoAckReceived).isPlanned = false :=
          cancelledIfPlanned_isPlanned _
        exact iff_of_false (Bool.eq_false_iff.mp idle) (not_not.mpr all)
      · rw [if_pos all, TimeoutManager.addTimerTask_self]
        apply iff_of_true _ all
        apply TimeoutTask.updateDueTime_isPlanned
        have range := settings.t1_range
        rw [timer] at timeout
        omega

private theorem prepareSend (supervised : Supervised settings c) (counting : Counting settings c)
    (aSdu : ASdu) (window : c.getNumUnconfirmedAPdusSent < settings.maxNumOfOutstandingIPdus) :
    Post (prepareSend settings aSdu) c (fun _ => Supervised settings) (fun _ => Supervised settings) := by
  have outstanding := numbered_outstanding counting window
  have timeout := supervised.timeout
  have reliable := supervised.reliable
  rw [post_prepareSend]
  refine ⟨fun _ => supervised, fun isOpen => ⟨fun _ => supervised, fun _ => ?_⟩⟩
  constructor
  · intro _
    rw [post_sendSFormatPdu]
    -- the stream does not fail, and the connection is open
    refine ⟨fun fails => ?_, fun _ => ⟨fun fails => ?_, fun _ => ?_⟩⟩
    · simp [reliable] at fails
    · simp [reliable, isOpen] at fails
    · exact armed (by simpa using timeout) reliable outstanding
  · intro _
    exact armed timeout reliable outstanding

theorem invariant : SendingInvariant settings (Supervised settings) where
  congr _ _ supervised same := supervised.congr same
  prepareSend _ aSdu supervised counting window := supervised.prepareSend counting aSdu window
  acknowledged _ receiveSeqNumber supervised _ _ _ := supervised.acknowledged receiveSeqNumber
  close c supervised := by
    rw [Always, post_close]
    exact ⟨fun _ => supervised, fun _ => supervised.of_closed rfl rfl rfl⟩
  expire c id supervised closes := by
    have shut {d : Connection} (task : d.timer = c.timer) (ioFails : d.ioFails = c.ioFails)
        (closed : d.closed = true) : Always (Supervised settings) d (setDone id) := by
      rw [Always, post_setDone]
      refine supervised.of_closed ?_ ioFails closed
      rw [← task]
      rcases closes with rfl | rfl <;> simp [timer]
    rw [Always, post_executeManually, post_execute_close closes, post_close]
    exact ⟨fun _ => supervised, fun _ => ⟨fun closed => shut rfl rfl closed, fun _ => shut rfl rfl rfl⟩⟩

theorem started (now : Nat) : Supervised settings (started settings (fun _ => false) now) where
  timeout := by simp [Connection.started, timer, newTimers]
  reliable _ := rfl
  planned _ := by simp [SupervisionPlanned, Connection.started, timer, newTimers, TimeoutTask.isPlanned]

end Supervised

/-- While the connection is open and its stream does not fail, the t1 timer is planned
exactly when frames are outstanding, whatever the peer sends. -/
theorem supervision_planned {actions : List Action} {now : Nat}
    (run : Run (Step settings server) (started settings (fun _ => false) now) actions c)
    (isOpen : c.closed = false) :
    (c.timer .maxTimeNoAckReceived).isPlanned = true ↔
      c.sendSequenceNumber ≠ c.acknowledgedSendSequenceNumber := by
  have supervised : Supervised settings c := Supervised.invariant.run run (.started now)
  exact supervised.planned isOpen

/-- One of two commands is acknowledged, so the timer runs for the other one. -/
theorem supervision_planned_sample :
    ∃ c, Run (Step {} true) (started {} (fun _ => false) 0) sampleExchange c ∧
      c.sendSequenceNumber = 2 ∧ c.acknowledgedSendSequenceNumber = 1 ∧
      (c.timer .maxTimeNoAckReceived).isPlanned = true := by
  have run : Run (Step {} true) (started {} (fun _ => false) 0) sampleExchange
    (sampleState true sampleExchange) := run_of_runActions rfl
  exact ⟨_, run, rfl, rfl, (supervision_planned run rfl).mpr (Nat.succ_ne_self 1)⟩

end Connection

end J60870
