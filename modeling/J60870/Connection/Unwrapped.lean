import J60870.Connection.Delivery
import J60870.Connection.Sending

namespace J60870

open Lib Method

def Event.acceptedASdu : Event → Option (Option ASdu)
  | .accepted aSdu _ => some aSdu
  | _ => none

namespace Connection

variable {settings : ConnectionSettings} {c d : Connection}

def frames (c : Connection) : List APdu := c.written.map Written.frame

def sentASdus (c : Connection) : List (Option ASdu) := c.frames.filterMap APdu.informed

def acceptedASdus (c : Connection) : List (Option ASdu) := c.events.filterMap Event.acceptedASdu

/-- The frames that have gone out: a flush behind them has come to an open socket. -/
def outgoing (c : Connection) : List APdu := c.frames.take c.flushed

/-- The contents of the I frames that have gone out. -/
def outgoingASdus (c : Connection) : List (Option ASdu) := c.outgoing.filterMap APdu.informed

theorem outgoingASdus_prefix (c : Connection) : c.outgoingASdus <+: c.sentASdus :=
  (List.take_prefix _ _).filterMap _

theorem sequenceNumberDiff_mod {number ackNumber : Nat} (le : ackNumber ≤ number)
    (near : number - ackNumber < 2 ^ 15) :
    sequenceNumberDiff (number % 2 ^ 15) (ackNumber % 2 ^ 15) = number - ackNumber := by
  unfold sequenceNumberDiff
  split <;> omega

/-- An open connection on a stream that takes everything has counted `sent`, `received`
and `acknowledged` frames, has written `frames` and accepted `accepted`. -/
structure Stands (sent received acknowledged : Nat) (frames : List APdu)
    (accepted : List (Option ASdu)) (c : Connection) : Prop where
  closed : c.closed = false
  ioFails : ∀ call, c.ioFails call = false
  send : c.sendSequenceNumber = sent % 2 ^ 15
  receive : c.receiveSequenceNumber = received % 2 ^ 15
  acknowledgedSend : c.acknowledgedSendSequenceNumber = acknowledged % 2 ^ 15
  acknowledgedReceive_lt : c.acknowledgedReceiveSequenceNumber < 2 ^ 15
  frames : c.frames = frames
  accepted : c.acceptedASdus = accepted

namespace Stands

variable {sent received acknowledged : Nat} {frames : List APdu} {accepted : List (Option ASdu)}
variable {Q : Unit → Connection → Prop} {E : JavaException → Connection → Prop}

theorem counting (stands : Stands sent received acknowledged frames accepted c)
    (le : acknowledged ≤ sent) (window : sent ≤ acknowledged + settings.maxNumOfOutstandingIPdus) :
    Counting settings c := by
  obtain ⟨-, -, send, receive, acknowledgedSend, acknowledgedReceive_lt, -, -⟩ := stands
  have range := settings.k_range
  constructor
  · rw [send]
    exact Nat.mod_lt _ (Nat.two_pow_pos 15)
  · rw [acknowledgedSend]
    exact Nat.mod_lt _ (Nat.two_pow_pos 15)
  · rw [receive]
    exact Nat.mod_lt _ (Nat.two_pow_pos 15)
  · exact acknowledgedReceive_lt
  · rw [getNumUnconfirmedAPdusSent, send, acknowledgedSend, sequenceNumberDiff_mod le (by omega)]
    omega

theorem post_sendSFormatPdu (stands : Stands sent received acknowledged frames accepted c) :
    Post (sendSFormatPdu settings) c Q E ↔ Q () c.sFormatSent := by
  simp [stands.closed, stands.ioFails]

theorem sFormatSent (stands : Stands sent received acknowledged frames accepted c) :
    Stands sent received acknowledged (frames ++ [.sFormat (received % 2 ^ 15)]) accepted
      c.sFormatSent := by
  obtain ⟨closed, ioFails, send, receive, acknowledgedSend, acknowledgedReceive_lt, framed, taken⟩ := stands
  constructor
  · exact closed
  · exact ioFails
  · exact send
  · exact receive
  · exact acknowledgedSend
  · rw [sFormatSent_acknowledgedReceiveSequenceNumber, receive]
    exact Nat.mod_lt _ (Nat.two_pow_pos 15)
  · rw [← framed, ← receive]
    simp [Connection.frames]
  · exact taken

/-- What does not touch the counters and the frames may be done. -/
theorem congr (stands : Stands sent received acknowledged frames accepted c)
    (same : (d.closed, d.ioFails, d.numbers, d.written, d.acceptedASdus) =
      (c.closed, c.ioFails, c.numbers, c.written, c.acceptedASdus)) :
    Stands sent received acknowledged frames accepted d := by
  simp only [numbers, Prod.mk.injEq] at same
  obtain ⟨sameClosed, sameIoFails, ⟨sameSend, sameReceive, sameAcknowledgedReceive,
    sameAcknowledgedSend⟩, sameWritten, sameAccepted⟩ := same
  obtain ⟨closed, ioFails, send, receive, acknowledgedSend, acknowledgedReceive_lt, framed, taken⟩ := stands
  constructor
  · rwa [sameClosed]
  · rwa [sameIoFails]
  · rwa [sameSend]
  · rwa [sameReceive]
  · rwa [sameAcknowledgedSend]
  · rwa [sameAcknowledgedReceive]
  · rwa [Connection.frames, sameWritten]
  · rwa [sameAccepted]

theorem counted (stands : Stands sent received acknowledged frames accepted c) :
    Stands sent (received + 1) acknowledged frames accepted c.received := by
  obtain ⟨closed, ioFails, send, receive, acknowledgedSend, acknowledgedReceive_lt, framed, taken⟩ := stands
  refine ⟨closed, ioFails, send, ?_, acknowledgedSend, acknowledgedReceive_lt, framed, taken⟩
  rw [received_receiveSequenceNumber, receive, Nat.mod_add_mod]

theorem numbered (stands : Stands sent received acknowledged frames accepted c) :
    Stands (sent + 1) received acknowledged frames accepted c.numbered := by
  obtain ⟨closed, ioFails, send, receive, acknowledgedSend, -, framed, taken⟩ := stands
  refine ⟨closed, ioFails, ?_, receive, acknowledgedSend, ?_, framed, taken⟩
  · rw [numbered_sendSequenceNumber, send, Nat.mod_add_mod]
  · rw [numbered_acknowledgedReceiveSequenceNumber, receive]
    exact Nat.mod_lt _ (Nat.two_pow_pos 15)

theorem writes (stands : Stands sent received acknowledged frames accepted c) (frame : APdu) :
    Post (write frame) c
      (fun _ d => Stands sent received acknowledged (frames ++ [frame]) accepted d)
      (fun _ _ => False) := by
  obtain ⟨closed, ioFails, send, receive, acknowledgedSend, acknowledgedReceive_lt, framed, taken⟩ := stands
  rw [post_write]
  refine ⟨fun fails => absurd ((ioFails _).symm.trans fails) Bool.false_ne_true, fun _ => ?_⟩
  refine ⟨closed, ioFails, send, receive, acknowledgedSend, acknowledgedReceive_lt, ?_, taken⟩
  rw [← framed]
  simp [Connection.frames]

theorem flushes (stands : Stands sent received acknowledged frames accepted c) :
    Post flush c (fun _ d => Stands sent received acknowledged frames accepted d)
      (fun _ _ => False) := by
  rw [post_flush]
  refine ⟨fun fails => ?_, fun _ => stands.congr rfl⟩
  rcases fails with fails | shut
  · exact absurd ((stands.ioFails _).symm.trans fails) Bool.false_ne_true
  · exact absurd (stands.closed.symm.trans shut) Bool.false_ne_true

theorem updateReceiveSeqNum (stands : Stands sent received acknowledged frames accepted c) :
    Post (updateReceiveSeqNum settings (received % 2 ^ 15)) c
      (fun _ d => ∃ n, Stands sent (received + 1) acknowledged
        (frames ++ List.replicate n (.sFormat ((received + 1) % 2 ^ 15))) accepted d)
      (fun _ _ => False) := by
  have counted := stands.counted
  rw [post_updateReceiveSeqNum]
  refine ⟨fun differs => absurd stands.receive differs, fun _ => ⟨fun _ => ?_, fun _ => ⟨0, ?_⟩⟩⟩
  · exact counted.post_sendSFormatPdu.mpr ⟨1, counted.sFormatSent⟩
  · simpa using counted

/-- What acknowledges sent frames is accepted. -/
theorem handleReceiveSequenceNumber {number : Nat}
    (stands : Stands sent received acknowledged frames accepted c)
    (window : sent ≤ acknowledged + settings.maxNumOfOutstandingIPdus)
    (more : acknowledged ≤ number) (le : number ≤ sent) :
    Post (handleReceiveSequenceNumber settings (number % 2 ^ 15)) c
      (fun _ d => Stands sent received number frames accepted d) (fun _ _ => False) := by
  have range := settings.k_range
  have counting := stands.counting (Nat.le_trans more le) window
  have inside : c.Acknowledges (number % 2 ^ 15) := by
    rw [Acknowledges, getNumUnconfirmedAPdusSent, stands.send, stands.acknowledgedSend,
      sequenceNumberDiff_mod more (by omega), sequenceNumberDiff_mod (Nat.le_trans more le) (by omega)]
    exact Nat.sub_le_sub_right le acknowledged
  rw [post_handleReceiveSequenceNumber counting (Nat.mod_lt _ (Nat.two_pow_pos 15))]
  refine ⟨fun _ => ?_, fun outside => absurd inside outside⟩
  obtain ⟨closed, ioFails, send, receive, -, acknowledgedReceive_lt, framed, taken⟩ := stands
  exact ⟨closed, ioFails, send, receive, rfl, acknowledgedReceive_lt, framed, taken⟩

theorem handOver (stands : Stands sent received acknowledged frames accepted c) (aSdu : Option ASdu) :
    Post (handOver aSdu) c
      (fun _ d => Stands sent received acknowledged frames (accepted ++ [aSdu]) d) (fun _ _ => False) := by
  rw [post_handOver]
  obtain ⟨closed, ioFails, send, receive, acknowledgedSend, acknowledgedReceive_lt, framed, taken⟩ := stands
  refine ⟨closed, ioFails, send, receive, acknowledgedSend, acknowledgedReceive_lt, framed, ?_⟩
  simp [acceptedASdus, ← taken, Event.acceptedASdu]

theorem acknowledgeReceived (stands : Stands sent received acknowledged frames accepted c) :
    Post (acknowledgeReceived settings) c
      (fun _ d => ∃ n, Stands sent received acknowledged
        (frames ++ List.replicate n (.sFormat (received % 2 ^ 15))) accepted d)
      (fun _ _ => False) := by
  rw [post_acknowledgeReceived]
  refine ⟨fun _ => stands.post_sendSFormatPdu.mpr ⟨1, ?_⟩, fun _ => ⟨0, ?_⟩⟩
  · exact stands.sFormatSent.congr rfl
  · have planned : Stands sent received acknowledged frames accepted c.acknowledgementPlanned :=
      stands.congr rfl
    simpa using planned

/-- An I frame that carries the expected number and acknowledges sent frames is accepted. -/
theorem handleIFrame {number : Nat} (stands : Stands sent received acknowledged frames accepted c)
    (window : sent ≤ acknowledged + settings.maxNumOfOutstandingIPdus)
    (more : acknowledged ≤ number) (le : number ≤ sent) (aSdu : Option ASdu) :
    Post (handleIFrame settings ⟨received % 2 ^ 15, number % 2 ^ 15, .I_FORMAT, aSdu⟩) c
      (fun _ d => ∃ n, Stands sent (received + 1) number
        (frames ++ List.replicate n (.sFormat ((received + 1) % 2 ^ 15))) (accepted ++ [aSdu]) d)
      (fun _ _ => False) := by
  refine Post.seq stands.updateReceiveSeqNum fun _ d counted => ?_
  obtain ⟨first, stands⟩ := counted
  refine Post.seq (stands.handleReceiveSequenceNumber window more le) fun _ d stands => ?_
  refine Post.seq (stands.handOver aSdu) fun _ d stands => ?_
  refine stands.acknowledgeReceived.mono (fun _ d counted => ?_) fun _ _ => False.elim
  obtain ⟨second, stands⟩ := counted
  refine ⟨first + second, ?_⟩
  rwa [List.append_assoc, List.replicate_append_replicate] at stands

theorem sends (stands : Stands sent received acknowledged frames accepted c) (started : c.stopped = false)
    {aSdu : ASdu} (fits : aSdu.Fits settings) :
    Post (Connection.send settings aSdu) c
      (fun _ d => ∃ n, Stands (sent + 1) received acknowledged
        (frames ++ List.replicate n (.sFormat (received % 2 ^ 15)) ++
          [.iFormat (sent % 2 ^ 15) (received % 2 ^ 15) aSdu]) accepted d)
      (fun _ _ => False) := by
  have numbered := stands.numbered
  have armed {d : Connection} {frames : List APdu}
      (stands : Stands (sent + 1) received acknowledged frames accepted d) :
      Stands (sent + 1) received acknowledged frames accepted d.armed := stands.congr rfl
  have prepared : Post (prepareSend settings aSdu) c
      (fun aPdu d => aPdu = .iFormat (sent % 2 ^ 15) (received % 2 ^ 15) aSdu ∧
        ∃ n, Stands (sent + 1) received acknowledged
          (frames ++ List.replicate n (.sFormat (received % 2 ^ 15))) accepted d)
      (fun _ _ => False) := by
    rw [post_prepareSend, ← stands.send, ← stands.receive]
    refine ⟨fun shut => ?_, fun _ => ⟨fun halted => ?_, fun _ => ⟨fun _ => ?_, fun _ => ?_⟩⟩⟩
    · exact absurd (stands.closed.symm.trans shut) Bool.false_ne_true
    · exact absurd (started.symm.trans halted) Bool.false_ne_true
    · refine numbered.post_sendSFormatPdu.mpr ⟨rfl, 1, ?_⟩
      rw [stands.receive]
      exact armed numbered.sFormatSent
    · exact ⟨rfl, 0, by simpa using armed numbered⟩
  refine Post.seq prepared fun aPdu d holds => ?_
  obtain ⟨rfl, n, stands⟩ := holds
  rw [post_bind, post_encode_iFormat fits]
  have encoded {buffer : Vector Octet 255} := stands.congr (d := { d with buffer := buffer }) rfl
  refine Post.seq (encoded.writes _) fun _ d stands => ?_
  refine Post.seq stands.flushes fun _ d stands => ?_
  exact ⟨n, stands.congr rfl⟩

end Stands

end Connection

end J60870
