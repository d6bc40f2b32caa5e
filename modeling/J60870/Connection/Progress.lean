import J60870.Connection.Peers
import J60870.Connection.ReceivingSide

namespace J60870

open Lib Method SlidingWindow

namespace Connection

variable {settings : ConnectionSettings} {c d : Connection}

def weight (frames : List APdu) : Nat :=
  (frames.map fun frame => if frame.apciType = .I_FORMAT then 3 else 1).sum

theorem weight_append (first second : List APdu) : weight (first ++ second) = weight first + weight second := by
  simp [weight]

/-- The connection is open on a stream that takes everything, and has told the other side what it has
recorded as acknowledged. -/
structure Recorded (c : Connection) : Prop where
  closed : c.closed = false
  ioFails : ∀ call, c.ioFails call = false
  receive_lt : c.receiveSequenceNumber < 2 ^ 15
  settled : c.Settled

/-- The connection has written frames of some weight since `b`, and has been told `number`. -/
structure Answers (b : Connection) (most : Nat) (number : Nat) (c : Connection) : Prop extends Recorded c where
  frames : ∃ new, c.frames = b.frames ++ new ∧ weight new ≤ most
  acknowledged : c.acknowledgedSendSequenceNumber = number

def answering (c : Connection) : Bool × (Nat → Bool) × (Nat × Nat × Nat) × List Written :=
  (c.closed, c.ioFails, (c.receiveSequenceNumber, c.acknowledgedReceiveSequenceNumber,
    c.acknowledgedSendSequenceNumber), c.written)

namespace Answers

variable {b : Connection} {most number : Nat}

theorem congr (answers : Answers b most number c) (same : d.answering = c.answering) :
    Answers b most number d := by
  simp only [answering, Prod.mk.injEq] at same
  obtain ⟨sameClosed, sameIoFails, ⟨receive, acknowledgedReceive, acknowledgedSend⟩, written⟩ := same
  obtain ⟨⟨closed, ioFails, receive_lt, settled⟩, framed, acknowledged⟩ := answers
  refine ⟨⟨?_, ?_, ?_, ?_⟩, ?_, ?_⟩
  · rwa [sameClosed]
  · rwa [sameIoFails]
  · rwa [receive]
  · rwa [Settled, acknowledgedReceive, lastConfirmation, confirmations, Connection.frames, written]
  · rwa [Connection.frames, written]
  · rwa [acknowledgedSend]

theorem mono {more : Nat} (answers : Answers b most number c) (le : most ≤ more) : Answers b more number c := by
  obtain ⟨recorded, ⟨new, framed, light⟩, acknowledged⟩ := answers
  exact ⟨recorded, ⟨new, framed, Nat.le_trans light le⟩, acknowledged⟩

theorem sFormatSent (closed : c.closed = false) (ioFails : ∀ call, c.ioFails call = false)
    (receive_lt : c.receiveSequenceNumber < 2 ^ 15)
    (framed : ∃ new, c.frames = b.frames ++ new ∧ weight new ≤ most)
    (acknowledged : c.acknowledgedSendSequenceNumber = number) :
    Answers b (most + 1) number c.sFormatSent := by
  obtain ⟨new, framed, light⟩ := framed
  refine ⟨⟨closed, ioFails, receive_lt, ?_⟩, ⟨new ++ [.sFormat c.receiveSequenceNumber], ?_, ?_⟩, acknowledged⟩
  · exact (lastConfirmation_append sFormatSent_confirmations).symm
  · rw [← List.append_assoc, ← framed]
    simp [Connection.frames]
  · rw [weight_append]
    exact Nat.add_le_add_right light 1

private theorem updateReceiveSeqNum (answers : Answers b most number c) (sendSeqNumber : Nat) :
    Post (updateReceiveSeqNum settings sendSeqNumber) c (fun _ d => Answers b (most + 1) number d)
      (fun _ _ => True) := by
  obtain ⟨⟨closed, ioFails, receive_lt, settled⟩, framed, acknowledged⟩ := answers
  have counted : c.received.receiveSequenceNumber < 2 ^ 15 := Nat.mod_lt _ (Nat.two_pow_pos 15)
  rw [post_updateReceiveSeqNum]
  refine ⟨fun _ => trivial, fun _ => ⟨fun _ => ?_, fun _ => ?_⟩⟩
  · rw [post_sendSFormatPdu]
    exact ⟨fun _ => trivial, fun _ => ⟨fun _ => trivial, fun _ =>
      sFormatSent closed ioFails counted framed acknowledged⟩⟩
  · have received : Answers b most number c.received := ⟨⟨closed, ioFails, counted, settled⟩, framed, acknowledged⟩
    exact received.mono (Nat.le_succ most)

private theorem handleReceiveSequenceNumber (answers : Answers b most number c) (receiveSeqNumber : Nat) :
    Post (handleReceiveSequenceNumber settings receiveSeqNumber) c
      (fun _ d => Answers b most receiveSeqNumber d) (fun _ _ => True) := by
  have recorded {timeoutManager : TimeoutManager TimerId} {notifications : Nat} : Answers b most receiveSeqNumber
      { c with
        acknowledgedSendSequenceNumber := receiveSeqNumber
        timeoutManager := timeoutManager
        notifications := notifications } :=
    ⟨⟨answers.closed, answers.ioFails, answers.receive_lt, answers.settled⟩, answers.frames, rfl⟩
  by_cases same : c.acknowledgedSendSequenceNumber = receiveSeqNumber
  · subst same
    simpa [Connection.handleReceiveSequenceNumber] using recorded
  · simp [Connection.handleReceiveSequenceNumber, same, cancelledIfPlanned, recorded]

private theorem handOver (answers : Answers b most number c) (aSdu : Option ASdu) :
    Post (handOver aSdu) c (fun _ d => Answers b most number d) (fun _ _ => True) :=
  (post_handOver aSdu).mpr (answers.congr rfl)

end Answers

/-- The connection has confirmed what it received, except for fewer frames than w. -/
structure UpToDate (settings : ConnectionSettings) (b : Connection) (most number : Nat) (c : Connection) :
    Prop extends Answers b most number c where
  few : c.numUnconfirmedIPdusReceived < settings.maxUnconfirmedIPdusReceived

namespace UpToDate

variable {b : Connection} {most number : Nat}

theorem again (confirms : UpToDate settings b most number c) : UpToDate settings c 0 number c :=
  ⟨⟨confirms.toRecorded, ⟨[], (List.append_nil _).symm, Nat.le_refl 0⟩, confirms.acknowledged⟩, confirms.few⟩

theorem congr (confirms : UpToDate settings b most number c) (same : d.answering = c.answering) :
    UpToDate settings b most number d := by
  refine ⟨confirms.toAnswers.congr same, ?_⟩
  simp only [answering, Prod.mk.injEq] at same
  rw [numUnconfirmedIPdusReceived, same.2.2.1.1, same.2.2.1.2.1]
  exact confirms.few

private theorem of_equal (answers : Answers b most number c)
    (equal : c.acknowledgedReceiveSequenceNumber = c.receiveSequenceNumber) : UpToDate settings b most number c := by
  refine ⟨answers, ?_⟩
  rw [numUnconfirmedIPdusReceived, equal, sequenceNumberDiff_self]
  exact settings.w_range.1

private theorem acknowledgeReceived (answers : Answers b most number c) :
    Post (acknowledgeReceived settings) c (fun _ d => UpToDate settings b (most + 1) number d)
      (fun _ _ => True) := by
  obtain ⟨⟨closed, ioFails, receive_lt, settled⟩, framed, acknowledged⟩ := answers
  rw [post_acknowledgeReceived]
  refine ⟨fun _ => ?_, fun few => ?_⟩
  · rw [post_sendSFormatPdu]
    refine ⟨fun _ => trivial, fun _ => ⟨fun _ => trivial, fun _ => ?_⟩⟩
    have sent : UpToDate settings b (most + 1) number c.sFormatSent :=
      of_equal (.sFormatSent closed ioFails receive_lt framed acknowledged) rfl
    exact sent.congr rfl
  · have rested : UpToDate settings b (most + 1) number c :=
      ⟨Answers.mono ⟨⟨closed, ioFails, receive_lt, settled⟩, framed, acknowledged⟩ (Nat.le_succ most), few⟩
    exact rested.congr rfl

theorem handleIFrame (answers : Answers c 0 number c) (aPdu : APdu) :
    Post (handleIFrame settings aPdu) c (fun _ d => UpToDate settings c 2 aPdu.receiveSeqNum d)
      (fun _ _ => True) := by
  refine Post.seq (answers.updateReceiveSeqNum _) fun _ d answers => ?_
  refine Post.seq (answers.handleReceiveSequenceNumber _) fun _ d answers => ?_
  refine Post.seq (answers.handOver _) fun _ d answers => ?_
  exact acknowledgeReceived answers

theorem handleReceiveSequenceNumber (confirms : UpToDate settings c 0 number c) (receiveSeqNumber : Nat) :
    Post (handleReceiveSequenceNumber settings receiveSeqNumber) c
      (fun _ d => UpToDate settings c 0 receiveSeqNumber d) (fun _ _ => True) := by
  have same : Keeps Connection.numUnconfirmedIPdusReceived (Connection.handleReceiveSequenceNumber settings
      receiveSeqNumber) := fun c => by
    simp [Connection.handleReceiveSequenceNumber, numUnconfirmedIPdusReceived]
  refine ((confirms.toAnswers.handleReceiveSequenceNumber receiveSeqNumber).and (same c)).mono
    (fun _ d holds => ⟨holds.1, ?_⟩) fun _ _ _ => trivial
  rw [holds.2]
  exact confirms.few

theorem acknowledge (answers : Answers c 0 number c) :
    Post (execute settings .maxTimeNoAckSentTimer) c (fun _ d => UpToDate settings c 1 number d)
      (fun _ _ => True) := by
  obtain ⟨⟨closed, ioFails, receive_lt, settled⟩, framed, acknowledged⟩ := answers
  rw [execute, post_ignoringIOException, post_sendSFormatPdu]
  refine ⟨fun fails => ?_, fun _ => ⟨fun fails => ?_, fun _ => ?_⟩⟩
  · exact absurd ((ioFails _).symm.trans fails) Bool.false_ne_true
  · simp [ioFails, closed] at fails
  · exact of_equal (.sFormatSent closed ioFails receive_lt framed acknowledged) rfl

/-- The I frame of a `send` confirms what was received, and is recorded before it is written. -/
theorem send (answers : Answers c 0 number c) (aSdu : ASdu) :
    Post (Connection.send settings aSdu) c (fun _ d => UpToDate settings c 4 number d) (fun _ _ => True) := by
  obtain ⟨⟨closed, ioFails, receive_lt, -⟩, -, acknowledged⟩ := answers
  let taken (d : Connection) : Prop := ∃ new, weight (new.map Written.frame) ≤ 1 ∧
    d.answering = (c.closed, c.ioFails, (c.receiveSequenceNumber, c.receiveSequenceNumber,
      c.acknowledgedSendSequenceNumber), c.written ++ new)
  have prepared : Post (prepareSend settings aSdu) c
      (fun aPdu d => aPdu = .iFormat c.sendSequenceNumber c.receiveSequenceNumber aSdu ∧ taken d)
      (fun _ _ => True) := by
    rw [post_prepareSend]
    refine ⟨fun _ => trivial, fun _ => ⟨fun _ => trivial, fun _ => ⟨fun _ => ?_, fun _ => ?_⟩⟩⟩
    · rw [post_sendSFormatPdu]
      exact ⟨fun _ => trivial, fun _ => ⟨fun _ => trivial, fun _ =>
        ⟨rfl, [⟨.sFormat c.receiveSequenceNumber, c.stopped⟩], Nat.le_refl 1, rfl⟩⟩⟩
    · exact ⟨rfl, [], Nat.zero_le _, by simp [answering]⟩
  refine Post.seq prepared fun aPdu d holds => ?_
  obtain ⟨rfl, new, light, same⟩ := holds
  refine Post.seq ((keeps_encode (f := answering) (fun _ _ => rfl) _ d).mono (fun _ _ kept => kept.trans same)
    fun _ _ _ => trivial) fun _ d same => ?_
  simp only [answering, Prod.mk.injEq] at same
  obtain ⟨sameClosed, sameIoFails, ⟨receive, acknowledgedReceive, acknowledgedSend⟩, written⟩ := same
  simp only [post_bind, post_write, post_flush, post_resetMaxIdleTimeTimer]
  refine ⟨fun _ => trivial, fun _ => ⟨fun _ => trivial, fun _ => ?_⟩⟩
  refine of_equal ⟨⟨?_, ?_, ?_, ?_⟩, ?_, ?_⟩ ?_
  · exact sameClosed.trans closed
  · exact fun call => (congrFun sameIoFails call).trans (ioFails call)
  · exact receive.trans_lt receive_lt
  · rw [Settled, lastConfirmation_append (confirmations_append rfl rfl)]
    exact acknowledgedReceive
  · refine ⟨new.map Written.frame ++
      [.iFormat c.sendSequenceNumber c.receiveSequenceNumber aSdu], ?_, ?_⟩
    · simp [frames, written]
    · rw [weight_append]
      exact Nat.add_le_add_right light 3
  · exact acknowledgedSend.trans acknowledged
  · exact acknowledgedReceive.trans receive.symm

end UpToDate

/-- The number a connection has been told last, having handled some of the frames of the other. -/
def lastAcknowledged (frames : List APdu) (handled : Nat) : Nat :=
  ((frames.take handled).filterMap APdu.confirmation).getLast?.getD 0

end Connection

namespace Peers

open Connection

variable {nearSettings farSettings : ConnectionSettings} {start peers next : Peers}

def weight (peers : Peers) : Nat := Connection.weight peers.toNear + Connection.weight peers.toFar

/-- Each has confirmed nearly all it received, and knows what the other has confirmed in the frames it
has handled. -/
structure Confirming (nearSettings farSettings : ConnectionSettings) (peers : Peers) : Prop where
  refines : ∃ link, Refines nearSettings farSettings peers link
  near : UpToDate nearSettings peers.near 0 (lastAcknowledged peers.far.frames peers.nearHandled) peers.near
  far : UpToDate farSettings peers.far 0 (lastAcknowledged peers.near.frames peers.farHandled) peers.far

namespace Confirming

theorem flip (confirming : Confirming nearSettings farSettings peers) :
    Confirming farSettings nearSettings peers.flip := by
  obtain ⟨⟨link, refines⟩, near, far⟩ := confirming
  exact ⟨⟨link.flip, refines.flip⟩, far, near⟩

private theorem lastAcknowledged_next {frame : APdu} {rest : List APdu} {number : Nat}
    (waiting : peers.toNear = frame :: rest) (carries : frame.confirmation = some number) :
    lastAcknowledged peers.far.frames (peers.nearHandled + 1) = number := by
  have next : peers.far.frames[peers.nearHandled]? = some frame := by
    rw [← List.head?_drop]
    exact congrArg List.head? waiting
  rw [lastAcknowledged, List.take_add_one, next]
  simp [carries]

private theorem body {action : PeerAction} {body : Body Unit}
    (confirming : Confirming nearSettings farSettings peers)
    (found : peerBody nearSettings peers.near peers.toNear action = some body) :
    ∃ cost, Post body peers.near
      (fun _ d => UpToDate nearSettings peers.near cost
        (lastAcknowledged peers.far.frames (peers.moved action d).nearHandled) d) (fun _ _ => True) ∧
      (action = .handle → cost + Connection.weight peers.toNear.tail < Connection.weight peers.toNear) := by
  have near := confirming.near
  cases action with
  | send aSdu =>
    obtain ⟨-, ⟨⟩⟩ := Option.ite_none_right_eq_some.mp found
    exact ⟨4, UpToDate.send near.toAnswers aSdu, nofun⟩
  | acknowledge =>
    cases found
    exact ⟨1, UpToDate.acknowledge near.toAnswers, nofun⟩
  | handle =>
    cases waiting : peers.toNear with
    | nil =>
      rw [waiting] at found
      cases found
    | cons frame rest =>
      rw [waiting] at found
      cases format : frame.apciType <;> simp only [peerBody, format, reduceCtorEq, Option.some.injEq] at found
      case I_FORMAT =>
        subst found
        have carries : frame.confirmation = some frame.receiveSeqNum := by simp [APdu.confirmation, format]
        refine ⟨2, ?_, fun _ => by simp [Connection.weight, format]⟩
        simp only [moved, lastAcknowledged_next waiting carries]
        exact UpToDate.handleIFrame near.toAnswers frame
      case S_FORMAT =>
        subst found
        have carries : frame.confirmation = some frame.receiveSeqNum := by simp [APdu.confirmation, format]
        refine ⟨0, ?_, fun _ => by simp [Connection.weight, format]⟩
        simp only [moved, lastAcknowledged_next waiting carries]
        exact near.handleReceiveSequenceNumber _

private theorem move {action : PeerAction} (confirming : Confirming nearSettings farSettings peers)
    (fits : action.Fits nearSettings) (taken : peers.move nearSettings action = some next) :
    Confirming nearSettings farSettings next ∧ (action = .handle → next.weight < peers.weight) := by
  obtain ⟨body, found, rfl⟩ := Option.map_eq_some_iff.mp taken
  obtain ⟨cost, confirmed, cheaper⟩ := confirming.body found
  obtain ⟨⟨link, refines⟩, -, far⟩ := confirming
  refine Post.outcome (P := fun d => Confirming nearSettings farSettings (peers.moved action d) ∧
    (action = .handle → (peers.moved action d).weight < peers.weight)) ?_
  refine ((refines.body fits found).and confirmed).mono (fun _ d holds => ?_) fun _ _ thrown => thrown.1.elim
  obtain ⟨⟨moves, after, -, refined⟩, confirms⟩ := holds
  obtain ⟨new, framed, light⟩ := confirms.frames
  refine ⟨⟨⟨after, refined⟩, confirms.again, ?_⟩, ?_⟩
  · have same : lastAcknowledged d.frames peers.farHandled = lastAcknowledged peers.near.frames peers.farHandled := by
      rw [lastAcknowledged, framed, List.take_append_of_le_length refines.farHandled_le]
      rfl
    exact same ▸ far
  · rintro rfl
    have toFar : (peers.moved .handle d).toFar = peers.toFar ++ new := by
      rw [Peers.toFar, moved_near, framed]
      exact List.drop_append_of_le_length refines.farHandled_le
    have toNear : (peers.moved .handle d).toNear = peers.toNear.tail := List.tail_drop.symm
    have less := cheaper rfl
    rw [weight, weight, toFar, toNear, weight_append]
    omega

/-- Every step keeps it, and a delivery makes what is on its way lighter. -/
theorem step {action : Side × PeerAction} (confirming : Confirming nearSettings farSettings peers)
    (fits : SendsFit nearSettings farSettings peers action)
    (taken : Step nearSettings farSettings peers action next) :
    Confirming nearSettings farSettings next ∧ (action.2 = .handle → next.weight < peers.weight) := by
  obtain ⟨side, action⟩ := action
  cases side with
  | near => exact confirming.move fits taken
  | far =>
    obtain ⟨flipped, found, rfl⟩ := Option.map_eq_some_iff.mp taken
    obtain ⟨kept, lighter⟩ := move confirming.flip fits found
    refine ⟨kept.flip, fun handles => ?_⟩
    have less := lighter handles
    rw [weight, weight, Nat.add_comm] at less
    rw [weight, weight, Nat.add_comm (Connection.weight peers.toNear)]
    exact less

end Confirming

def Delivers (_ : Peers) (action : Side × PeerAction) : Prop := action.2 = .handle

/-- The near connection, with nothing left on its way. -/
structure Rests (nearSettings farSettings : ConnectionSettings) (peers : Peers) : Prop where
  /-- all it has sent is accepted -/
  accepted : peers.far.acceptedASdus = peers.near.sentASdus
  /-- it waits for what the other has not confirmed, which is less than w -/
  outstanding : peers.near.getNumUnconfirmedAPdusSent = peers.far.numUnconfirmedIPdusReceived
  few : peers.near.getNumUnconfirmedAPdusSent < farSettings.maxUnconfirmedIPdusReceived
  /-- it may send, unless its k is smaller than this w -/
  sends : farSettings.maxUnconfirmedIPdusReceived ≤ nearSettings.maxNumOfOutstandingIPdus →
    peers.near.stopped = false → ∀ aSdu, ∃ next, Step nearSettings farSettings peers (.near, .send aSdu) next

private theorem handles {link : Link (Option ASdu)} (refines : Refines nearSettings farSettings peers link)
    (waiting : peers.toNear ≠ []) : ∃ next, Step nearSettings farSettings peers (.near, .handle) next := by
  have able : (peerBody nearSettings peers.near peers.toNear .handle).isSome = true := by
    rw [refines.toNear] at waiting ⊢
    cases channel : link.toNear with
    | nil =>
      rw [channel] at waiting
      exact absurd rfl waiting
    | cons frame rest => cases frame <;> rfl
  obtain ⟨body, found⟩ := Option.isSome_iff_exists.mp able
  exact ⟨_, congrArg (Option.map _) found⟩

private theorem Confirming.rests (confirming : Confirming nearSettings farSettings peers)
    (toNear : peers.toNear = []) (toFar : peers.toFar = []) : Rests nearSettings farSettings peers := by
  obtain ⟨⟨link, refines⟩, near, far⟩ := confirming
  have accepted : peers.far.acceptedASdus = peers.near.sentASdus := by
    have inOrder := refines.flip.nearAgrees.inOrder
    have none : peers.flip.toNear = [] := toFar
    rw [none, List.filterMap_nil, List.append_nil] at inOrder
    exact inOrder
  have sent : peers.near.sendSequenceNumber = peers.far.receiveSequenceNumber := by
    rw [refines.near.stands.send, refines.far.stands.receive, ← refines.near.sent, ← accepted,
      refines.far.stands.accepted]
  have handled : peers.far.frames.take peers.nearHandled = peers.far.frames :=
    List.take_of_length_le (List.drop_eq_nil_iff.mp toNear)
  have confirmed : peers.near.acknowledgedSendSequenceNumber = peers.far.acknowledgedReceiveSequenceNumber := by
    rw [near.acknowledged, lastAcknowledged, handled, far.settled]
    rfl
  have outstanding : peers.near.getNumUnconfirmedAPdusSent = peers.far.numUnconfirmedIPdusReceived := by
    rw [getNumUnconfirmedAPdusSent, numUnconfirmedIPdusReceived, sent, confirmed]
  have few : peers.near.getNumUnconfirmedAPdusSent < farSettings.maxUnconfirmedIPdusReceived :=
    outstanding ▸ far.few
  refine ⟨accepted, outstanding, few, fun enough started aSdu => ?_⟩
  have found : peerBody nearSettings peers.near peers.toNear (.send aSdu) =
      some (Connection.send nearSettings aSdu) :=
    if_pos ⟨near.closed, started, Nat.lt_of_lt_of_le few enough⟩
  exact ⟨_, congrArg (Option.map _) found⟩

theorem Confirming.of_fresh (fresh : start.Fresh) : Confirming nearSettings farSettings start := by
  have quiet {settings : ConnectionSettings} {c : Connection} {heard : List APdu} (fresh : c.Fresh)
      (none : heard = []) : UpToDate settings c 0 (lastAcknowledged heard 0) c := by
    obtain ⟨numbers, closed, ioFails, written, -⟩ := fresh
    simp only [Connection.numbers, Prod.mk.injEq] at numbers
    obtain ⟨-, receive, acknowledgedReceive, acknowledgedSend⟩ := numbers
    refine ⟨⟨⟨closed, ioFails, ?_, ?_⟩, ⟨[], (List.append_nil _).symm, Nat.le_refl 0⟩, ?_⟩, ?_⟩
    · rw [receive]
      exact Nat.two_pow_pos 15
    · rw [Settled, acknowledgedReceive, lastConfirmation, confirmations, frames, written]
      rfl
    · rw [acknowledgedSend, lastAcknowledged, none]
      rfl
    · rw [numUnconfirmedIPdusReceived, receive, acknowledgedReceive, sequenceNumberDiff_self]
      exact settings.w_range.1
  refine ⟨⟨_, .start fresh⟩, ?_, ?_⟩
  · rw [fresh.nearHandled]
    exact quiet fresh.near (by rw [frames, fresh.far.written]; rfl)
  · rw [fresh.farHandled]
    exact quiet fresh.far (by rw [frames, fresh.near.written]; rfl)

/-- Wherever two connections are, the frames on their way and those that answer them are handled after
a bounded number of steps. Then all that was sent is accepted, and unless a k is smaller than the other
w nobody has to wait for a timer to send again. -/
theorem deliveries_end {actions deliveries : List (Side × PeerAction)} (fresh : start.Fresh)
    (run : Run (Run.Guarded (SendsFit nearSettings farSettings) (Step nearSettings farSettings))
      start actions peers)
    (delivered : Run (Run.Guarded Delivers (Step nearSettings farSettings)) peers deliveries next) :
    deliveries.length + next.weight ≤ peers.weight ∧
    ((∀ side after, ¬ Step nearSettings farSettings next (side, .handle) after) →
      Rests nearSettings farSettings next ∧ Rests farSettings nearSettings next.flip) := by
  have reached : Confirming nearSettings farSettings peers :=
    run.invariant (.of_fresh fresh) fun _ _ _ confirming taken => (confirming.step taken.1 taken.2).1
  have shrinks : ∀ peers action next, Confirming nearSettings farSettings peers →
      Run.Guarded Delivers (Step nearSettings farSettings) peers action next →
      Confirming nearSettings farSettings next ∧ next.weight < peers.weight := by
    rintro peers ⟨side, action⟩ next confirming ⟨delivers, taken⟩
    obtain rfl : action = .handle := delivers
    obtain ⟨kept, lighter⟩ := confirming.step (by cases side <;> trivial) taken
    exact ⟨kept, lighter rfl⟩
  obtain ⟨confirming, bound⟩ := delivered.length_le reached shrinks
  refine ⟨bound, fun stuck => ?_⟩
  obtain ⟨link, refines⟩ := confirming.refines
  have toNear : next.toNear = [] := by
    by_contra waiting
    obtain ⟨after, taken⟩ := handles refines waiting
    exact stuck .near after taken
  have toFar : next.toFar = [] := by
    by_contra waiting
    have waitingFlipped : next.flip.toNear ≠ [] := waiting
    obtain ⟨after, taken⟩ := handles refines.flip waitingFlipped
    exact stuck .far after.flip (Option.map_eq_some_iff.mpr ⟨after, taken, rfl⟩)
  exact ⟨confirming.rests toNear toFar, confirming.flip.rests toFar toNear⟩

/-- A command that is sent, and its delivery. -/
theorem deliveries_end_sample :
    (samplePeers {} [(.near, .send sampleCommand)]).weight = 3 ∧
    Rests {} {} (samplePeers {} [(.near, .send sampleCommand), (.far, .handle)]) := by
  have fresh : (sampleStarted {}).Fresh :=
    ⟨⟨rfl, rfl, fun _ => rfl, rfl, rfl⟩, ⟨rfl, rfl, fun _ => rfl, rfl, rfl⟩, rfl, rfl⟩
  have fits : sampleCommand.Fits {} := by decide
  have run : Run (Run.Guarded (SendsFit {} {}) (Step {} {})) (sampleStarted {})
      [(.near, .send sampleCommand)] (samplePeers {} [(.near, .send sampleCommand)]) :=
    Run.guarded_of_perform rfl ⟨fits, trivial⟩
  have delivered : Run (Run.Guarded Delivers (Step {} {})) (samplePeers {} [(.near, .send sampleCommand)])
      [(.far, .handle)] (samplePeers {} [(.near, .send sampleCommand), (.far, .handle)]) :=
    Run.guarded_of_perform rfl ⟨rfl, trivial⟩
  refine ⟨rfl, ((deliveries_end fresh run delivered).2 ?_).1⟩
  intro side after taken
  cases side <;> cases taken

end Peers

end J60870
