import J60870.Connection.Unwrapped
import J60870.Lib.SlidingWindow

/-! Two connections that are joined to each other. Their counters run modulo 2^15; the
pair refines the sliding window protocol, whose numbers are unbounded. -/

namespace J60870

open Lib Method SlidingWindow

namespace Connection

/-- A connection whose counters are 0, on a stream that takes everything. Nothing is
written and nothing accepted. -/
structure Fresh (c : Connection) : Prop where
  numbers : c.numbers = (0, 0, 0, 0)
  closed : c.closed = false
  ioFails : ∀ call, c.ioFails call = false
  written : c.written = []
  accepted : c.acceptedASdus = []

/-- What one of two joined connections does. -/
inductive PeerAction
  | send (aSdu : ASdu)
  /-- the t2 timer runs -/
  | acknowledge
  /-- the frame at the head of the channel is handled -/
  | handle

def PeerAction.Fits (settings : ConnectionSettings) : PeerAction → Prop
  | .send aSdu => aSdu.Fits settings
  | _ => True

/-- What an action runs, for the frames on their way to the connection. -/
def peerBody (settings : ConnectionSettings) (c : Connection) (channel : List APdu) :
    PeerAction → Option (Body Unit)
  | .send aSdu =>
    if c.closed = false ∧ c.stopped = false ∧
        c.getNumUnconfirmedAPdusSent < settings.maxNumOfOutstandingIPdus then
      some (send settings aSdu)
    else none
  | .acknowledge => some (execute settings .maxTimeNoAckSentTimer)
  | .handle =>
    match channel with
    | [] => none
    | frame :: _ =>
      match frame.apciType with
      | .I_FORMAT => some (handleIFrame settings frame)
      | .S_FORMAT => some (handleReceiveSequenceNumber settings frame.receiveSeqNum)
      | _ => none

end Connection

/-- Two connections. What one has written and the other has not handled is on its way. -/
structure Peers where
  near : Connection
  far : Connection
  /-- how many frames each has handled -/
  nearHandled : Nat := 0
  farHandled : Nat := 0

namespace Peers

open Connection

def toFar (peers : Peers) : List APdu := peers.near.frames.drop peers.farHandled

def toNear (peers : Peers) : List APdu := peers.far.frames.drop peers.nearHandled

def flip (peers : Peers) : Peers := ⟨peers.far, peers.near, peers.farHandled, peers.nearHandled⟩

/-- The near connection has taken an action. -/
def moved (peers : Peers) (action : PeerAction) (c : Connection) : Peers :=
  { peers with
    near := c
    nearHandled := match action with
      | .handle => peers.nearHandled + 1
      | _ => peers.nearHandled }

def move (settings : ConnectionSettings) (peers : Peers) (action : PeerAction) : Option Peers :=
  (peerBody settings peers.near peers.toNear action).map fun body =>
    peers.moved action (body.outcome peers.near)

variable (nearSettings farSettings : ConnectionSettings)

def step (peers : Peers) (action : Side × PeerAction) : Option Peers :=
  match action.1 with
  | .near => peers.move nearSettings action.2
  | .far => (peers.flip.move farSettings action.2).map flip

def Step (peers : Peers) (action : Side × PeerAction) (next : Peers) : Prop :=
  step nearSettings farSettings peers action = some next

/-- Every ASDU that is sent fits into the buffer of its connection. -/
def SendsFit (_ : Peers) (action : Side × PeerAction) : Prop :=
  match action.1 with
  | .near => action.2.Fits nearSettings
  | .far => action.2.Fits farSettings

/-- The sequence numbers of a frame as they go over the wire. -/
def wrapped : Frame (Option ASdu) → APdu
  | .information number received aSdu => ⟨number % 2 ^ 15, received % 2 ^ 15, .I_FORMAT, aSdu⟩
  | .supervisory received => .sFormat (received % 2 ^ 15)

/-- A connection and its written frames are the endpoint, modulo 2^15. -/
structure Counts (settings : ConnectionSettings) (c : Connection) (endpoint : Endpoint (Option ASdu)) :
    Prop where
  stands : Stands endpoint.sent.length endpoint.accepted.length endpoint.acknowledged c.frames
    endpoint.accepted c
  window : endpoint.window = settings.maxNumOfOutstandingIPdus
  sent : c.sentASdus = endpoint.sent

/-- The peers are the link, modulo 2^15. -/
structure Refines (peers : Peers) (link : Link (Option ASdu)) : Prop where
  valid : link.Valid
  near : Counts nearSettings peers.near link.near
  far : Counts farSettings peers.far link.far
  toFar : peers.toFar = link.toFar.map wrapped
  toNear : peers.toNear = link.toNear.map wrapped
  farHandled_le : peers.farHandled ≤ peers.near.frames.length
  nearHandled_le : peers.nearHandled ≤ peers.far.frames.length

variable {nearSettings farSettings} {peers : Peers} {link next : Link (Option ASdu)}

@[simp] theorem moved_near (action : PeerAction) (c : Connection) : (peers.moved action c).near = c := rfl

@[simp] theorem informed_wrapped (new : List (Frame (Option ASdu))) :
    (new.map wrapped).filterMap APdu.informed = new.filterMap Frame.content := by
  rw [List.filterMap_map]
  congr 1
  funext frame
  cases frame <;> rfl

namespace Refines

theorem flip (refines : Refines nearSettings farSettings peers link) :
    Refines farSettings nearSettings peers.flip link.flip := by
  obtain ⟨valid, near, far, toFar, toNear, farHandled_le, nearHandled_le⟩ := refines
  exact ⟨valid.flip, far, near, toNear, toFar, nearHandled_le, farHandled_le⟩

private theorem emit {c : Connection} {action : PeerAction} {new : List (Frame (Option ASdu))}
    {moves : List (Side × Move (Option ASdu))}
    (refines : Refines nearSettings farSettings peers link) (run : Run Link.Step link moves next)
    (stands : Stands next.near.sent.length next.near.accepted.length next.near.acknowledged
      (peers.near.frames ++ new.map wrapped) next.near.accepted c)
    (window : next.near.window = link.near.window) (far : next.far = link.far)
    (sent : next.near.sent = link.near.sent ++ new.filterMap Frame.content)
    (toFar : next.toFar = link.toFar ++ new)
    (toNear : (peers.moved action c).toNear = next.toNear.map wrapped)
    (handled : (peers.moved action c).nearHandled ≤ peers.far.frames.length) :
    ∃ moves next, Run Link.Step link moves next ∧
      Refines nearSettings farSettings (peers.moved action c) next := by
  refine ⟨moves, next, run, ?_⟩
  have framed : c.frames = peers.near.frames ++ new.map wrapped := stands.frames
  constructor
  · exact refines.valid.of_run run
  · refine ⟨framed ▸ stands, window.trans refines.near.window, ?_⟩
    rw [moved_near, sentASdus, framed, List.filterMap_append, informed_wrapped, sent, ← refines.near.sent,
      sentASdus]
  · rw [far]
    exact refines.far
  · have earlier := refines.toFar
    rw [Peers.toFar] at earlier ⊢
    rw [moved_near, framed, toFar, List.map_append, ← earlier]
    exact List.drop_append_of_le_length refines.farHandled_le
  · exact toNear
  · refine Nat.le_trans refines.farHandled_le ?_
    rw [moved_near, framed, List.length_append]
    exact Nat.le_add_right _ _
  · exact handled

private theorem send {aSdu : ASdu} (refines : Refines nearSettings farSettings peers link)
    (started : peers.near.stopped = false)
    (window : peers.near.getNumUnconfirmedAPdusSent < nearSettings.maxNumOfOutstandingIPdus)
    (fits : aSdu.Fits nearSettings) :
    Post (Connection.send nearSettings aSdu) peers.near
      (fun _ d => ∃ moves next, Run Link.Step link moves next ∧
        Refines nearSettings farSettings (peers.moved (.send aSdu) d) next)
      (fun _ _ => False) := by
  have stands := refines.near.stands
  have acknowledged_le : link.near.acknowledged ≤ link.near.sent.length :=
    Nat.le_trans refines.valid.toNear.acknowledged_le refines.valid.accepted_le
  have outstanding := refines.valid.nearWindow
  have range := nearSettings.k_range
  rw [refines.near.window] at outstanding
  rw [getNumUnconfirmedAPdusSent, stands.send, stands.acknowledgedSend,
    sequenceNumberDiff_mod acknowledged_le (by omega)] at window
  refine (stands.sends started fits).mono (fun _ d sent => ?_) fun _ _ => False.elim
  obtain ⟨n, sent⟩ := sent
  rw [List.append_assoc] at sent
  refine refines.emit (link.run_send n (some aSdu) (by rw [refines.near.window]; omega)) ?_ rfl rfl ?_ rfl
    refines.toNear refines.nearHandled_le
  · simpa [Endpoint.send, wrapped, APdu.iFormat] using sent
  · simp [Endpoint.send, Frame.content]

private theorem acknowledge (refines : Refines nearSettings farSettings peers link) :
    Post (execute nearSettings .maxTimeNoAckSentTimer) peers.near
      (fun _ d => ∃ moves next, Run Link.Step link moves next ∧
        Refines nearSettings farSettings (peers.moved .acknowledge d) next)
      (fun _ _ => False) := by
  have stands := refines.near.stands
  rw [execute, post_ignoringIOException, stands.post_sendSFormatPdu]
  refine refines.emit (link.run_supervise 1) ?_ rfl rfl ?_ rfl refines.toNear refines.nearHandled_le
  · simpa [wrapped] using stands.sFormatSent
  · simp [Frame.content]

private theorem handle {body : Body Unit} (refines : Refines nearSettings farSettings peers link)
    (found : peerBody nearSettings peers.near peers.toNear .handle = some body) :
    Post body peers.near
      (fun _ d => ∃ moves next, Run Link.Step link moves next ∧
        Refines nearSettings farSettings (peers.moved .handle d) next)
      (fun _ _ => False) := by
  have stands := refines.near.stands
  have window := refines.valid.nearWindow
  rw [refines.near.window] at window
  have incoming := refines.toNear
  cases waiting : link.toNear with
  | nil =>
    rw [incoming, waiting] at found
    cases found
  | cons frame rest =>
    rw [waiting, List.map_cons] at incoming
    obtain ⟨more, le⟩ := refines.valid.acknowledges (waiting ▸ List.mem_cons_self : frame ∈ link.toNear)
    replace le := Nat.le_trans le refines.valid.accepted_le
    have handled {c : Connection} : (peers.moved .handle c).nearHandled ≤ peers.far.frames.length := by
      have left := congrArg List.length incoming
      rw [Peers.toNear, List.length_drop, List.length_cons] at left
      exact Nat.lt_of_sub_eq_succ left
    have toNear {c : Connection} : (peers.moved .handle c).toNear = rest.map wrapped :=
      calc peers.far.frames.drop (peers.nearHandled + 1)
          = peers.toNear.tail := List.tail_drop.symm
        _ = rest.map wrapped := by rw [incoming, List.tail_cons]
    rw [incoming] at found
    cases frame with
    | information number received aSdu =>
      cases found
      have expected : number = link.near.accepted.length := by
        have flow := refines.valid.toNear
        rw [waiting] at flow
        exact flow.expected
      subst expected
      refine (stands.handleIFrame window more le aSdu).mono (fun _ d accepted => ?_) fun _ _ => False.elim
      obtain ⟨n, accepted⟩ := accepted
      refine refines.emit (Link.run_deliver waiting n) ?_ rfl rfl ?_ rfl toNear handled
      · simpa [Endpoint.deliver, wrapped, Frame.received] using accepted
      · simp [Endpoint.deliver, Frame.content]
    | supervisory received =>
      cases found
      refine (stands.handleReceiveSequenceNumber window more le).mono (fun _ d accepted => ?_)
        fun _ _ => False.elim
      refine refines.emit (Link.run_deliver waiting 0) ?_ rfl rfl ?_ rfl toNear handled
      · simpa [Endpoint.deliver, wrapped, Frame.received] using accepted
      · simp [Endpoint.deliver]

/-- A step of the near connection throws nothing and is matched by moves of the link. -/
theorem body {action : PeerAction} {body : Body Unit}
    (refines : Refines nearSettings farSettings peers link)
    (fits : action.Fits nearSettings)
    (found : peerBody nearSettings peers.near peers.toNear action = some body) :
    Post body peers.near
      (fun _ d => ∃ moves next, Run Link.Step link moves next ∧
        Refines nearSettings farSettings (peers.moved action d) next)
      (fun _ _ => False) := by
  cases action with
  | send aSdu =>
    obtain ⟨⟨-, started, window⟩, ⟨⟩⟩ := Option.ite_none_right_eq_some.mp found
    exact refines.send started window fits
  | acknowledge =>
    cases found
    exact refines.acknowledge
  | handle => exact refines.handle found

private theorem move {action : PeerAction} {peers' : Peers}
    (refines : Refines nearSettings farSettings peers link)
    (fits : action.Fits nearSettings) (taken : peers.move nearSettings action = some peers') :
    ∃ moves next, Run Link.Step link moves next ∧ Refines nearSettings farSettings peers' next := by
  obtain ⟨body, found, rfl⟩ := Option.map_eq_some_iff.mp taken
  refine Post.outcome (P := fun d => ∃ moves next, Run Link.Step link moves next ∧
    Refines nearSettings farSettings (peers.moved action d) next) ?_
  exact (refines.body fits found).mono (fun _ _ matched => matched) fun _ _ => False.elim

/-- Every step of the peers is matched by moves of the link. -/
theorem step {action : Side × PeerAction} {peers' : Peers}
    (refines : Refines nearSettings farSettings peers link)
    (fits : SendsFit nearSettings farSettings peers action)
    (taken : Step nearSettings farSettings peers action peers') :
    ∃ moves next, Run Link.Step link moves next ∧ Refines nearSettings farSettings peers' next := by
  obtain ⟨side, action⟩ := action
  cases side with
  | near => exact refines.move fits taken
  | far =>
    obtain ⟨flipped, found, rfl⟩ := Option.map_eq_some_iff.mp taken
    obtain ⟨moves, next, run, refined⟩ := Refines.move refines.flip fits found
    exact ⟨_, next.flip, Link.run_flip run, refined.flip⟩

end Refines

/-- Both connections are fresh. -/
structure Fresh (peers : Peers) : Prop where
  near : peers.near.Fresh
  far : peers.far.Fresh
  nearHandled : peers.nearHandled = 0
  farHandled : peers.farHandled = 0

private theorem Counts.start {c : Connection} (fresh : c.Fresh) :
    Counts nearSettings c { window := nearSettings.maxNumOfOutstandingIPdus } := by
  obtain ⟨numbers, closed, ioFails, written, accepted⟩ := fresh
  simp only [Connection.numbers, Prod.mk.injEq] at numbers
  obtain ⟨send, receive, acknowledgedReceive, acknowledgedSend⟩ := numbers
  refine ⟨⟨closed, ioFails, send, receive, acknowledgedSend, ?_, rfl, accepted⟩, rfl, ?_⟩
  · rw [acknowledgedReceive]
    exact Nat.two_pow_pos 15
  · rw [sentASdus, frames, written]
    rfl

theorem Refines.start (fresh : peers.Fresh) :
    Refines nearSettings farSettings peers
      { near := { window := nearSettings.maxNumOfOutstandingIPdus }
        far := { window := farSettings.maxNumOfOutstandingIPdus } } := by
  obtain ⟨near, far, nearHandled, farHandled⟩ := fresh
  refine ⟨.start _ _, .start near, .start far, ?_, ?_, ?_, ?_⟩
  · rw [Peers.toFar, Connection.frames, near.written]
    simp
  · rw [Peers.toNear, Connection.frames, far.written]
    simp
  · rw [farHandled]
    exact Nat.zero_le _
  · rw [nearHandled]
    exact Nat.zero_le _

/-- What the near connection can rely on. -/
structure NearAgrees (settings : ConnectionSettings) (peers : Peers) : Prop where
  /-- none of its steps throws -/
  returns : ∀ action body, peerBody settings peers.near peers.toNear action = some body →
    action.Fits settings → Post body peers.near (fun _ _ => True) (fun _ _ => False)
  /-- what it has accepted and what is on its way is what was sent -/
  inOrder : peers.near.acceptedASdus ++ peers.toNear.filterMap APdu.informed = peers.far.sentASdus
  /-- what it has sent is accepted by the other, except for frames it counts as outstanding -/
  covered : peers.near.sentASdus.length ≤
    peers.far.acceptedASdus.length + peers.near.getNumUnconfirmedAPdusSent

theorem Refines.nearAgrees (refines : Refines nearSettings farSettings peers link) :
    NearAgrees nearSettings peers := by
  have stands := refines.near.stands
  constructor
  · intro action body found fits
    exact (refines.body fits found).mono (fun _ _ _ => trivial) fun _ _ => False.elim
  · rw [refines.toNear, informed_wrapped, stands.accepted, refines.far.sent]
    exact refines.valid.toNear.inOrder
  · have acknowledged_le := refines.valid.toNear.acknowledged_le
    have outstanding := refines.valid.nearWindow
    have range := nearSettings.k_range
    rw [refines.near.window] at outstanding
    rw [refines.near.sent, refines.far.stands.accepted, getNumUnconfirmedAPdusSent, stands.send,
      stands.acknowledgedSend, sequenceNumberDiff_mod
        (Nat.le_trans acknowledged_le refines.valid.accepted_le) (by omega)]
    omega

/-- In a run in which every ASDU fits, whatever the order of sends, S frames and
deliveries, the two connections never disagree about a number: no step throws, each I
frame is accepted once and in order, and none is acknowledged before it is accepted. -/
theorem sequence_numbers_agree {start : Peers} {actions : List (Side × PeerAction)}
    (fresh : start.Fresh)
    (run : Run (Run.Guarded (SendsFit nearSettings farSettings) (Step nearSettings farSettings))
      start actions peers) :
    NearAgrees nearSettings peers ∧ NearAgrees farSettings peers.flip := by
  obtain ⟨-, link, -, refines⟩ := run.simulates (R := Refines nearSettings farSettings)
    (fun _ _ _ _ refines taken => refines.step taken.1 taken.2) (Refines.start fresh)
  exact ⟨refines.nearAgrees, refines.flip.nearAgrees⟩

def sampleStarted (settings : ConnectionSettings) : Peers where
  near := { started settings (fun _ => false) 0 with stopped := false }
  far := { started settings (fun _ => false) 0 with stopped := false }

def samplePeers (settings : ConnectionSettings) (actions : List (Side × PeerAction)) : Peers :=
  (Run.perform (step settings settings) (sampleStarted settings) actions).getD (sampleStarted settings)

def sampleAcknowledged : List (Side × PeerAction) :=
  [(.near, .send sampleCommand), (.far, .handle), (.far, .acknowledge), (.near, .handle)]

theorem sequence_numbers_agree_sample :
    (samplePeers {} sampleAcknowledged).near.acknowledgedSendSequenceNumber = 1 ∧
    (samplePeers {} sampleAcknowledged).far.acceptedASdus = [some sampleCommand] ∧
    NearAgrees {} (samplePeers {} sampleAcknowledged) ∧
    NearAgrees {} (samplePeers {} sampleAcknowledged).flip := by
  have fresh : (sampleStarted {}).Fresh :=
    ⟨⟨rfl, rfl, fun _ => rfl, rfl, rfl⟩, ⟨rfl, rfl, fun _ => rfl, rfl, rfl⟩, rfl, rfl⟩
  have fits : sampleCommand.Fits {} := by decide
  have meets : Run.Meets (step {} {}) (SendsFit {} {}) (sampleStarted {}) sampleAcknowledged :=
    ⟨fits, trivial, trivial, trivial, trivial⟩
  have run : Run (Run.Guarded (SendsFit {} {}) (Step {} {})) (sampleStarted {}) sampleAcknowledged
      (samplePeers {} sampleAcknowledged) := Run.guarded_of_perform rfl meets
  exact ⟨rfl, rfl, sequence_numbers_agree fresh run⟩

/-- A command that cannot be encoded, and one that can. -/
def sampleLost : List (Side × PeerAction) :=
  [(.near, .send sampleWithoutCause), (.near, .send sampleCommand)]

/-- The command that cannot be encoded takes number 0 with it: the next one is sent as
number 1, and the other connection throws. -/
theorem not_sequence_numbers_agree :
    ∃ peers body, Run (Step {} {}) (sampleStarted {}) sampleLost peers ∧
      peerBody {} peers.far peers.toFar .handle = some body ∧
      Post body peers.far (fun _ _ => False)
        (fun e _ => e = unexpectedSendSequenceNumber peers.far 1) :=
  ⟨samplePeers {} sampleLost, _, Run.of_perform rfl, rfl, rfl⟩

end Peers

end J60870
