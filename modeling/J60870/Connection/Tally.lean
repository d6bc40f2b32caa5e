import J60870.Connection.Phases
import J60870.Connection.TimerSide
import J60870.Connection.Unwrapped
import J60870.Lib.SlidingWindow

namespace J60870

open Lib Method SlidingWindow

/-- The numbers of an I frame or an S frame. -/
def APdu.numbering (aPdu : APdu) : Option (Frame Unit) :=
  match aPdu.apciType with
  | .I_FORMAT => some (.information aPdu.sendSeqNum aPdu.receiveSeqNum ())
  | .S_FORMAT => some (.supervisory aPdu.receiveSeqNum)
  | _ => none

theorem APdu.numbering_eq_information {aPdu : APdu} {number received : Nat} {content : Unit}
    (numbered : aPdu.numbering = some (.information number received content)) :
    aPdu = ⟨number, received, .I_FORMAT, aPdu.aSdu⟩ := by
  obtain ⟨sendSeqNum, receiveSeqNum, apciType, aSdu⟩ := aPdu
  cases apciType <;> cases numbered
  rfl

theorem APdu.numbering_eq_supervisory {aPdu : APdu} {received : Nat}
    (numbered : aPdu.numbering = some (.supervisory received)) :
    aPdu.apciType = .S_FORMAT ∧ aPdu.receiveSeqNum = received := by
  obtain ⟨sendSeqNum, receiveSeqNum, apciType, aSdu⟩ := aPdu
  cases apciType <;> cases numbered
  exact ⟨rfl, rfl⟩

def onWire : Frame Unit → Frame Unit
  | .information number received content => .information (number % 2 ^ 15) (received % 2 ^ 15) content
  | .supervisory received => .supervisory (received % 2 ^ 15)

namespace Connection

variable {settings : ConnectionSettings} {server : Bool} {c d : Connection} {endpoint : Endpoint Unit}
  {before : List (Frame Unit)}

def numberings (c : Connection) : List (Frame Unit) := c.frames.filterMap APdu.numbering

/-- The connection has counted what the endpoint has. A closed one need not know what is acknowledged, and
does not take what it still counts. -/
structure Tallied (settings : ConnectionSettings) (endpoint : Endpoint Unit) (c : Connection) : Prop where
  ioFails : ∀ call, c.ioFails call = false
  send : c.sendSequenceNumber = endpoint.sent.length % 2 ^ 15
  receive : c.receiveSequenceNumber = endpoint.accepted.length % 2 ^ 15
  acknowledgedReceive_lt : c.acknowledgedReceiveSequenceNumber < 2 ^ 15
  sent : c.sentASdus.length = endpoint.sent.length
  window : endpoint.window = settings.maxNumOfOutstandingIPdus
  acknowledged : c.closed = false → c.acknowledgedSendSequenceNumber = endpoint.acknowledged % 2 ^ 15
  accepted : c.closed = false → c.acceptedASdus.length = endpoint.accepted.length

/-- Since `before` the connection has done no more than acknowledge. -/
structure Supervising (settings : ConnectionSettings) (endpoint : Endpoint Unit) (before : List (Frame Unit))
    (c : Connection) : Prop where
  tallied : Tallied settings endpoint c
  emitted : ∃ n, c.numberings =
    before ++ List.replicate n (.supervisory (endpoint.accepted.length % 2 ^ 15))

/-- What a closed connection is still counted by. -/
def outline (c : Connection) : (Nat → Bool) × (Nat × Nat × Nat) × Bool × List Written :=
  (c.ioFails, (c.sendSequenceNumber, c.receiveSequenceNumber, c.acknowledgedReceiveSequenceNumber), c.closed,
    c.written)

/-- What an open one is. -/
def tally (c : Connection) :
    ((Nat → Bool) × (Nat × Nat × Nat) × Bool × List Written) × Nat × List (Option ASdu) :=
  (c.outline, c.acknowledgedSendSequenceNumber, c.acceptedASdus)

namespace Supervising

theorem of_tallied (tallied : Tallied settings endpoint c) :
    Supervising settings endpoint c.numberings c :=
  ⟨tallied, 0, (List.append_nil _).symm⟩

theorem congr (supervising : Supervising settings endpoint before c) (same : d.tally = c.tally) :
    Supervising settings endpoint before d := by
  simp only [tally, outline, Prod.mk.injEq] at same
  obtain ⟨⟨ioFails, ⟨send, receive, acknowledgedReceive⟩, closed, written⟩, acknowledged, accepted⟩ := same
  obtain ⟨tallied, emitted⟩ := supervising
  obtain ⟨reliable, sends, receives, acknowledgedReceive_lt, sent, window, covers, takes⟩ := tallied
  refine ⟨⟨?_, ?_, ?_, ?_, ?_, window, ?_, ?_⟩, ?_⟩
  · rwa [ioFails]
  · rwa [send]
  · rwa [receive]
  · rwa [acknowledgedReceive]
  · rwa [sentASdus, frames, written]
  · rwa [closed, acknowledged]
  · rwa [closed, accepted]
  · rwa [numberings, frames, written]

theorem of_closed (supervising : Supervising settings endpoint before c) (closed : d.closed = true)
    (same : (d.outline.1, d.outline.2.1, d.outline.2.2.2) = (c.outline.1, c.outline.2.1, c.outline.2.2.2)) :
    Supervising settings endpoint before d := by
  simp only [outline, Prod.mk.injEq] at same
  obtain ⟨ioFails, ⟨send, receive, acknowledgedReceive⟩, written⟩ := same
  obtain ⟨⟨reliable, sends, receives, acknowledgedReceive_lt, sent, window, -, -⟩, emitted⟩ := supervising
  have shut {P : Prop} (isOpen : d.closed = false) : P := absurd (closed.symm.trans isOpen) (by simp)
  refine ⟨⟨?_, ?_, ?_, ?_, ?_, window, shut, shut⟩, ?_⟩
  · rwa [ioFails]
  · rwa [send]
  · rwa [receive]
  · rwa [acknowledgedReceive]
  · rwa [sentASdus, frames, written]
  · rwa [numberings, frames, written]

theorem kept {method : Body Unit} (supervising : Supervising settings endpoint before c)
    (keeps : Keeps tally method) : Always (Supervising settings endpoint before) c method :=
  keeps.post fun _ same => supervising.congr same

theorem closed_kept {method : Body Unit} (supervising : Supervising settings endpoint before c)
    (closed : c.closed = true) (keeps : Keeps outline method) :
    Post method c (fun _ d => Supervising settings endpoint before d ∧ d.closed = true)
      (fun _ d => Supervising settings endpoint before d ∧ d.closed = true) := by
  refine keeps.post (P := fun d => Supervising settings endpoint before d ∧ d.closed = true) fun d same => ?_
  have still : d.closed = true := (congrArg (fun outline => outline.2.2.1) same).trans closed
  exact ⟨supervising.of_closed still (by rw [same]), still⟩

theorem wrote {frame : APdu} (supervising : Supervising settings endpoint before c)
    (uncounted : frame.numbering = none) (same : d.tally = (c.sent frame).tally) :
    Supervising settings endpoint before d := by
  have informed : frame.informed = none := by
    cases type : frame.apciType <;> simp_all [APdu.numbering, APdu.informed]
  have framed : (c.sent frame).frames = c.frames ++ [frame] := List.map_append
  obtain ⟨tallied, emitted⟩ := supervising
  refine Supervising.congr (c := c.sent frame) ⟨{ tallied with sent := ?_ }, ?_⟩ same
  · rw [← tallied.sent, sentASdus, framed, List.filterMap_append]
    simp [sentASdus, informed]
  · rw [numberings, framed, List.filterMap_append]
    simpa [uncounted, numberings] using emitted

theorem supervised (supervising : Supervising settings endpoint before c) :
    Supervising settings endpoint before c.sFormatUnflushed := by
  obtain ⟨tallied, n, emitted⟩ := supervising
  have framed : c.sFormatUnflushed.frames = c.frames ++ [.sFormat c.receiveSequenceNumber] := List.map_append
  refine ⟨{ tallied with sent := ?_ }, n + 1, ?_⟩
  · rw [← tallied.sent, sentASdus, framed, List.filterMap_append]
    simp [sentASdus, APdu.informed, APdu.sFormat]
  · rw [numberings, framed, List.filterMap_append, ← numberings, emitted, List.append_assoc,
      List.replicate_succ', tallied.receive]
    rfl

theorem always_sendSFormatPdu (supervising : Supervising settings endpoint before c) :
    Always (Supervising settings endpoint before) c (sendSFormatPdu settings) := by
  rw [Always, post_sendSFormatPdu]
  refine ⟨fun _ => supervising.congr rfl, fun _ => ⟨fun _ => supervising.supervised, fun _ => ?_⟩⟩
  obtain ⟨tallied, emitted⟩ := supervising.supervised
  refine ⟨{ tallied with acknowledgedReceive_lt := ?_ }, emitted⟩
  rw [sFormatSent_acknowledgedReceiveSequenceNumber, supervising.tallied.receive]
  exact Nat.mod_lt _ (Nat.two_pow_pos 15)

theorem always_sendSFormatIfUnconfirmedAPdu (supervising : Supervising settings endpoint before c) :
    Always (Supervising settings endpoint before) c (sendSFormatIfUnconfirmedAPdu settings) := by
  rw [Always, post_sendSFormatIfUnconfirmedAPdu]
  refine ⟨fun _ => ?_, fun _ => supervising⟩
  exact supervising.always_sendSFormatPdu.mono (fun _ _ supervising => supervising.congr rfl)
    fun _ _ supervising => supervising

private theorem always_writeUnnumbered {apciType : ApciType}
    (supervising : Supervising settings endpoint before c)
    (uncounted : (unnumbered apciType).numbering = none) :
    Always (Supervising settings endpoint before) c (do write (unnumbered apciType); flush) := by
  simp only [Always, post_bind, post_write, post_flush]
  exact ⟨fun _ => supervising.congr rfl, fun _ => ⟨fun _ => supervising.wrote uncounted rfl,
    fun _ => supervising.wrote uncounted rfl⟩⟩

private theorem always_sendStopDtCon (supervising : Supervising settings endpoint before c) :
    Always (Supervising settings endpoint before) c sendStopDtCon := by
  have uncounted : (unnumbered .STOPDT_CON).numbering = none := rfl
  rw [Always, post_sendStopDtCon]
  exact ⟨fun _ => supervising.congr rfl, fun _ => ⟨fun _ => supervising.wrote uncounted rfl,
    fun _ => supervising.wrote uncounted rfl⟩⟩

private theorem always_close (supervising : Supervising settings endpoint before c) :
    Always (Supervising settings endpoint before) c close := by
  rw [Always, post_close]
  exact ⟨fun _ => supervising, fun _ => supervising.of_closed rfl rfl⟩

/-- Whatever a timer runs. -/
theorem always_executeManually (supervising : Supervising settings endpoint before c) (id : TimerId) :
    Always (Supervising settings endpoint before) c (executeManually settings id) := by
  have ran : Always (Supervising settings endpoint before) c (execute settings id) := by
    cases id with
    | maxTimeNoTestConReceived | maxTimeNoAckReceived =>
      rw [Always, post_execute_close (by simp)]
      refine supervising.always_close.mono (fun _ d supervising => supervising.congr ?_)
        fun _ _ supervising => supervising
      simp [tally, outline, acceptedASdus, Event.acceptedASdu]
    | maxTimeNoAckSentTimer =>
      simp only [Always, execute, post_ignoringIOException]
      exact supervising.always_sendSFormatPdu.mono (fun _ _ supervising => supervising)
        fun _ _ supervising => ⟨fun _ => supervising, fun _ => supervising⟩
    | maxIdleTimeTimer =>
      rw [Always, execute, post_bind, post_ignoringIOException]
      exact (supervising.always_writeUnnumbered rfl).mono (fun _ _ supervising => supervising.congr rfl)
        fun _ _ supervising => ⟨fun _ => supervising.congr rfl, fun _ => supervising⟩
    | stopDtOutstandingSFormatTimer object =>
      simp only [Always, execute, post_bind, post_get, post_ite, post_pure, post_ignoringIOException]
      exact ⟨fun _ => supervising, fun _ => supervising.always_sendStopDtCon.mono
        (fun _ _ supervising => supervising) fun _ _ supervising => ⟨fun _ => supervising, fun _ => supervising⟩⟩
  rw [Always, post_executeManually]
  exact ⟨fun _ => supervising, fun _ => ran.mono (fun _ _ supervising => supervising.congr rfl)
    fun _ _ supervising => supervising.congr rfl⟩

private theorem always_handleStartDtAct (supervising : Supervising settings endpoint before c) :
    Always (Supervising settings endpoint before) c handleStartDtAct := by
  have confirmed : Supervising settings endpoint before c.startConfirmed := by
    have uncounted : (unnumbered .STARTDT_CON).numbering = none := rfl
    refine supervising.wrote uncounted ?_
    simp [tally, outline, acceptedASdus, Event.acceptedASdu]
  rw [Always, post_handleStartDtAct]
  exact ⟨fun _ => supervising.congr rfl, fun _ => ⟨fun _ => confirmed, fun _ => confirmed.congr rfl⟩⟩

private theorem always_handleStopDtAct (supervising : Supervising settings endpoint before c) :
    Always (Supervising settings endpoint before) c (handleStopDtAct settings) := by
  have requested : Supervising settings endpoint before c.stopRequested := by
    refine supervising.congr ?_
    simp [tally, outline, acceptedASdus, Event.acceptedASdu]
  rw [Always, post_handleStopDtAct]
  refine requested.always_sendSFormatIfUnconfirmedAPdu.mono (fun _ d supervising => ?_)
    fun _ _ supervising => supervising
  exact ⟨fun _ => supervising.congr rfl, fun _ => supervising.always_sendStopDtCon⟩

private theorem always_dispatch (supervising : Supervising settings endpoint before c) {aPdu : APdu}
    (uncounted : aPdu.numbering = none) :
    Always (Supervising settings endpoint before) c (dispatch settings server aPdu) := by
  cases format : aPdu.apciType <;> simp only [dispatch, format]
  case I_FORMAT => simp [APdu.numbering, format] at uncounted
  case S_FORMAT => simp [APdu.numbering, format] at uncounted
  case STARTDT_ACT => exact supervising.always_handleStartDtAct
  case STOPDT_ACT => exact supervising.always_handleStopDtAct
  case TESTFR_ACT => exact supervising.always_writeUnnumbered rfl
  case TESTFR_CON => exact supervising.congr rfl
  case STARTDT_CON =>
    rw [Always, post_bind, post_get, post_countDown]
    exact supervising.congr rfl
  case STOPDT_CON =>
    rw [Always, post_bind, post_get, post_countDown]
    exact supervising.congr rfl

end Supervising

/-- Neither an ASDU is sent nor a frame with numbers received. -/
def Uncounted (_ : Connection) : Action → Prop
  | .send _ => False
  | .receive aPdu => aPdu.numbering = none
  | _ => True

/-- What else a connection does only acknowledges. -/
theorem Supervising.preserves :
    Preserves settings server Uncounted (Supervising settings endpoint before) where
  progress _ _ supervising := supervising.congr rfl
  callEnds c event supervising ends := supervising.congr (by
    cases event <;> simp_all [Event.endsCall, tally, outline, acceptedASdus, Event.acceptedASdu])
  tick _ _ supervising := supervising.congr rfl
  send _ _ _ uncounted _ := uncounted.elim
  receive c aPdu supervising uncounted _ := (supervising.always_dispatch uncounted).mono
    (fun _ _ supervising => supervising.congr rfl) fun _ _ supervising => supervising.congr rfl
  readFailure _ e supervising _ := supervising.congr rfl
  endReader c supervising _ _ := by
    rw [Always, post_endReader]
    refine supervising.always_close.mono (fun _ d supervising => supervising.congr ?_)
      fun _ _ supervising => supervising
    cases stopped : d.stopped <;> simp [tally, outline, acceptedASdus, stopped, Event.acceptedASdu]
  fire c id supervising _ := by
    have dequeued : Supervising settings endpoint before (c.dequeued id) := supervising.congr rfl
    rw [Always, post_fire]
    exact dequeued.always_executeManually id
  runTask _ task supervising _ _ := supervising.kept fun c => by
    cases registered : c.aSduListener <;> simp [tally, outline, acceptedASdus, registered, Event.acceptedASdu]
  setConnectionListener _ _ supervising _ := supervising.congr rfl
  close _ supervising := supervising.always_close
  writeStartDtAct c supervising := by
    have begun : Supervising settings endpoint before
        { c with startDtConSignal := some c.latches, latches := c.latches + 1 } := supervising.congr rfl
    exact begun.always_writeUnnumbered rfl
  register _ _ _ supervising _ _ := supervising.kept fun c => by
    simp [Connection.register, tally, outline, acceptedASdus, Event.acceptedASdu]
  beginStop _ _ supervising _ := supervising.kept fun c => by
    simp [Connection.beginStop, tally, outline, acceptedASdus, Event.acceptedASdu]
  confirm _ _ supervising _ _ := supervising.always_sendSFormatIfUnconfirmedAPdu
  cancelT2 _ _ supervising _ _ := (post_cancelIfPlanned _).mpr (supervising.congr rfl)
  writeStopDtAct c supervising := by
    have begun : Supervising settings endpoint before
        { c with stopDtConSignal := some c.latches, latches := c.latches + 1 } := supervising.congr rfl
    exact begun.always_writeUnnumbered rfl
  finishStop _ _ supervising _ _ := supervising.congr rfl

/-- A stopped server refuses frames with numbers, unless the stop is still to be confirmed. -/
def RefusesData (server : Bool) (c : Connection) : Prop := (server && c.stopped && !c.pending) = true

namespace Tallied

/-- An open connection stands where the endpoint does. -/
theorem stands (tallied : Tallied settings endpoint c) (isOpen : c.closed = false) :
    Stands endpoint.sent.length endpoint.accepted.length endpoint.acknowledged c.frames c.acceptedASdus c :=
  ⟨isOpen, tallied.ioFails, tallied.send, tallied.receive, tallied.acknowledged isOpen,
    tallied.acknowledgedReceive_lt, rfl, rfl⟩

theorem of_stands (endpoint : Endpoint Unit) {frames : List APdu} {accepted : List (Option ASdu)}
    (stands : Stands endpoint.sent.length endpoint.accepted.length endpoint.acknowledged frames accepted c)
    (sent : (frames.filterMap APdu.informed).length = endpoint.sent.length)
    (taken : accepted.length = endpoint.accepted.length)
    (window : endpoint.window = settings.maxNumOfOutstandingIPdus) : Tallied settings endpoint c := by
  refine ⟨stands.ioFails, stands.send, stands.receive, stands.acknowledgedReceive_lt, ?_, window,
    fun _ => stands.acknowledgedSend, fun _ => ?_⟩
  · rw [sentASdus, stands.frames, sent]
  · rw [stands.accepted, taken]

@[simp] private theorem informed_replicate (n receiveSeqNum : Nat) :
    (List.replicate n (APdu.sFormat receiveSeqNum)).filterMap APdu.informed = [] :=
  List.filterMap_replicate_of_none rfl

@[simp] private theorem numbering_replicate (n receiveSeqNum : Nat) :
    (List.replicate n (APdu.sFormat receiveSeqNum)).filterMap APdu.numbering =
      List.replicate n (.supervisory receiveSeqNum) :=
  List.filterMap_replicate_of_some (f := APdu.numbering) rfl

/-- An ASDU that is sent takes the next number, or nothing is done. -/
theorem sends {aSdu : ASdu} (tallied : Tallied settings endpoint c) (fits : aSdu.Fits settings) :
    Post (Connection.send settings aSdu) c
      (fun _ d => c.closed = false ∧ Tallied settings (endpoint.send ()) d ∧ ∃ n, d.numberings = c.numberings ++
        (List.replicate n (.supervisory (endpoint.accepted.length % 2 ^ 15)) ++
          [.information (endpoint.sent.length % 2 ^ 15) (endpoint.accepted.length % 2 ^ 15) ()]))
      (fun _ d => d = c) := by
  cases closed : c.closed with
  | true =>
    rw [Connection.send, post_bind, post_prepareSend]
    exact ⟨fun _ => rfl, fun isOpen => absurd (closed.symm.trans isOpen) (by simp)⟩
  | false =>
    cases stopped : c.stopped with
    | true =>
      rw [Connection.send, post_bind, post_prepareSend]
      exact ⟨fun _ => rfl, fun _ => ⟨fun _ => rfl,
        fun started => absurd (stopped.symm.trans started) (by simp)⟩⟩
    | false =>
      refine ((tallied.stands closed).sends stopped fits).mono (fun _ d sent => ?_) fun _ _ => False.elim
      obtain ⟨n, stands⟩ := sent
      refine ⟨rfl, of_stands (endpoint.send ()) (by simpa [Endpoint.send] using stands) ?_ ?_ tallied.window,
        n, ?_⟩
      · have before := tallied.sent
        rw [sentASdus] at before
        simp [before, Endpoint.send, APdu.informed, APdu.iFormat]
      · exact tallied.accepted closed
      · rw [numberings, stands.frames]
        simp [numberings, APdu.numbering, APdu.iFormat]

section Receives

variable {frame : Frame Unit} {aPdu : APdu}

private theorem keeps_handleReceiveSequenceNumber (receiveSeqNumber : Nat) :
    Keeps outline (handleReceiveSequenceNumber settings receiveSeqNumber) := fun c => by
  simp [handleReceiveSequenceNumber, outline]

private theorem closed_handleIFrame {received : Nat} (tallied : Tallied settings endpoint c)
    (closed : c.closed = true) (next : aPdu.sendSeqNum = endpoint.accepted.length % 2 ^ 15) :
    Always (Supervising settings (endpoint.deliver (.information endpoint.accepted.length received ()))
      c.numberings) c (handleIFrame settings aPdu) := by
  -- A closed connection may throw once it has counted a frame.
  let after := endpoint.deliver (.information endpoint.accepted.length received ())
  have shut {P : Prop} (isOpen : c.closed = false) : P := absurd (closed.symm.trans isOpen) (by simp)
  have counted : Tallied settings after c.received := by
    refine ⟨tallied.ioFails, tallied.send, ?_, tallied.acknowledgedReceive_lt, tallied.sent,
      tallied.window, fun isOpen => shut isOpen, fun isOpen => shut isOpen⟩
    rw [received_receiveSequenceNumber, tallied.receive, Nat.mod_add_mod]
    simp [after, Endpoint.deliver]
  have supervising : Supervising settings after c.numberings c.received := .of_tallied counted
  have updated : Post (updateReceiveSeqNum settings aPdu.sendSeqNum) c
      (fun _ d => Supervising settings after c.numberings d ∧ d.closed = true)
      (fun _ => Supervising settings after c.numberings) := by
    have expected : c.receiveSequenceNumber = aPdu.sendSeqNum := tallied.receive.trans next.symm
    rw [post_updateReceiveSeqNum]
    refine ⟨fun differs => absurd expected differs, fun _ => ⟨fun _ => ?_, fun _ => ⟨supervising, closed⟩⟩⟩
    have stays : Post (sendSFormatPdu settings) c.received (fun _ d => d.closed = c.closed)
        (fun _ _ => True) := by simp
    exact (supervising.always_sendSFormatPdu.and stays).mono (fun _ _ both => ⟨both.1, both.2.trans closed⟩)
      fun _ _ both => both.1
  have handedOver : Keeps outline (handOver aPdu.aSdu) := fun d => (post_handOver aPdu.aSdu).mpr rfl
  refine Post.seq updated fun _ d both => ?_
  refine Post.seq ((both.1.closed_kept both.2 (keeps_handleReceiveSequenceNumber _)).mono
    (fun _ _ both => both) fun _ _ both => both.1) fun _ e both => ?_
  refine Post.seq ((both.1.closed_kept both.2 handedOver).mono
    (fun _ _ both => both) fun _ _ both => both.1) fun _ e both => ?_
  rw [post_acknowledgeReceived]
  exact ⟨fun _ => both.1.always_sendSFormatPdu.mono (fun _ _ supervising => supervising.congr rfl)
    fun _ _ supervising => supervising, fun _ => both.1.congr rfl⟩

/-- What the frame at the head of a channel comes to. -/
abbrev Counts (server : Bool) (settings : ConnectionSettings) (endpoint : Endpoint Unit) (frame : Frame Unit)
    (c : Connection) (method : Body Unit) : Prop :=
  Post method c (fun _ d => Supervising settings (endpoint.deliver frame) c.numberings d)
    (fun _ d => d = c ∧ RefusesData server c ∨
      c.closed = true ∧ Supervising settings (endpoint.deliver frame) c.numberings d)

private theorem counts_information {received : Nat} (tallied : Tallied settings endpoint c)
    (expects : endpoint.Expects (.information endpoint.accepted.length received ()))
    (numbered : aPdu.numbering = some (onWire (.information endpoint.accepted.length received ()))) :
    Counts server settings endpoint (.information endpoint.accepted.length received ()) c
      (dispatch settings server aPdu) := by
  rw [APdu.numbering_eq_information numbered]
  simp only [Counts, dispatch]
  rw [post_bind, post_closeIfStopped]
  refine ⟨fun refused => .inl ⟨rfl, refused⟩, fun _ => ?_⟩
  by_cases closed : c.closed = true
  · exact (tallied.closed_handleIFrame closed rfl).mono (fun _ _ supervising => supervising)
      fun _ _ supervising => .inr ⟨closed, supervising⟩
  · replace closed := Bool.eq_false_iff.mpr closed
    obtain ⟨-, more, le, window⟩ := expects
    rw [tallied.window] at window
    refine ((tallied.stands closed).handleIFrame window more le aPdu.aSdu).mono (fun _ d taken => ?_)
      fun _ _ => False.elim
    obtain ⟨n, stands⟩ := taken
    refine ⟨of_stands (endpoint.deliver (.information endpoint.accepted.length received ()))
      (by simpa [Endpoint.deliver, Frame.received] using stands) ?_ ?_ tallied.window, n, ?_⟩
    · have before := tallied.sent
      rw [sentASdus] at before
      simp [before, Endpoint.deliver]
    · simp [tallied.accepted closed, Endpoint.deliver]
    · rw [numberings, stands.frames]
      simp [numberings, Endpoint.deliver]

private theorem counts_supervisory {received : Nat} (tallied : Tallied settings endpoint c)
    (expects : endpoint.Expects (.supervisory received))
    (numbered : aPdu.numbering = some (onWire (.supervisory received))) :
    Counts server settings endpoint (.supervisory received) c (dispatch settings server aPdu) := by
  obtain ⟨supervision, number⟩ := APdu.numbering_eq_supervisory numbered
  simp only [Counts, dispatch, supervision, number]
  rw [post_bind, post_closeIfStopped]
  refine ⟨fun refused => .inl ⟨rfl, refused⟩, fun _ => ?_⟩
  by_cases closed : c.closed = true
  · have shut {P : Prop} (isOpen : c.closed = false) : P := absurd (closed.symm.trans isOpen) (by simp)
    have after : Supervising settings (endpoint.deliver (.supervisory received)) c.numberings c :=
      .of_tallied ⟨tallied.ioFails, tallied.send, tallied.receive, tallied.acknowledgedReceive_lt, tallied.sent,
        tallied.window, fun isOpen => shut isOpen, fun isOpen => shut isOpen⟩
    refine Post.seq ((after.closed_kept closed (keeps_handleReceiveSequenceNumber _)).mono
      (fun _ _ both => both) fun _ _ both => .inr ⟨closed, both.1⟩) fun _ d both => ?_
    rw [post_bind, post_get]
    cases d.stopDtOutstandingSFormatTimer with
    | none => exact both.1
    | some object =>
      exact (both.1.always_executeManually _).mono (fun _ _ supervising => supervising)
        fun _ _ supervising => .inr ⟨closed, supervising⟩
  · replace closed := Bool.eq_false_iff.mpr closed
    obtain ⟨-, more, le, window⟩ := expects
    rw [tallied.window] at window
    refine Post.seq (((tallied.stands closed).handleReceiveSequenceNumber window more le).mono
      (fun _ _ stands => stands) fun _ _ => False.elim) fun _ d stands => ?_
    have supervising : Supervising settings (endpoint.deliver (.supervisory received)) c.numberings d := by
      refine ⟨of_stands (endpoint.deliver (.supervisory received)) stands tallied.sent
        (tallied.accepted closed) tallied.window, 0, ?_⟩
      rw [numberings, stands.frames]
      simp [numberings]
    rw [post_bind, post_get]
    cases d.stopDtOutstandingSFormatTimer with
    | none => exact supervising
    | some object =>
      have returns : Post (executeManually settings (.stopDtOutstandingSFormatTimer object)) d
          (fun _ _ => True) (fun _ _ => False) := by
        simp [post_executeManually, execute, post_sendStopDtCon]
      exact ((supervising.always_executeManually _).and returns).mono (fun _ _ both => both.1)
        fun _ _ both => both.2.elim

theorem counts (tallied : Tallied settings endpoint c) (expects : endpoint.Expects frame)
    (numbered : aPdu.numbering = some (onWire frame)) :
    Counts server settings endpoint frame c (dispatch settings server aPdu) := by
  cases frame with
  | information number received content =>
    obtain rfl : number = endpoint.accepted.length := expects.number number rfl
    exact tallied.counts_information expects numbered
  | supervisory received => exact tallied.counts_supervisory expects numbered

private theorem returns (tallied : Tallied settings endpoint c) (isOpen : c.closed = false)
    (uncounted : aPdu.numbering = none) :
    Post (dispatch settings server aPdu) c (fun _ _ => True) (fun _ _ => False) := by
  -- On a socket that works an open connection throws nothing over a frame without numbers.
  have ioFails := tallied.ioFails
  cases format : aPdu.apciType <;> simp only [dispatch, format]
  case I_FORMAT => simp [APdu.numbering, format] at uncounted
  case S_FORMAT => simp [APdu.numbering, format] at uncounted
  case STARTDT_ACT => simp [post_handleStartDtAct, ioFails, isOpen]
  case STOPDT_ACT =>
    have confirmed : Post (sendSFormatIfUnconfirmedAPdu settings) c.stopRequested
        (fun _ d => (∀ call, d.ioFails call = false) ∧ d.closed = false) (fun _ _ => False) := by
      simp [post_sendSFormatIfUnconfirmedAPdu, ioFails, isOpen]
    rw [post_handleStopDtAct]
    refine confirmed.mono (fun _ d works => ?_) fun _ _ => False.elim
    simp [post_sendStopDtCon, works.1, works.2]
  case TESTFR_ACT => simp [sendTestFrameCon, ioFails, isOpen]
  case TESTFR_CON => simp
  case STARTDT_CON => simp
  case STOPDT_CON => simp

/-- A frame with numbers is counted, or refused. -/
theorem receives {aPdu : ReceivedAPdu} (tallied : Tallied settings endpoint c) (expects : endpoint.Expects frame)
    (numbered : aPdu.numbering = some (onWire frame)) (taken : Step settings server c (.receive aPdu) d) :
    Supervising settings (endpoint.deliver frame) c.numberings d ∧ (c.closed = false → d.reader = .running) ∨
      Supervising settings endpoint c.numberings d ∧ d.reader = .leaving ∧ RefusesData server c := by
  obtain ⟨method, found, rfl⟩ := step_eq_some taken
  obtain ⟨running, ⟨⟩⟩ := Option.ite_none_right_eq_some.mp found
  refine Post.outcome (P := fun d => Supervising settings (endpoint.deliver frame) c.numberings d ∧
    (c.closed = false → d.reader = .running) ∨
      Supervising settings endpoint c.numberings d ∧ d.reader = .leaving ∧ RefusesData server c) ?_
  rw [post_readerTurn]
  refine ((tallied.counts expects numbered).and (dispatch_keeps_phase aPdu.toAPdu c)).mono
    (fun _ d both => .inl ?_) fun e d both => ?_
  · have reader : d.reader = c.reader := congrArg Prod.fst both.2
    exact ⟨both.1.congr rfl, fun _ => reader.trans running⟩
  · rcases both.1 with ⟨rfl, refused⟩ | ⟨closed, supervising⟩
    · exact .inr ⟨(Supervising.of_tallied tallied).congr rfl, rfl, refused⟩
    · exact .inl ⟨supervising.congr rfl, fun isOpen => absurd (closed.symm.trans isOpen) (by simp)⟩

theorem takes {aPdu : ReceivedAPdu} (tallied : Tallied settings endpoint c)
    (uncounted : aPdu.numbering = none) (taken : Step settings server c (.receive aPdu) d) :
    Supervising settings endpoint c.numberings d ∧ (c.closed = false → d.reader = .running) := by
  have nothing : Uncounted c (.receive aPdu) := uncounted
  have supervising : Supervising settings endpoint c.numberings d :=
    Supervising.preserves.step (.of_tallied tallied) nothing taken
  refine ⟨supervising, fun isOpen => ?_⟩
  obtain ⟨method, found, rfl⟩ := step_eq_some taken
  obtain ⟨running, ⟨⟩⟩ := Option.ite_none_right_eq_some.mp found
  refine Post.outcome (P := fun d : Connection => d.reader = .running) ?_
  rw [post_readerTurn]
  refine ((tallied.returns isOpen uncounted).and (dispatch_keeps_phase aPdu.toAPdu c)).mono
    (fun _ d both => ?_) fun _ _ both => both.1.elim
  exact (congrArg Prod.fst both.2 : d.reader = c.reader).trans running

end Receives

end Tallied

end Connection

end J60870
