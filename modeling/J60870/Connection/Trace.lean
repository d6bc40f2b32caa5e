import J60870.Connection.Octets
import J60870.Connection.Outgoing

/-! What one step adds to the frames a connection has written and to the ASDUs it has accepted, whatever
goes wrong. -/

namespace J60870

open Lib Method

theorem APdu.Sendable.of_informed {settings : ConnectionSettings} {sends : ASdu → Prop} {aPdu : APdu}
    {aSdu : ASdu} (sendable : aPdu.Sendable settings sends) (informed : aPdu.informed = some (some aSdu)) :
    sends aSdu := by
  obtain ⟨information, given⟩ := Option.ite_none_right_eq_some.mp informed
  cases sendable with
  | iFormat _ sent => exact sent aSdu (Option.some.inj given)
  | sFormat _ => cases information
  | unnumbered noInformation _ => exact absurd information noInformation

theorem APdu.Sendable.wellShaped {settings : ConnectionSettings} {sends : ASdu → Prop} {aPdu : APdu}
    {aSdu : ASdu} (sendable : aPdu.Sendable settings sends) (informed : aPdu.informed = some (some aSdu)) :
    aSdu.WellShaped settings := by
  obtain ⟨information, given⟩ := Option.ite_none_right_eq_some.mp informed
  cases sendable with
  | iFormat shaped _ =>
    obtain ⟨_, _, only, -, -, shaped, -⟩ := shaped
    obtain rfl : only = aSdu := Option.some.inj (Option.some.inj given)
    exact shaped
  | sFormat _ => cases information
  | unnumbered noInformation _ => exact absurd information noInformation

theorem APdu.Sendable.restrict {settings : ConnectionSettings} {sends sent : ASdu → Prop} {aPdu : APdu}
    (sendable : aPdu.Sendable settings sends) (all : ∀ aSdu, aPdu.informed = some (some aSdu) → sent aSdu) :
    aPdu.Sendable settings sent := by
  cases sendable with
  | iFormat shaped _ =>
    refine .iFormat shaped fun aSdu given => all aSdu ?_
    obtain ⟨sendSeqNum, receiveSeqNum, only, -, -, -, -⟩ := shaped
    exact congrArg some given
  | sFormat receive => exact .sFormat receive
  | unnumbered noInformation noSupervision => exact .unnumbered noInformation noSupervision

namespace Connection

variable {settings : ConnectionSettings} {server : Bool} {c d : Connection}

/-- The connection has written frames that can be read, those of its past first of all, and has accepted
`accepted`. Nothing goes out once it is closed, and everything before if its socket works. Its reader does not
come back if it is `lost`. -/
structure Traced (settings : ConnectionSettings) (sends : ASdu → Prop) (before : Past)
    (accepted : List (Option ASdu)) (lost : Prop) (c : Connection) : Prop extends Flow before c where
  send_lt : c.sendSequenceNumber < 2 ^ 15
  receive_lt : c.receiveSequenceNumber < 2 ^ 15
  whole : (∀ call, c.ioFails call = false) → c.closed = false → c.flushed = c.frames.length
  sendable : ∀ frame ∈ c.frames, frame.Sendable settings sends
  accepted : c.acceptedASdus = accepted
  lost : lost → c.reader ≠ .running

def trail (c : Connection) :
    (Nat × Nat) × (List Written × Nat × Bool × (Nat → Bool)) × List (Option ASdu) × ReaderState :=
  ((c.sendSequenceNumber, c.receiveSequenceNumber), (c.written, c.flushed, c.closed, c.ioFails), c.acceptedASdus,
    c.reader)

/-- The application sends well-shaped ASDUs only that `sends` holds of, and nothing is received. -/
def SendsShaped (settings : ConnectionSettings) (sends : ASdu → Prop) : Action → Prop
  | .send aSdu => aSdu.WellShaped settings ∧ sends aSdu
  | .receive _ => False
  | _ => True

namespace Traced

variable {sends : ASdu → Prop} {before : Past} {accepted : List (Option ASdu)} {lost : Prop}

theorem congr (traced : Traced settings sends before accepted lost c) (same : d.trail = c.trail) :
    Traced settings sends before accepted lost d := by
  simp only [trail, Prod.mk.injEq] at same
  obtain ⟨⟨send, receive⟩, ⟨written, flushed, closed, ioFails⟩, taken, reader⟩ := same
  have framed : d.frames = c.frames := congrArg (List.map Written.frame) written
  refine { traced.toFlow.congr ?_ with
    send_lt := ?_, receive_lt := ?_, whole := ?_, sendable := ?_, accepted := ?_, lost := ?_ }
  · rw [writingSide, written, flushed, closed, writingSide]
  · exact send ▸ traced.send_lt
  · exact receive ▸ traced.receive_lt
  · rw [ioFails, closed, flushed, framed]
    exact traced.whole
  · exact framed ▸ traced.sendable
  · exact taken ▸ traced.accepted
  · exact reader ▸ traced.lost

theorem kept {method : Body Unit} (traced : Traced settings sends before accepted lost c)
    (keeps : Keeps trail method) :
    Always (Traced settings sends before accepted lost) c method :=
  keeps.post fun _ same => traced.congr same

/-- One more frame is written. It stays in the buffer of `os`, or goes out with what is left there. -/
theorem wrote {frame : APdu} {flushed : Nat} (traced : Traced settings sends before accepted lost c)
    (sendable : frame.Sendable settings sends)
    (out : flushed = c.flushed ∧ (c.ioFails (c.ioCalls + 1) = true ∨ c.closed = true) ∨
      flushed = (c.sent frame).written.length ∧ c.closed = false)
    (same : d.trail = { c.sent frame with flushed := flushed }.trail) :
    Traced settings sends before accepted lost d := by
  have framed : (c.sent frame).frames = c.frames ++ [frame] := List.map_append
  have length : (c.sent frame).written.length = (c.sent frame).frames.length := by simp [frames]
  have flow : Flow before { c.sent frame with flushed := flushed } := by
    have written : Flow before (c.sent frame) := traced.toFlow.writes ⟨frame, c.stopped⟩ rfl
    rcases out with ⟨rfl, -⟩ | ⟨rfl, isOpen⟩
    · exact written.congr rfl
    · exact written.flushes isOpen rfl
  have numbered : Traced settings sends before accepted lost { c.sent frame with flushed := flushed } := by
    refine { traced with toFlow := flow, whole := fun works isOpen => ?_, sendable := ?_ }
    · rcases out with ⟨-, failed | shut⟩ | ⟨rfl, -⟩
      · cases failed.symm.trans (works _)
      · cases shut.symm.trans isOpen
      · exact length
    · change ∀ member ∈ (c.sent frame).frames, member.Sendable settings sends
      rw [framed]
      exact List.forall_mem_append.mpr ⟨traced.sendable, List.forall_mem_singleton.mpr sendable⟩
  exact numbered.congr same

theorem always_writeUnnumbered {apciType : ApciType} (traced : Traced settings sends before accepted lost c)
    (information : apciType ≠ .I_FORMAT) (supervision : apciType ≠ .S_FORMAT) :
    Always (Traced settings sends before accepted lost) c (do write (unnumbered apciType); flush) := by
  have sendable : (unnumbered apciType).Sendable settings sends := .unnumbered information supervision
  simp only [Always, post_bind, post_write, post_flush]
  exact ⟨fun _ => traced.congr rfl, fun _ => ⟨fun failed => traced.wrote sendable (.inl ⟨rfl, failed⟩) rfl,
    fun flushed => traced.wrote sendable (.inr ⟨rfl, flushed.2⟩) rfl⟩⟩

theorem always_sendSFormatPdu (traced : Traced settings sends before accepted lost c) :
    Always (Traced settings sends before accepted lost) c (sendSFormatPdu settings) := by
  have sendable : (APdu.sFormat c.receiveSequenceNumber).Sendable settings sends := .sFormat traced.receive_lt
  rw [Always, post_sendSFormatPdu]
  exact ⟨fun _ => traced.congr rfl, fun _ => ⟨fun failed => traced.wrote sendable (.inl ⟨rfl, failed⟩) rfl,
    fun flushed => traced.wrote sendable (.inr ⟨rfl, flushed.2⟩) rfl⟩⟩

theorem always_sendSFormatIfUnconfirmedAPdu (traced : Traced settings sends before accepted lost c) :
    Always (Traced settings sends before accepted lost) c (sendSFormatIfUnconfirmedAPdu settings) := by
  rw [Always, post_sendSFormatIfUnconfirmedAPdu]
  refine ⟨fun _ => ?_, fun _ => traced⟩
  exact traced.always_sendSFormatPdu.mono (fun _ _ traced => traced.congr rfl) fun _ _ traced => traced

theorem always_sendStopDtCon (traced : Traced settings sends before accepted lost c) :
    Always (Traced settings sends before accepted lost) c sendStopDtCon := by
  have sendable : (unnumbered .STOPDT_CON).Sendable settings sends := .unnumbered (by decide) (by decide)
  rw [Always, post_sendStopDtCon]
  exact ⟨fun _ => traced.congr rfl, fun _ => ⟨fun failed => traced.wrote sendable (.inl ⟨rfl, failed⟩) rfl,
    fun flushed => traced.wrote sendable (.inr ⟨rfl, flushed.2⟩) rfl⟩⟩

/-- The I frame of a `send` is written only where the encoder could lay it down. -/
theorem always_send {aSdu : ASdu} (traced : Traced settings sends before accepted lost c)
    (shaped : aSdu.WellShaped settings) (sent : sends aSdu) :
    Always (Traced settings sends before accepted lost) c (send settings aSdu) := by
  have numbered : Traced settings sends before accepted lost c.numbered :=
    { traced with send_lt := Nat.mod_lt _ (Nat.two_pow_pos 15) }
  have prepared : Post (prepareSend settings aSdu) c
      (fun aPdu d => aPdu = .iFormat c.sendSequenceNumber c.receiveSequenceNumber aSdu ∧
        Traced settings sends before accepted lost d)
      (fun _ d => Traced settings sends before accepted lost d) := by
    rw [post_prepareSend]
    refine ⟨fun _ => traced, fun _ => ⟨fun _ => traced, fun _ => ⟨fun _ => ?_, fun _ =>
      ⟨rfl, numbered.congr rfl⟩⟩⟩⟩
    exact numbered.always_sendSFormatPdu.mono (fun _ _ traced => ⟨rfl, traced.congr rfl⟩)
      fun _ _ traced => traced
  refine Post.seq prepared fun aPdu d holds => ?_
  obtain ⟨rfl, after⟩ := holds
  by_cases fits : aSdu.Fits settings
  · have size := APdu.frameWire_length (APdu.seqNumOctets c.sendSequenceNumber ++
      APdu.seqNumOctets c.receiveSequenceNumber) (aSdu.wire settings) rfl
    have short : (APdu.iFormatWire settings c.sendSequenceNumber c.receiveSequenceNumber aSdu).length ≤ 255 := by
      rw [APdu.iFormatWire, size]
      exact fits.2
    have sendable : (APdu.iFormat c.sendSequenceNumber c.receiveSequenceNumber aSdu).Sendable settings sends :=
      .iFormat (.iFormat _ _ aSdu traced.send_lt traced.receive_lt shaped short) fun _ given =>
        Option.some.inj given ▸ sent
    simp only [post_bind, post_encode_iFormat fits, post_write, post_flush, post_resetMaxIdleTimeTimer]
    exact ⟨fun _ => after.congr rfl, fun _ => ⟨fun failed => after.wrote sendable (.inl ⟨rfl, failed⟩) rfl,
      fun flushed => after.wrote sendable (.inr ⟨rfl, flushed.2⟩) rfl⟩⟩
  · obtain ⟨e, refused⟩ := post_encode_unfit fits c.sendSequenceNumber c.receiveSequenceNumber d
    rw [post_bind, refused]
    generalize APdu.begun _ d.buffer = buffer
    exact after.congr rfl

theorem always_close (traced : Traced settings sends before accepted lost c) :
    Always (Traced settings sends before accepted lost) c close := by
  rw [Always, post_close]
  exact ⟨fun _ => traced, fun _ =>
    { traced with toFlow := traced.toFlow.closes rfl, whole := fun _ isOpen => by cases isOpen }⟩

/-- Whatever a timer runs. -/
theorem always_executeManually (traced : Traced settings sends before accepted lost c) (id : TimerId) :
    Always (Traced settings sends before accepted lost) c (executeManually settings id) := by
  have ran : Always (Traced settings sends before accepted lost) c (execute settings id) := by
    cases id with
    | maxTimeNoTestConReceived | maxTimeNoAckReceived =>
      rw [Always, post_execute_close (by simp)]
      refine traced.always_close.mono (fun _ d traced => traced.congr ?_) fun _ _ traced => traced
      simp [trail, acceptedASdus, Event.acceptedASdu]
    | maxTimeNoAckSentTimer =>
      simp only [Always, execute, post_ignoringIOException]
      exact traced.always_sendSFormatPdu.mono (fun _ _ traced => traced)
        fun _ _ traced => ⟨fun _ => traced, fun _ => traced⟩
    | maxIdleTimeTimer =>
      rw [Always, execute, post_bind, post_ignoringIOException]
      exact (traced.always_writeUnnumbered (by decide) (by decide)).mono
        (fun _ _ traced => traced.congr rfl)
        fun _ _ traced => ⟨fun _ => traced.congr rfl, fun _ => traced⟩
    | stopDtOutstandingSFormatTimer object =>
      simp only [Always, execute, post_bind, post_get, post_ite, post_pure, post_ignoringIOException]
      exact ⟨fun _ => traced, fun _ => traced.always_sendStopDtCon.mono (fun _ _ traced => traced)
        fun _ _ traced => ⟨fun _ => traced, fun _ => traced⟩⟩
  rw [Always, post_executeManually]
  exact ⟨fun _ => traced, fun _ => ran.mono (fun _ _ traced => traced.congr rfl)
    fun _ _ traced => traced.congr rfl⟩

private theorem keeps_handleReceiveSequenceNumber (receiveSeqNumber : Nat) :
    Keeps trail (handleReceiveSequenceNumber settings receiveSeqNumber) := fun c => by
  simp [handleReceiveSequenceNumber, trail, acceptedASdus]

private theorem always_handleStartDtAct (traced : Traced settings sends before accepted lost c) :
    Always (Traced settings sends before accepted lost) c handleStartDtAct := by
  have sendable : (unnumbered .STARTDT_CON).Sendable settings sends := .unnumbered (by decide) (by decide)
  have same (flushed : Nat) : { c.startConfirmed with flushed := flushed }.trail =
      { c.sent (unnumbered .STARTDT_CON) with flushed := flushed }.trail := by
    simp [trail, acceptedASdus, Event.acceptedASdu]
  rw [Always, post_handleStartDtAct]
  exact ⟨fun _ => traced.congr rfl, fun _ => ⟨fun failed => traced.wrote sendable (.inl ⟨rfl, failed⟩) (same _),
    fun flushed => traced.wrote sendable (.inr ⟨rfl, flushed.2⟩) (same _)⟩⟩

private theorem always_handleStopDtAct (traced : Traced settings sends before accepted lost c) :
    Always (Traced settings sends before accepted lost) c (handleStopDtAct settings) := by
  have requested : Traced settings sends before accepted lost c.stopRequested := by
    refine traced.congr ?_
    simp [trail, acceptedASdus, Event.acceptedASdu]
  rw [Always, post_handleStopDtAct]
  refine requested.always_sendSFormatIfUnconfirmedAPdu.mono (fun _ d traced => ?_) fun _ _ traced => traced
  exact ⟨fun _ => traced.congr rfl, fun _ => traced.always_sendStopDtCon⟩

private theorem always_dispatch (traced : Traced settings sends before accepted lost c) {aPdu : APdu}
    (other : aPdu.apciType ≠ .I_FORMAT) :
    Always (Traced settings sends before accepted lost) c (dispatch settings server aPdu) := by
  apply Dispatches.post
  constructor
  case refused => exact fun _ => traced
  case handleIFrame => exact fun information => absurd information other
  case handleSFormat =>
    intro _
    refine (traced.kept (keeps_handleReceiveSequenceNumber _)).mono (fun _ d traced => ?_)
      fun _ _ traced => traced
    exact ⟨fun _ => traced, fun object _ => traced.always_executeManually _⟩
  case handleStartDtAct => exact fun _ => traced.always_handleStartDtAct
  case handleStopDtAct => exact fun _ => traced.always_handleStopDtAct
  case sendTestFrameCon => exact traced.always_writeUnnumbered (by decide) (by decide)
  case cancelTestCon => exact fun _ => traced.congr rfl
  case countDown => exact fun _ => traced.congr rfl

private theorem handleIFrame (traced : Traced settings sends before accepted lost c) (aPdu : APdu) :
    Post (handleIFrame settings aPdu) c
      (fun _ d => Traced settings sends before (accepted ++ [aPdu.aSdu]) lost d)
      (fun _ d => Traced settings sends before accepted lost d ∨
        Traced settings sends before (accepted ++ [aPdu.aSdu]) lost d) := by
  -- The ASDU of an I frame is accepted if the handler gets as far as handing it over.
  have counted : Traced settings sends before accepted lost c.received :=
    { traced with receive_lt := Nat.mod_lt _ (Nat.two_pow_pos 15) }
  have updated : Always (Traced settings sends before accepted lost) c
      (updateReceiveSeqNum settings aPdu.sendSeqNum) := by
    rw [Always, post_updateReceiveSeqNum]
    exact ⟨fun _ => traced, fun _ => ⟨fun _ => counted.always_sendSFormatPdu, fun _ => counted⟩⟩
  refine Post.seq (updated.mono (fun _ _ traced => traced) fun _ _ traced => .inl traced) fun _ d traced => ?_
  refine Post.seq ((traced.kept (keeps_handleReceiveSequenceNumber _)).mono (fun _ _ traced => traced)
    fun _ _ traced => .inl traced) fun _ d traced => ?_
  have handed : Post (handOver aPdu.aSdu) d
      (fun _ d => Traced settings sends before (accepted ++ [aPdu.aSdu]) lost d) (fun _ _ => False) := by
    rw [post_handOver]
    refine { traced with accepted := ?_ }
    simp [acceptedASdus, Event.acceptedASdu, ← traced.accepted]
  refine Post.seq (handed.mono (fun _ _ traced => traced) fun _ _ => False.elim) fun _ d traced => ?_
  rw [post_acknowledgeReceived]
  exact ⟨fun _ => traced.always_sendSFormatPdu.mono (fun _ _ traced => traced.congr rfl)
    fun _ _ traced => .inr traced, fun _ => traced.congr rfl⟩

theorem left (traced : Traced settings sends before accepted lost c) (e : JavaException) :
    Traced settings sends before accepted lost (c.left e) :=
  { traced with lost := fun _ => ReaderState.noConfusion }

/-- What the reader does with a frame: the ASDU of an I frame is accepted, or the reader leaves its
loop. -/
theorem receives (traced : Traced settings sends before accepted lost c) (aPdu : ReceivedAPdu)
    (taken : Step settings server c (.receive aPdu) d) :
    Traced settings sends before (accepted ++ aPdu.informed.toList) lost d ∨
      d.reader = .leaving ∧ Traced settings sends before accepted lost d := by
  obtain ⟨method, found, rfl⟩ := step_eq_some taken
  obtain ⟨-, ⟨⟩⟩ := Option.ite_none_right_eq_some.mp found
  refine Post.outcome (P := fun d => Traced settings sends before (accepted ++ aPdu.informed.toList) lost d ∨
    d.reader = .leaving ∧ Traced settings sends before accepted lost d) ?_
  rw [post_readerTurn]
  by_cases information : aPdu.apciType = .I_FORMAT
  · have informed : aPdu.informed = some aPdu.aSdu := if_pos information
    rw [informed, Option.toList_some]
    simp only [dispatch, information]
    rw [post_bind, post_closeIfStopped]
    refine ⟨fun _ => .inr ⟨rfl, traced.left _⟩, fun _ => ?_⟩
    refine (traced.handleIFrame aPdu.toAPdu).mono (fun _ _ traced => .inl (traced.congr rfl)) ?_
    intro e _ traced
    rcases traced with traced | traced
    · exact .inr ⟨rfl, traced.left e⟩
    · exact .inl (traced.left e)
  · have informed : aPdu.informed = none := if_neg information
    rw [informed, Option.toList_none, List.append_nil]
    exact (traced.always_dispatch information).mono (fun _ _ traced => .inl (traced.congr rfl))
      fun e _ traced => .inl (traced.left e)

theorem preserves : Preserves settings server (fun _ action => SendsShaped settings sends action)
    (Traced settings sends before accepted lost) where
  progress _ _ traced := traced.congr rfl
  callEnds c event traced ends := traced.congr (by
    cases event <;> simp_all [Event.endsCall, trail, acceptedASdus, Event.acceptedASdu])
  tick _ _ traced := traced.congr rfl
  send _ aSdu traced shaped _ := traced.always_send shaped.1 shaped.2
  receive _ _ _ nothing _ := nothing.elim
  readFailure _ e traced _ := traced.left e
  endReader c traced _ _ := by
    rw [Always, post_endReader]
    refine traced.always_close.mono (fun _ d traced => ?_) fun _ _ traced => traced
    refine { traced with accepted := ?_, lost := fun _ => ReaderState.noConfusion }
    rw [← traced.accepted]
    cases stopped : d.stopped <;> simp [acceptedASdus, stopped, Event.acceptedASdu]
  fire c id traced _ := by
    have dequeued : Traced settings sends before accepted lost (c.dequeued id) := traced.congr rfl
    rw [Always, post_fire]
    exact dequeued.always_executeManually id
  runTask _ task traced _ _ := traced.kept fun c => by
    cases registered : c.aSduListener <;> simp [trail, acceptedASdus, registered, Event.acceptedASdu]
  setConnectionListener _ _ traced _ := traced.congr rfl
  close _ traced := traced.always_close
  writeStartDtAct c traced := by
    have begun : Traced settings sends before accepted lost
        { c with startDtConSignal := some c.latches, latches := c.latches + 1 } := traced.congr rfl
    exact begun.always_writeUnnumbered (by decide) (by decide)
  register _ _ _ traced _ _ := traced.kept fun c => by
    simp [Connection.register, trail, acceptedASdus, Event.acceptedASdu]
  beginStop _ _ traced _ := traced.kept fun c => by
    simp [Connection.beginStop, trail, acceptedASdus, Event.acceptedASdu]
  confirm _ _ traced _ _ := traced.always_sendSFormatIfUnconfirmedAPdu
  cancelT2 _ _ traced _ _ := (post_cancelIfPlanned _).mpr (traced.congr rfl)
  writeStopDtAct c traced := by
    have begun : Traced settings sends before accepted lost
        { c with stopDtConSignal := some c.latches, latches := c.latches + 1 } := traced.congr rfl
    exact begun.always_writeUnnumbered (by decide) (by decide)
  finishStop _ _ traced _ _ := traced.congr rfl

/-- Every state is the beginning of a trace. -/
theorem again {sent : ASdu → Prop} (traced : Traced settings sends before accepted lost c)
    (already : ∀ aSdu, some aSdu ∈ c.sentASdus → sent aSdu) :
    Traced settings sent c.past c.acceptedASdus (c.reader ≠ .running) c := by
  refine { traced with toFlow := traced.toFlow.again, sendable := fun frame member => ?_, accepted := rfl, lost := id }
  exact (traced.sendable frame member).restrict fun aSdu informed =>
    already aSdu (List.mem_filterMap.mpr ⟨frame, member, informed⟩)

/-- On a socket that works everything goes out. -/
theorem outgoing_eq (traced : Traced settings sends before accepted lost c) (works : ∀ call, c.ioFails call = false)
    (isOpen : c.closed = false) : c.outgoing = c.frames := by
  rw [Connection.outgoing, traced.whole works isOpen, List.take_length]

theorem sendable_outgoing (traced : Traced settings sends before accepted lost c) :
    ∀ frame ∈ c.outgoing, frame.Sendable settings sends :=
  fun frame member => traced.sendable frame (List.mem_of_mem_take member)

theorem sends_of_mem {aSdu : ASdu} (traced : Traced settings sends before accepted lost c)
    (member : some aSdu ∈ c.sentASdus) : aSdu.WellShaped settings ∧ sends aSdu := by
  obtain ⟨frame, written, informed⟩ := List.mem_filterMap.mp member
  have sendable := traced.sendable frame written
  exact ⟨sendable.wellShaped informed, sendable.of_informed informed⟩

theorem started (ioFails : Nat → Bool) (now : Nat) :
    Traced settings sends .new [] False (started settings ioFails now) where
  send_lt := Nat.two_pow_pos 15
  receive_lt := Nat.two_pow_pos 15
  flushed_le := Nat.zero_le _
  outgoing := List.prefix_refl _
  closed := fun closed => by cases closed
  whole := fun _ _ => rfl
  before := List.prefix_refl _
  sendable := by simp [frames, Connection.started]
  accepted := rfl
  lost := False.elim

end Traced

end Connection

end J60870
