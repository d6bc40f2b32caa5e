import J60870.Connection.Session
import J60870.Connection.Tally

namespace J60870

open Lib Method SlidingWindow

@[simp] theorem APdu.received_numbering (settings : ConnectionSettings) (aPdu : APdu) :
    (aPdu.received settings).numbering = aPdu.numbering := by
  cases type : aPdu.apciType <;> simp [APdu.received, APdu.numbering, type]

namespace Session

open Connection

variable {settings other : ConnectionSettings} {isServer closed : Bool} {c d peer : Connection}
  {taken peerTaken more : Nat} {action : StationAction} {link next : Link Unit} {channel : List (Frame Unit)}

/-- The frames that the receiver has still to read are those of the channel. -/
def Waits (settings : ConnectionSettings) (sender receiver : Connection) (taken : Nat)
    (channel : List (Frame Unit)) : Prop :=
  ∃ read pending, Carries settings sender receiver taken read pending ∧
    pending.filterMap APdu.numbering = channel.map onWire

def departed (c : Connection) : List (Frame Unit) := c.outgoing.filterMap APdu.numbering

theorem Waits.sent {sends : ASdu → Prop} {accepted : List (Option ASdu)} {lost : Prop}
    {new : List (Frame Unit)} (waits : Waits settings c peer taken channel)
    (traced : Traced settings sends c.past accepted lost d)
    (emitted : departed d = departed c ++ new.map onWire) :
    Waits settings d peer taken (channel ++ new) := by
  obtain ⟨read, pending, carries, waiting⟩ := waits
  obtain ⟨later, sent⟩ := carries.sent traced
  refine ⟨read, later, sent, ?_⟩
  rw [departed, departed, carries.frames, sent.frames, List.filterMap_append, List.filterMap_append,
    List.append_assoc] at emitted
  rw [List.append_cancel_left emitted, waiting, List.map_append]

/-- On a socket that works what an open connection writes goes out, and what a closed one writes does not. -/
structure Departs (c d : Connection) : Prop where
  written : c.closed = false → (∀ call, d.ioFails call = false) →
    departed c = c.numberings ∧ departed d = d.numberings
  closed : c.closed = true → departed d = departed c

theorem Departs.of_step {sends sent : ASdu → Prop} {before : Past} {accepted later : List (Option ASdu)}
    {lost gone : Prop} {own : Connection.Action} (works : ∀ call, c.ioFails call = false)
    (mine : Traced settings sends before accepted lost c) (traced : Traced settings sent c.past later gone d)
    (step : Connection.Step settings isServer c own d) : Departs c d := by
  have numbers {c : Connection} {frames : List APdu} (same : c.outgoing = frames) :
      departed c = frames.filterMap APdu.numbering := congrArg _ same
  refine ⟨fun isOpen reliable => ⟨numbers (mine.outgoing_eq works isOpen), numbers ?_⟩,
    fun closed => numbers (traced.closed closed).2⟩
  cases closed : d.closed with
  | false => exact traced.outgoing_eq reliable closed
  | true =>
    obtain ⟨written, flushed⟩ := written_of_closes isOpen closed step
    have same : d.frames = c.frames := congrArg (List.map Written.frame) written
    rw [outgoing, same, flushed]
    exact mine.outgoing_eq works isOpen

theorem Departs.supervising {endpoint : Endpoint Unit} (departs : Departs c d)
    (supervising : Supervising settings endpoint c.numberings d) :
    ∃ n, departed d = departed c ++ List.replicate n (.supervisory (endpoint.accepted.length % 2 ^ 15)) := by
  obtain ⟨tallied, n, emitted⟩ := supervising
  cases closed : c.closed with
  | true => exact ⟨0, by rw [departs.closed closed]; exact (List.append_nil _).symm⟩
  | false =>
    obtain ⟨before, after⟩ := departs.written closed tallied.ioFails
    exact ⟨n, by rw [before, after, emitted]⟩

/-- The stations count as the endpoints of the link do. -/
structure Agreed (settings other : ConnectionSettings) (link : Link Unit) (c peer : Connection)
    (taken peerTaken : Nat) : Prop where
  linked : Linked settings other c peer taken peerTaken
  valid : link.Valid
  mine : Tallied settings link.near c
  theirs : Tallied other link.far peer
  incoming : c.reader = .running → Waits other peer c taken link.toNear
  outgoing : peer.reader = .running → Waits settings c peer peerTaken link.toFar

/-- What a station makes of the link. -/
structure Continues (settings other : ConnectionSettings) (link next : Link Unit) (c d peer : Connection)
    (taken : Nat) : Prop where
  valid : next.Valid
  mine : Tallied settings next.near d
  far : next.far = link.far
  emitted : ∃ new, departed d = departed c ++ new.map onWire ∧ next.toFar = link.toFar ++ new
  incoming : d.reader = .running → Waits other peer d taken next.toNear

namespace Continues

theorem supervises (valid : link.Valid) (departs : Departs c d)
    (supervising : Supervising settings link.near c.numberings d)
    (incoming : d.reader = .running → Waits other peer d taken link.toNear) :
    ∃ next, Continues settings other link next c d peer taken := by
  obtain ⟨n, emitted⟩ := departs.supervising supervising
  refine ⟨_, valid.of_run (link.run_supervise n), supervising.tallied, rfl, ⟨_, ?_, rfl⟩, incoming⟩
  rw [emitted, List.map_replicate]
  rfl

theorem delivers {frame : Frame Unit} {rest : List (Frame Unit)} (valid : link.Valid) (departs : Departs c d)
    (waiting : link.toNear = frame :: rest)
    (supervising : Supervising settings (link.near.deliver frame) c.numberings d)
    (incoming : d.reader = .running → Waits other peer d taken rest) :
    ∃ next, Continues settings other link next c d peer taken := by
  obtain ⟨n, emitted⟩ := departs.supervising supervising
  refine ⟨_, valid.of_run (Link.run_deliver waiting n), supervising.tallied, rfl, ⟨_, ?_, rfl⟩, incoming⟩
  rw [emitted, List.map_replicate]
  rfl

/-- An ASDU is sent if the window is open. -/
theorem sends {aSdu : ASdu} (valid : link.Valid) (departs : Departs c d)
    (tallied : Tallied settings link.near c) (fits : aSdu.Fits settings)
    (step : Connection.Step settings isServer c (.send aSdu) d)
    (incoming : d.reader = .running → Waits other peer d taken link.toNear) :
    ∃ next, Continues settings other link next c d peer taken := by
  obtain ⟨method, found, rfl⟩ := step_eq_some step
  obtain ⟨window, ⟨⟩⟩ := Option.ite_none_right_eq_some.mp found
  refine Post.outcome (P := fun d => Departs c d → (d.reader = .running → Waits other peer d taken link.toNear) →
    ∃ next, Continues settings other link next c d peer taken) ?_ departs incoming
  refine (tallied.sends fits).mono (fun _ d sent departs incoming => ?_) fun _ _ same departs waits => ?_
  · obtain ⟨isOpen, tallied', n, emitted⟩ := sent
    have acknowledged_le : link.near.acknowledged ≤ link.near.sent.length :=
      valid.toNear.acknowledged_le.trans valid.accepted_le
    have outstanding := valid.nearWindow
    have range := settings.k_range
    rw [tallied.window] at outstanding
    rw [getNumUnconfirmedAPdusSent, tallied.send, tallied.acknowledged isOpen,
      sequenceNumberDiff_mod acknowledged_le (by omega)] at window
    have free : link.near.sent.length < link.near.acknowledged + link.near.window := by
      rw [tallied.window]
      omega
    refine ⟨_, valid.of_run (link.run_send n () free), tallied', rfl, ⟨_, ?_, rfl⟩, incoming⟩
    obtain ⟨before, after⟩ := departs.written isOpen tallied'.ioFails
    rw [before, after, emitted, List.map_append, List.map_replicate]
    rfl
  · subst same
    exact supervises valid departs (.of_tallied tallied) waits

end Continues

namespace Agreed

theorem flip (agreed : Agreed settings other link c peer taken peerTaken) :
    Agreed other settings link.flip peer c peerTaken taken :=
  ⟨agreed.linked.flip, agreed.valid.flip, agreed.theirs, agreed.mine, agreed.outgoing, agreed.incoming⟩

theorem continues {own : Connection.Action} (agreed : Agreed settings other link c peer taken peerTaken)
    (moves : Moves settings other isServer c peer d (taken + more) action own)
    (continues : Continues settings other link next c d peer (taken + more)) :
    Agreed settings other next d peer (taken + more) peerTaken := by
  obtain ⟨valid, mine, far, ⟨new, emitted, toFar⟩, incoming⟩ := continues
  obtain ⟨_, traced⟩ := moves.traced
  refine ⟨agreed.linked.moved moves, valid, mine, far ▸ agreed.theirs, incoming, fun running => ?_⟩
  rw [toFar]
  exact (agreed.outgoing running).sent traced emitted

theorem departs {own : Connection.Action} (agreed : Agreed settings other link c peer taken peerTaken)
    (moves : Moves settings other isServer c peer d (taken + more) action own) : Departs c d := by
  obtain ⟨_, traced⟩ := moves.traced
  exact .of_step agreed.mine.ioFails agreed.linked.mine traced moves.step

/-- A frame is taken, unless it is refused or the connection is closed. -/
theorem received {aPdu : ReceivedAPdu} {rest : List Octet}
    (agreed : Agreed settings other link c peer taken peerTaken) (same : settings.SameFields other)
    (departs : Departs c d)
    (decoded : APdu.decode settings ((stream other peer).drop taken) = .ok (aPdu.toAPdu, rest))
    (step : Connection.Step settings isServer c (.receive aPdu) d) :
    (∃ next, Continues settings other link next c d peer
      (taken + (((stream other peer).drop taken).length - rest.length))) ∧
      (c.closed = false → d.reader = .running ∨ RefusesData isServer c ∧ aPdu.numbering ≠ none) := by
  have running : c.reader = .running := by
    obtain ⟨_, found, -⟩ := step_eq_some step
    exact (Option.ite_none_right_eq_some.mp found).1
  obtain ⟨linked, valid, mine, -, incoming, -⟩ := agreed
  obtain ⟨read, pending, carries, waiting⟩ := incoming running
  obtain ⟨frame, later, rfl, received, carried⟩ :=
    carries.received same.symm linked.theirs.sendable_outgoing linked.mine decoded step
  have numbers : aPdu.numbering = frame.numbering := by rw [received, APdu.received_numbering]
  cases uncounted : frame.numbering with
  | none =>
    rw [List.filterMap_cons_none uncounted] at waiting
    obtain ⟨supervising, runs⟩ := mine.takes (numbers.trans uncounted) step
    exact ⟨Continues.supervises valid departs supervising fun _ => ⟨_, _, carried, waiting⟩,
      fun isOpen => .inl (runs isOpen)⟩
  | some numbering =>
    rw [List.filterMap_cons_some uncounted] at waiting
    obtain ⟨first, others, atHead, rfl, remaining⟩ := List.map_eq_cons_iff.mp waiting.symm
    have expects := valid.expects atHead
    rcases mine.receives expects (numbers.trans uncounted) step with counted | ⟨supervising, left, refused⟩
    · obtain ⟨supervising, runs⟩ := counted
      exact ⟨Continues.delivers valid departs atHead supervising fun _ => ⟨_, _, carried, remaining.symm⟩,
        fun isOpen => .inl (runs isOpen)⟩
    · have numbered : aPdu.numbering ≠ none := by
        rw [numbers, uncounted]
        exact Option.some_ne_none _
      refine ⟨Continues.supervises valid departs supervising fun running => ?_,
        fun _ => .inr ⟨refused, numbered⟩⟩
      rw [left] at running
      cases running

private theorem own {own : Connection.Action} (agreed : Agreed settings other link c peer taken peerTaken)
    (departs : Departs c d) (fits : ∀ aSdu, own = .send aSdu → aSdu.Fits settings) (allowed : isOwn own = true)
    (incoming : d.reader = .running → Waits other peer d taken link.toNear)
    (step : Connection.Step settings isServer c own d) :
    ∃ next, Continues settings other link next c d peer taken := by
  by_cases sends : ∃ aSdu, own = .send aSdu
  · obtain ⟨aSdu, rfl⟩ := sends
    exact Continues.sends agreed.valid departs agreed.mine (fits aSdu rfl) step incoming
  · have uncounted : Uncounted c own := by
      cases own with
      | send aSdu => exact absurd ⟨aSdu, rfl⟩ sends
      | receive aPdu => cases allowed
      | _ => trivial
    have supervising : Supervising settings link.near c.numberings d :=
      Supervising.preserves.step (.of_tallied agreed.mine) uncounted step
    exact Continues.supervises agreed.valid departs supervising incoming

theorem act (agreed : Agreed settings other link c peer taken peerTaken) (same : settings.SameFields other)
    (shaped : ∀ aSdu, action = .own (.send aSdu) → aSdu.WellShaped settings ∧ aSdu.Fits settings)
    (acted : Session.act settings isServer ((stream other peer).drop taken) closed c action = some (d, more)) :
    ∃ next, Agreed settings other next d peer (taken + more) peerTaken := by
  obtain ⟨_, moves⟩ := agreed.linked.moves same (fun aSdu sent => (shaped aSdu sent).1) acted
  suffices continues : ∃ next, Continues settings other link next c d peer (taken + more) by
    obtain ⟨next, continues⟩ := continues
    exact ⟨next, agreed.continues moves continues⟩
  rcases act_cases acted with ⟨aPdu, rest, rfl, decoded, rfl, step⟩ | ⟨own, allowed, rfl, step, source⟩
  · exact (agreed.received same (agreed.departs moves) decoded step).1
  · have sent (aSdu : ASdu) (sends : own = .send aSdu) : action = .own (.send aSdu) := by
      subst sends
      rcases source with rfl | ⟨e, -, ⟨⟩, -⟩
      rfl
    have traced : Traced settings (fun aSdu => some aSdu ∈ c.sentASdus ∨ action = .own (.send aSdu)) c.past
        c.acceptedASdus (c.reader ≠ .running) d :=
      agreed.linked.traced_own (fun aSdu sends =>
        ⟨(shaped aSdu (sent aSdu sends)).1, (sent aSdu sends).trans (by rw [sends])⟩) allowed step
    refine agreed.own (agreed.departs moves) (fun aSdu sends => (shaped aSdu (sent aSdu sends)).2) allowed
      (fun running => ?_) step
    have ran : c.reader = .running := by_contra fun gone => traced.lost gone running
    obtain ⟨read, pending, carries, waiting⟩ := agreed.incoming ran
    exact ⟨read, pending, carries.own traced, waiting⟩

end Agreed

variable {clientSettings serverSettings : ConnectionSettings} {session after : Session}

def SendsFit (clientSettings serverSettings : ConnectionSettings) (_ : Session) : Side × StationAction → Prop
  | (.near, .own (.send aSdu)) => aSdu.WellShaped clientSettings ∧ aSdu.Fits clientSettings
  | (.far, .own (.send aSdu)) => aSdu.WellShaped serverSettings ∧ aSdu.Fits serverSettings
  | _ => True

private theorem agreed_step (same : clientSettings.SameFields serverSettings) {action : Side × StationAction}
    (agreed : Agreed clientSettings serverSettings link session.client session.server session.clientTaken
      session.serverTaken)
    (taken : Run.Guarded (SendsFit clientSettings serverSettings) (Step clientSettings serverSettings)
      session action after) :
    ∃ next, Agreed clientSettings serverSettings next after.client after.server after.clientTaken
      after.serverTaken := by
  obtain ⟨fits, taken⟩ := taken
  match action with
  | (.near, action) =>
    obtain ⟨⟨d, more⟩, acted, rfl⟩ := Option.map_eq_some_iff.mp taken
    exact agreed.act same (by rintro aSdu rfl; exact fits) acted
  | (.far, action) =>
    obtain ⟨⟨d, more⟩, acted, rfl⟩ := Option.map_eq_some_iff.mp taken
    obtain ⟨next, agreed⟩ := agreed.flip.act same.symm (by rintro aSdu rfl; exact fits) acted
    exact ⟨next.flip, agreed.flip⟩

private theorem tallied_started {window now : Nat} (k : window = settings.maxNumOfOutstandingIPdus) :
    Tallied settings { window := window } (started settings (fun _ => false) now) :=
  ⟨fun _ => rfl, rfl, rfl, Nat.two_pow_pos 15, rfl, k, fun _ => rfl, fun _ => rfl⟩

private theorem agreed_opened (same : clientSettings.SameFields serverSettings) (now : Nat) :
    ∃ link, Agreed clientSettings serverSettings link
      (started clientSettings (fun _ => false) now) (started serverSettings (fun _ => false) now) 0 0 := by
  have none {settings other : ConnectionSettings} :
      Waits settings (started settings (fun _ => false) now) (started other (fun _ => false) now) 0 [] :=
    ⟨[], [], ⟨rfl, rfl, List.nil_prefix, fun _ => rfl⟩, rfl⟩
  exact ⟨_, linked_of_run same .start, .start _ _, tallied_started rfl, tallied_started rfl, fun _ => none,
    fun _ => none⟩

/-- What a station can rely on, for the octets on their way to it. -/
structure Accords (settings : ConnectionSettings) (isServer : Bool) (c peer : Connection)
    (inFlight : List Octet) : Prop where
  /-- what it has sent is accepted by the other, except for frames it counts as outstanding -/
  covered : c.closed = false → peer.closed = false →
    c.sentASdus.length ≤ peer.acceptedASdus.length + c.getNumUnconfirmedAPdusSent
  bounded : peer.closed = false →
    c.sentASdus.length ≤ peer.acceptedASdus.length + settings.maxNumOfOutstandingIPdus
  /-- no frame ends its reader, unless an I frame or an S frame comes to a stopped server -/
  takes : c.closed = false → c.reader = .running → inFlight ≠ [] → ∃ aPdu rest d more,
    APdu.decode settings inFlight = .ok (aPdu, rest) ∧
      act settings isServer inFlight peer.closed c .read = some (d, more) ∧
      (d.reader = .running ∨ RefusesData isServer c ∧ aPdu.numbering ≠ none)

private theorem Agreed.accords (agreed : Agreed settings other link c peer taken peerTaken)
    (same : settings.SameFields other) :
    Accords settings isServer c peer ((stream other peer).drop taken) := by
  have accepted_le := agreed.valid.toNear.acknowledged_le
  have outstanding := agreed.valid.nearWindow
  have range := settings.k_range
  rw [agreed.mine.window] at outstanding
  constructor
  · intro isOpen peerOpen
    rw [agreed.mine.sent, agreed.theirs.accepted peerOpen, getNumUnconfirmedAPdusSent, agreed.mine.send,
      agreed.mine.acknowledged isOpen,
      sequenceNumberDiff_mod (accepted_le.trans agreed.valid.accepted_le) (by omega)]
    omega
  · intro peerOpen
    rw [agreed.mine.sent, agreed.theirs.accepted peerOpen]
    omega
  · intro isOpen running arriving
    obtain ⟨aPdu, rest, decoded⟩ := (agreed.linked.flip.arrives same.symm).readable.resolve_left arriving
    have acts : ∃ moved, Session.act settings isServer ((stream other peer).drop taken) peer.closed c .read =
        some moved := by
      simp only [Session.act]
      split
      · simp [Connection.step, body, running]
      · rename_i e failed
        rw [decoded] at failed
        cases failed
    obtain ⟨⟨d, more⟩, acted⟩ := acts
    obtain ⟨_, moves⟩ := agreed.linked.moves same (fun _ sent => by cases sent) acted
    rcases act_cases acted with ⟨_, _, -, decoded, rfl, step⟩ | ⟨_, -, -, -, reads⟩
    · have taken := (agreed.received same (agreed.departs moves) decoded step).2 isOpen
      exact ⟨_, _, _, _, decoded, acted, taken⟩
    · obtain reads | ⟨e, -, -, failed, -⟩ := reads
      · cases reads
      · rw [decoded] at failed
        cases failed

/-- On sockets that work the stations agree about the numbers of their frames in any session: no more than k
ASDUs are on their way to either, and what comes in ends no reader, unless data comes to a stopped server. -/
theorem stations_agree {now : Nat} {actions : List (Side × StationAction)}
    (same : clientSettings.SameFields serverSettings)
    (run : Run (Run.Guarded (SendsFit clientSettings serverSettings) (Step clientSettings serverSettings))
      (opened clientSettings serverSettings (fun _ => false) (fun _ => false) now) actions session) :
    Accords clientSettings false session.client session.server (session.toClient serverSettings) ∧
      Accords serverSettings true session.server session.client (session.toServer clientSettings) := by
  obtain ⟨link, agreed⟩ := run.invariant (I := fun session => ∃ link, Agreed clientSettings serverSettings link
    session.client session.server session.clientTaken session.serverTaken) (agreed_opened same now)
    fun _ _ _ agreed taken => agreed_step same agreed.choose_spec taken
  exact ⟨agreed.accords same, agreed.flip.accords same.symm⟩

/-- The client has sent a command, which is still on its way. -/
private def sampleSent : List (Side × StationAction) := sampleHandshake ++ [(.near, .own (.send sampleCommand))]

theorem stations_agree_sample :
    (sampleSession {} sampleSent).client.sentASdus = [some sampleCommand] ∧
    (sampleSession {} sampleSent).server.acceptedASdus = [] ∧
    Accords {} true (sampleSession {} sampleSent).server (sampleSession {} sampleSent).client
      ((sampleSession {} sampleSent).toServer {}) := by
  have performs : (Run.perform (step {} {}) (sampleOpened {}) sampleSent).isSome = true := by decide +kernel
  have run : Run (Run.Guarded (SendsFit {} {}) (Step {} {})) (sampleOpened {}) sampleSent
      (sampleSession {} sampleSent) := by
    refine (Run.of_perform_getD performs).guarded_of_mem ?_
    simp only [sampleSent, sampleHandshake, List.cons_append, List.nil_append, List.forall_mem_cons]
    exact ⟨fun _ => trivial, fun _ => trivial, fun _ => trivial, fun _ => trivial, fun _ => trivial,
      fun _ => trivial, fun _ => trivial, fun _ => ⟨sampleCommand_wellShaped, by decide⟩,
      fun _ none => by cases none⟩
  exact ⟨by decide +kernel, by decide +kernel, (stations_agree ⟨rfl, rfl, rfl⟩ run).2⟩

end Session

end J60870
