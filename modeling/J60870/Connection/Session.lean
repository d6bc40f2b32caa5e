import J60870.Connection.Trace
import J60870.Lib.SlidingWindow

/-! A client and a server joined by two streams of octets, once `start()` has returned on both sides.
Everything a connection does may happen on either side: sockets fail, timers run, readers end, and the
applications call what they like. As one step, the S frame of `stopDataTransfer` is whole: no other frame
of the station is encoded while it is written. -/

namespace J60870

open Lib Method Reader

open SlidingWindow (Side)

/-- A client, a server, and how many octets of the other each has read. -/
structure Session where
  client : Connection
  server : Connection
  clientTaken : Nat := 0
  serverTaken : Nat := 0

namespace Session

open Connection

def stream (settings : ConnectionSettings) (c : Connection) : List Octet :=
  c.outgoing.flatMap (APdu.octets settings)

inductive StationAction
  /-- the reader decodes a frame and handles it -/
  | read
  /-- what else happens to the connection -/
  | own (action : Connection.Action)

/-- Frames come from the other station. -/
def isOwn : Connection.Action → Bool
  | .receive _ => false
  | _ => true

/-- What an action of a station comes to, and how many octets it takes, for the octets on their way. At
their end the reader waits, unless the other station has closed. -/
def act (settings : ConnectionSettings) (isServer : Bool) (inFlight : List Octet) (otherClosed : Bool)
    (c : Connection) : StationAction → Option (Connection × Nat)
  | .read =>
    match read : APdu.decode settings inFlight with
    | .ok (aPdu, rest) =>
      let received : ReceivedAPdu := ⟨aPdu, (APdu.decode_ok read).2.1, (APdu.decode_ok read).2.2⟩
      (Connection.step settings isServer c (.receive received)).map fun d =>
        (d, inFlight.length - rest.length)
    | .error e =>
      if e = endOfStream ∧ otherClosed = false then none
      else (Connection.step settings isServer c (.readFailure e)).map fun d => (d, 0)
  | .own action =>
    if isOwn action then (Connection.step settings isServer c action).map fun d => (d, 0) else none

variable (clientSettings serverSettings : ConnectionSettings)

/-- What the server has written and the client has not read. -/
def toClient (session : Session) : List Octet :=
  (stream serverSettings session.server).drop session.clientTaken

/-- What the client has written and the server has not read. -/
def toServer (session : Session) : List Octet :=
  (stream clientSettings session.client).drop session.serverTaken

def step (session : Session) : Side × StationAction → Option Session
  | (.near, action) =>
    (act clientSettings false (session.toClient serverSettings) session.server.closed session.client
      action).map fun next =>
        { session with client := next.1, clientTaken := session.clientTaken + next.2 }
  | (.far, action) =>
    (act serverSettings true (session.toServer clientSettings) session.client.closed session.server
      action).map fun next =>
        { session with server := next.1, serverTaken := session.serverTaken + next.2 }

def Step (session : Session) (action : Side × StationAction) (next : Session) : Prop :=
  step clientSettings serverSettings session action = some next

/-- A session of two new connections. -/
def opened (clientFails serverFails : Nat → Bool) (now : Nat) : Session where
  client := .started clientSettings clientFails now
  server := .started serverSettings serverFails now

/-- The applications send well-shaped ASDUs. -/
def SendsShaped (_ : Session) : Side × StationAction → Prop
  | (.near, .own (.send aSdu)) => aSdu.WellShaped clientSettings
  | (.far, .own (.send aSdu)) => aSdu.WellShaped serverSettings
  | _ => True

variable {clientSettings serverSettings} {session next : Session}

/-- The two ways a station moves: it takes a frame, or it does something of its own. -/
theorem act_cases {settings : ConnectionSettings} {isServer : Bool} {inFlight : List Octet} {otherClosed : Bool}
    {c d : Connection} {action : StationAction} {taken : Nat}
    (acted : act settings isServer inFlight otherClosed c action = some (d, taken)) :
    (∃ (aPdu : ReceivedAPdu) (rest : List Octet), action = .read ∧
      APdu.decode settings inFlight = .ok (aPdu.toAPdu, rest) ∧ taken = inFlight.length - rest.length ∧
      Connection.Step settings isServer c (.receive aPdu) d) ∨
    ∃ own, isOwn own = true ∧ taken = 0 ∧ Connection.Step settings isServer c own d ∧
      ((action = .own own) ∨ ∃ e, action = .read ∧ own = .readFailure e ∧
        APdu.decode settings inFlight = .error e ∧ (e = endOfStream → otherClosed = true)) := by
  cases action with
  | read =>
    simp only [act] at acted
    split at acted
    · rename_i aPdu rest read
      obtain ⟨_, received, ⟨⟩⟩ := Option.map_eq_some_iff.mp acted
      exact .inl ⟨_, rest, rfl, read, rfl, received⟩
    · rename_i e read
      split at acted
      · cases acted
      · rename_i ended
        obtain ⟨_, failed, ⟨⟩⟩ := Option.map_eq_some_iff.mp acted
        refine .inr ⟨.readFailure e, rfl, rfl, failed, .inr ⟨e, rfl, rfl, read, fun atEnd => ?_⟩⟩
        exact Bool.not_eq_false _ |>.mp fun running => ended ⟨atEnd, running⟩
  | own own =>
    obtain ⟨allowed, moved⟩ := Option.ite_none_right_eq_some.mp acted
    obtain ⟨_, taken, ⟨⟩⟩ := Option.map_eq_some_iff.mp moved
    exact .inr ⟨own, allowed, rfl, taken, .inl rfl⟩

section Carries

def arrivals (settings : ConnectionSettings) (frames : List APdu) : List (Option ASdu) :=
  (frames.filterMap APdu.informed).map (Option.map (ASdu.received settings))

theorem arrivals_append (settings : ConnectionSettings) (first second : List APdu) :
    arrivals settings (first ++ second) = arrivals settings first ++ arrivals settings second := by
  simp only [arrivals, List.filterMap_append, List.map_append]

theorem arrivals_single (settings : ConnectionSettings) (frame : APdu) :
    arrivals settings [frame] = (frame.received settings).informed.toList := by
  by_cases information : frame.apciType = .I_FORMAT <;>
    simp [arrivals, APdu.informed, APdu.received, information]

/-- The receiver has read `read` of the frames that have left the sender and not `pending`. -/
structure Carries (settings : ConnectionSettings) (sender receiver : Connection) (taken : Nat)
    (read pending : List APdu) : Prop where
  frames : sender.outgoing = read ++ pending
  taken : taken = (read.flatMap (APdu.octets settings)).length
  accepted : receiver.acceptedASdus <+: arrivals settings read
  current : receiver.reader = .running → receiver.acceptedASdus = arrivals settings read

variable {settings other : ConnectionSettings} {sender receiver c : Connection} {taken : Nat}
variable {read pending : List APdu} {before : Past} {accepted : List (Option ASdu)} {lost : Prop}
variable {sends : ASdu → Prop}

theorem Carries.inFlight (carries : Carries settings sender receiver taken read pending) :
    (stream settings sender).drop taken = pending.flatMap (APdu.octets settings) := by
  rw [stream, carries.frames, carries.taken, List.flatMap_append, List.drop_left]

theorem Carries.sent (carries : Carries settings sender receiver taken read pending)
    (traced : Traced settings sends sender.past accepted lost c) :
    ∃ pending, Carries settings c receiver taken read pending := by
  obtain ⟨more, framed⟩ := traced.outgoing
  refine ⟨pending ++ more, { carries with frames := ?_ }⟩
  rw [← framed, past, carries.frames, List.append_assoc]

theorem Carries.own (carries : Carries settings sender receiver taken read pending)
    (traced : Traced other sends before receiver.acceptedASdus (receiver.reader ≠ .running) c) :
    Carries settings sender c taken read pending := by
  refine { carries with accepted := ?_, current := fun running => ?_ }
  · rw [traced.accepted]
    exact carries.accepted
  · rw [traced.accepted]
    exact carries.current (by_contra fun gone => traced.lost gone running)

/-- The receiver reads a frame. -/
theorem Carries.received {isServer : Bool} {aPdu : ReceivedAPdu} {rest : List Octet}
    (carries : Carries settings sender receiver taken read pending) (same : settings.SameFields other)
    (sendable : ∀ frame ∈ sender.outgoing, frame.Sendable settings fun _ => True)
    (traced : Traced other sends before receiver.acceptedASdus lost receiver)
    (decoded : APdu.decode other ((stream settings sender).drop taken) = .ok (aPdu.toAPdu, rest))
    (step : Connection.Step other isServer receiver (.receive aPdu) c) :
    ∃ frame later, pending = frame :: later ∧ aPdu.toAPdu = frame.received settings ∧
      Carries settings sender c
        (taken + (((stream settings sender).drop taken).length - rest.length)) (read ++ [frame]) later := by
  have running : receiver.reader = .running := by
    obtain ⟨_, found, -⟩ := step_eq_some step
    exact (Option.ite_none_right_eq_some.mp found).1
  rw [carries.inFlight] at decoded ⊢
  cases pending with
  | nil => cases decoded
  | cons frame later =>
    have mine := (sendable frame (by simp [carries.frames])).congr same
    have first := mine.yields_decode (later.flatMap (APdu.octets settings))
    rw [APdu.octets_congr same, APdu.received_congr same] at first
    rw [List.flatMap_cons, first] at decoded
    obtain ⟨taken', rfl⟩ : frame.received settings = aPdu.toAPdu ∧ later.flatMap (APdu.octets settings) = rest := by
      simpa using decoded
    refine ⟨frame, later, rfl, taken'.symm, ?_⟩
    have arrived : arrivals settings (read ++ [frame]) = receiver.acceptedASdus ++ aPdu.informed.toList := by
      rw [arrivals_append, arrivals_single, carries.current running, taken']
    constructor
    · rw [carries.frames, List.append_assoc]
      rfl
    · rw [carries.taken]
      simp
    · rw [arrived]
      rcases traced.receives aPdu step with traced | ⟨-, traced⟩
      · exact traced.accepted ▸ List.prefix_refl _
      · exact traced.accepted ▸ List.prefix_append _ _
    · intro runs
      rcases traced.receives aPdu step with traced | ⟨leaving, -⟩
      · rw [arrived, traced.accepted]
      · rw [runs] at leaving
        cases leaving

end Carries

/-- Two stations, each with what it has written, and what it has read of the other. -/
structure Linked (settings other : ConnectionSettings) (c peer : Connection) (taken peerTaken : Nat) :
    Prop where
  mine : Traced settings (fun _ => True) .new c.acceptedASdus False c
  theirs : Traced other (fun _ => True) .new peer.acceptedASdus False peer
  incoming : ∃ read pending, Carries other peer c taken read pending
  outgoing : ∃ read pending, Carries settings c peer peerTaken read pending

/-- An action of a station and what its connection makes of it. -/
structure Moves (settings other : ConnectionSettings) (isServer : Bool) (c peer d : Connection) (taken : Nat)
    (action : StationAction) (own : Connection.Action) : Prop where
  step : Connection.Step settings isServer c own d
  /-- it sends what the application gives it -/
  traced : ∃ accepted, Traced settings (fun aSdu => some aSdu ∈ c.sentASdus ∨ action = .own (.send aSdu))
    c.past accepted (c.reader ≠ .running) d
  incoming : ∃ read pending, Carries other peer d taken read pending
  /-- it receives what the other station has written -/
  source : action = .own own ∨ (∃ e, own = .readFailure e) ∨
    ∃ (aPdu : ReceivedAPdu) (frame : APdu), own = .receive aPdu ∧ frame ∈ peer.outgoing ∧
      aPdu.toAPdu = frame.received other

namespace Linked

variable {settings other : ConnectionSettings} {c d peer : Connection} {taken peerTaken more : Nat}
variable {isServer closed : Bool} {action : StationAction}

theorem flip (linked : Linked settings other c peer taken peerTaken) :
    Linked other settings peer c peerTaken taken :=
  ⟨linked.theirs, linked.mine, linked.outgoing, linked.incoming⟩

private theorem again (linked : Linked settings other c peer taken peerTaken) (action : StationAction) :
    Traced settings (fun aSdu => some aSdu ∈ c.sentASdus ∨ action = .own (.send aSdu)) c.past
      c.acceptedASdus (c.reader ≠ .running) c :=
  linked.mine.again fun _ already => .inl already

theorem traced_own {own : Connection.Action} (linked : Linked settings other c peer taken peerTaken)
    (shaped : ∀ aSdu, own = .send aSdu → aSdu.WellShaped settings ∧ action = .own own)
    (allowed : isOwn own = true) (step : Connection.Step settings isServer c own d) :
    Traced settings (fun aSdu => some aSdu ∈ c.sentASdus ∨ action = .own (.send aSdu)) c.past
      c.acceptedASdus (c.reader ≠ .running) d := by
  have quiet : Connection.SendsShaped settings
      (fun aSdu => some aSdu ∈ c.sentASdus ∨ action = .own (.send aSdu)) own := by
    cases own with
    | send aSdu => exact ⟨(shaped aSdu rfl).1, .inr (shaped aSdu rfl).2⟩
    | receive _ => cases allowed
    | _ => trivial
  exact Traced.preserves.step (linked.again action) quiet step

private theorem own {own : Connection.Action} (linked : Linked settings other c peer taken peerTaken)
    (shaped : ∀ aSdu, own = .send aSdu → aSdu.WellShaped settings ∧ action = .own own) (allowed : isOwn own = true)
    (source : action = .own own ∨ ∃ e, own = .readFailure e) (step : Connection.Step settings isServer c own d) :
    Moves settings other isServer c peer d taken action own := by
  obtain ⟨_, _, incoming⟩ := linked.incoming
  have traced := linked.traced_own shaped allowed step
  exact ⟨step, ⟨_, traced⟩, ⟨_, _, incoming.own traced⟩, source.imp_right .inl⟩

private theorem read {aPdu : ReceivedAPdu} {rest : List Octet}
    (linked : Linked settings other c peer taken peerTaken) (same : settings.SameFields other)
    (decoded : APdu.decode settings ((stream other peer).drop taken) = .ok (aPdu.toAPdu, rest))
    (step : Connection.Step settings isServer c (.receive aPdu) d) :
    Moves settings other isServer c peer d (taken + (((stream other peer).drop taken).length - rest.length))
      action (.receive aPdu) := by
  obtain ⟨_, _, incoming⟩ := linked.incoming
  obtain ⟨frame, later, rfl, received, next⟩ :=
    incoming.received same.symm linked.theirs.sendable_outgoing linked.mine decoded step
  refine ⟨step, ?_, ⟨_, _, next⟩, .inr (.inr ⟨aPdu, frame, rfl, by simp [incoming.frames], received⟩)⟩
  rcases (linked.again action).receives aPdu step with traced | ⟨-, traced⟩ <;> exact ⟨_, traced⟩

theorem moves (linked : Linked settings other c peer taken peerTaken) (same : settings.SameFields other)
    (shaped : ∀ aSdu, action = .own (.send aSdu) → aSdu.WellShaped settings)
    (acted : Session.act settings isServer ((stream other peer).drop taken) closed c action = some (d, more)) :
    ∃ own, Moves settings other isServer c peer d (taken + more) action own := by
  rcases act_cases acted with ⟨aPdu, rest, rfl, decoded, rfl, step⟩ | ⟨own, allowed, rfl, step, rfl | failed⟩
  · exact ⟨_, linked.read same decoded step⟩
  · exact ⟨own, linked.own (fun aSdu sent => ⟨shaped aSdu (congrArg _ sent), rfl⟩) allowed (.inl rfl) step⟩
  · obtain ⟨e, rfl, rfl, -⟩ := failed
    exact ⟨_, linked.own (fun _ failed => by cases failed) rfl (.inr ⟨e, rfl⟩) step⟩

theorem moved {own : Connection.Action} (linked : Linked settings other c peer taken peerTaken)
    (moves : Moves settings other isServer c peer d (taken + more) action own) :
    Linked settings other d peer (taken + more) peerTaken := by
  obtain ⟨-, ⟨_, traced⟩, incoming, -⟩ := moves
  obtain ⟨read, _, outgoing⟩ := linked.outgoing
  refine ⟨?_, linked.theirs, incoming, ⟨read, outgoing.sent traced⟩⟩
  exact { traced.again fun _ _ => trivial with
    outgoing := List.nil_prefix
    closed := fun closed => absurd closed Bool.false_ne_true
    before := List.nil_prefix
    lost := False.elim }

end Linked

theorem linked_step (same : clientSettings.SameFields serverSettings)
    {action : Side × StationAction}
    (linked : Linked clientSettings serverSettings session.client session.server session.clientTaken
      session.serverTaken)
    (taken : Run.Guarded (SendsShaped clientSettings serverSettings) (Step clientSettings serverSettings)
      session action next) :
    Linked clientSettings serverSettings next.client next.server next.clientTaken next.serverTaken := by
  obtain ⟨shaped, taken⟩ := taken
  match action with
  | (.near, action) =>
    obtain ⟨⟨d, more⟩, acted, rfl⟩ := Option.map_eq_some_iff.mp taken
    obtain ⟨_, moves⟩ := linked.moves same (by rintro aSdu rfl; exact shaped) acted
    exact linked.moved moves
  | (.far, action) =>
    obtain ⟨⟨d, more⟩, acted, rfl⟩ := Option.map_eq_some_iff.mp taken
    obtain ⟨_, moves⟩ := linked.flip.moves same.symm (by rintro aSdu rfl; exact shaped) acted
    exact (linked.flip.moved moves).flip

theorem linked_of_run {clientFails serverFails : Nat → Bool} {now : Nat}
    {actions : List (Side × StationAction)} (same : clientSettings.SameFields serverSettings)
    (run : Run (Run.Guarded (SendsShaped clientSettings serverSettings) (Step clientSettings serverSettings))
      (opened clientSettings serverSettings clientFails serverFails now) actions session) :
    Linked clientSettings serverSettings session.client session.server session.clientTaken
      session.serverTaken := by
  have none {settings other : ConnectionSettings} {ioFails otherFails : Nat → Bool} :
      Carries settings (started settings ioFails now) (started other otherFails now) 0 [] [] :=
    ⟨rfl, rfl, List.nil_prefix, fun _ => rfl⟩
  refine run.invariant (I := fun session => Linked clientSettings serverSettings session.client
    session.server session.clientTaken session.serverTaken) ?_ fun _ _ _ linked taken =>
      linked_step same linked taken
  exact ⟨.started clientFails now, .started serverFails now, ⟨[], [], none⟩, ⟨[], [], none⟩⟩

/-- What a receiver can rely on, for the octets on their way to it. -/
structure Arrives (settings other : ConnectionSettings) (sender receiver : Connection)
    (inFlight : List Octet) : Prop where
  /-- nothing goes out that was not sent, or before what was sent earlier -/
  sent : sender.outgoingASdus <+: sender.sentASdus
  /-- on a socket that works everything goes out, as long as the sender is not closed -/
  whole : (∀ call, sender.ioFails call = false) → sender.closed = false → sender.outgoingASdus = sender.sentASdus
  /-- what it has accepted is what has gone out, from the first ASDU on and without gaps -/
  inOrder : receiver.acceptedASdus <+: sender.outgoingASdus.map (Option.map (ASdu.received settings))
  /-- as long as it reads, what it has not accepted yet is on its way, frame by frame -/
  complete : receiver.reader = .running → ∃ pending : List APdu,
    inFlight = pending.flatMap (APdu.octets settings) ∧
    receiver.acceptedASdus ++ arrivals settings pending =
      sender.outgoingASdus.map (Option.map (ASdu.received settings))
  drained : receiver.reader = .running → inFlight = [] →
    receiver.acceptedASdus = sender.outgoingASdus.map (Option.map (ASdu.received settings))
  /-- it never finds anything but whole frames -/
  readable : inFlight = [] ∨ ∃ aPdu rest, APdu.decode other inFlight = .ok (aPdu, rest)

theorem Linked.arrives {settings other : ConnectionSettings} {c peer : Connection}
    {taken peerTaken : Nat} (linked : Linked settings other c peer taken peerTaken)
    (same : settings.SameFields other) :
    Arrives settings other c peer ((stream settings c).drop peerTaken) := by
  obtain ⟨mine, -, -, ⟨read, pending, carries⟩⟩ := linked
  have sent : c.outgoingASdus.map (Option.map (ASdu.received settings)) =
      arrivals settings read ++ arrivals settings pending := by
    rw [← arrivals_append, ← carries.frames]
    rfl
  rw [carries.inFlight]
  constructor
  · exact c.outgoingASdus_prefix
  · exact fun works isOpen => congrArg _ (mine.outgoing_eq works isOpen)
  · rw [sent]
    exact carries.accepted.trans (List.prefix_append _ _)
  · intro running
    exact ⟨pending, rfl, by rw [sent, carries.current running]⟩
  · intro running drained
    cases pending with
    | nil =>
      rw [sent, carries.current running]
      exact (List.append_nil _).symm
    | cons frame later =>
      have sendable := mine.sendable_outgoing frame (by simp [carries.frames])
      exact absurd (List.append_eq_nil_iff.mp drained).1 sendable.octets_ne_nil
  · cases pending with
    | nil => exact .inl rfl
    | cons frame later =>
      have first := ((mine.sendable_outgoing frame (by simp [carries.frames])).congr same).yields_decode
        (later.flatMap (APdu.octets settings))
      rw [APdu.octets_congr same] at first
      exact .inr ⟨_, _, first⟩

/-- Whatever happens to a client and a server with the same field lengths, each accepts what the
other has sent: in order, nothing twice and nothing else, and nothing is missing but what is still on its
way, until a reader ends. -/
theorem asdus_arrive {clientFails serverFails : Nat → Bool} {now : Nat}
    {actions : List (Side × StationAction)} (same : clientSettings.SameFields serverSettings)
    (run : Run (Run.Guarded (SendsShaped clientSettings serverSettings) (Step clientSettings serverSettings))
      (opened clientSettings serverSettings clientFails serverFails now) actions session) :
    Arrives clientSettings serverSettings session.client session.server (session.toServer clientSettings) ∧
    Arrives serverSettings clientSettings session.server session.client (session.toClient serverSettings) := by
  have linked := linked_of_run same run
  exact ⟨linked.arrives same, linked.flip.arrives same.symm⟩

section Samples

/-- The client starts the transfer. -/
def sampleHandshake : List (Side × StationAction) :=
  [(.near, .own (.startDataTransfer 0 (some 7))), (.near, .own (.proceed 0)),
    (.far, .own (.setConnectionListener (some 5))), (.far, .read), (.near, .read), (.near, .own (.proceed 0)),
    (.near, .own (.proceed 0))]

def sampleActions : List (Side × StationAction) :=
  sampleHandshake ++ [(.near, .own (.send sampleCommand)), (.far, .read), (.far, .own .runTask)]

def sampleOpened (settings : ConnectionSettings) : Session :=
  opened settings settings (fun _ => false) (fun _ => false) 0

def sampleSession (settings : ConnectionSettings) (actions : List (Side × StationAction)) : Session :=
  (Run.perform (step settings settings) (sampleOpened settings) actions).getD (sampleOpened settings)

theorem sampleCommand_wellShaped : sampleCommand.WellShaped {} where
  cause := rfl
  originatorAddress _ := by decide
  commonAddress := by decide
  contents := .objects (.single [.ieSingleCommand]) _ rfl rfl ⟨rfl, rfl⟩ rfl (by decide) (by
    intro object member
    cases List.mem_singleton.mp member
    exact ⟨by decide, [.ieSingleCommand 1], rfl, by simp only [InformationObject.SetFits]; decide⟩)

theorem sample_performs : (Run.perform (step {} {}) (sampleOpened {}) sampleActions).isSome = true := by
  decide +kernel

private theorem sample_run : Run (Run.Guarded (SendsShaped {} {}) (Step {} {})) (sampleOpened {}) sampleActions
    (sampleSession {} sampleActions) := by
  refine (Run.of_perform_getD sample_performs).guarded_of_mem ?_
  simp only [sampleActions, sampleHandshake, List.cons_append, List.nil_append, List.forall_mem_cons]
  exact ⟨fun _ => trivial, fun _ => trivial, fun _ => trivial, fun _ => trivial, fun _ => trivial,
    fun _ => trivial, fun _ => trivial, fun _ => sampleCommand_wellShaped, fun _ => trivial,
    fun _ => trivial, fun _ none => by cases none⟩

theorem asdus_arrive_sample :
    (sampleSession {} sampleActions).server.acceptedASdus = [some sampleCommand] ∧
    Arrives {} {} (sampleSession {} sampleActions).client (sampleSession {} sampleActions).server
      ((sampleSession {} sampleActions).toServer {}) :=
  ⟨by decide +kernel, (asdus_arrive ⟨rfl, rfl, rfl⟩ sample_run).1⟩

end Samples

section Told

def passedOn : Event → Option (Option ASdu)
  | .newASdu _ aSdu => some aSdu
  | _ => none

private theorem filterMap_sublist {α β : Type} {f g : α → Option β} (le : ∀ a b, f a = some b → g a = some b)
    (l : List α) : (l.filterMap f).Sublist (l.filterMap g) := by
  induction l with
  | nil => exact List.Sublist.slnil
  | cons a l ih =>
    cases found : f a with
    | some b =>
      rw [List.filterMap_cons_some found, List.filterMap_cons_some (le a b found)]
      exact ih.cons_cons b
    | none =>
      rw [List.filterMap_cons_none found]
      refine ih.trans ?_
      rw [List.filterMap_cons]
      split
      · exact List.Sublist.refl _
      · exact List.sublist_cons_self _ _

/-- Every ASDU finds a listener when it is accepted, and one when its task runs. -/
def Heard (c : Connection) : Prop :=
  (∀ aSdu, .accepted aSdu none ∉ c.events) ∧ ∀ aSdu, .taskDied aSdu ∉ c.events

private theorem passedOn_sublist {settings : ConnectionSettings} {server : Bool} {c : Connection}
    {actions : List Connection.Action} {ioFails : Nat → Bool} {now : Nat}
    (run : Run (Connection.Step settings server) (started settings ioFails now) actions c) :
    (c.events.filterMap passedOn).Sublist c.acceptedASdus ∧
      (Heard c → c.events.filterMap passedOn ++ c.serialExecutor.queue.map Task.aSdu = c.acceptedASdus) := by
  have once := run_once_in_order run
  have ran (event : Event) (aSdu : Option ASdu) (passed : passedOn event = some aSdu) :
      event.hasRun.map Prod.fst = some aSdu := by
    cases event <;> simp_all [passedOn, Event.hasRun]
  have arrived (event : Event) (aSdu : Option ASdu) (handed : event.handedOver.map Prod.fst = some aSdu) :
      event.acceptedASdu = some aSdu := by
    cases event with
    | accepted aSdu listener => cases listener <;> simp_all [Event.handedOver, Event.acceptedASdu]
    | _ => simp [Event.handedOver] at handed
  rw [List.map_filterMap, List.map_filterMap] at once
  constructor
  · have first := filterMap_sublist ran c.events
    refine (first.trans ?_).trans (filterMap_sublist arrived c.events)
    rw [← once]
    exact List.sublist_append_left _ _
  · rintro ⟨accepted, died⟩
    have told : c.events.filterMap passedOn = c.events.filterMap fun event => event.hasRun.map Prod.fst := by
      refine List.filterMap_congr fun event member => ?_
      cases event <;> simp_all [passedOn, Event.hasRun]
    have handed : c.acceptedASdus = c.events.filterMap fun event => event.handedOver.map Prod.fst := by
      refine List.filterMap_congr fun event member => ?_
      cases event with
      | accepted aSdu listener => cases listener <;> simp_all [Event.handedOver, Event.acceptedASdu]
      | _ => rfl
    rw [told, handed, once]

private theorem connection_step {action : Side × StationAction}
    (taken : Step clientSettings serverSettings session action next) :
    (∃ own, Connection.Step clientSettings false session.client own next.client) ∧
        next.server = session.server ∨
      (∃ own, Connection.Step serverSettings true session.server own next.server) ∧
        next.client = session.client := by
  have acts {settings : ConnectionSettings} {isServer closed : Bool} {inFlight : List Octet} {c d : Connection}
      {action : StationAction} {taken : Nat}
      (acted : act settings isServer inFlight closed c action = some (d, taken)) :
      ∃ own, Connection.Step settings isServer c own d := by
    rcases act_cases acted with ⟨aPdu, -, -, -, -, step⟩ | ⟨own, -, -, step, -⟩
    · exact ⟨_, step⟩
    · exact ⟨own, step⟩
  match action with
  | (.near, action) =>
    obtain ⟨⟨d, more⟩, acted, rfl⟩ := Option.map_eq_some_iff.mp taken
    exact .inl ⟨acts acted, rfl⟩
  | (.far, action) =>
    obtain ⟨⟨d, more⟩, acted, rfl⟩ := Option.map_eq_some_iff.mp taken
    exact .inr ⟨acts acted, rfl⟩

/-- What the client does in a session is a run of the client. -/
theorem client_run {actions : List (Side × StationAction)}
    (run : Run (Step clientSettings serverSettings) session actions next) :
    ∃ own, Run (Connection.Step clientSettings false) session.client own next.client := by
  have matched : ∀ (before : Session) (action : Side × StationAction) (after : Session) (c : Connection),
      before.client = c → Step clientSettings serverSettings before action after →
      ∃ own d, Run (Connection.Step clientSettings false) c own d ∧ after.client = d := by
    rintro before action after _ rfl taken
    rcases connection_step taken with ⟨⟨own, step⟩, -⟩ | ⟨-, same⟩
    · exact ⟨[own], _, .single step, rfl⟩
    · exact ⟨[], _, .start, same⟩
  obtain ⟨own, _, taken, rfl⟩ := run.simulates matched rfl
  exact ⟨own, taken⟩

theorem server_run {actions : List (Side × StationAction)}
    (run : Run (Step clientSettings serverSettings) session actions next) :
    ∃ own, Run (Connection.Step serverSettings true) session.server own next.server := by
  have matched : ∀ (before : Session) (action : Side × StationAction) (after : Session) (c : Connection),
      before.server = c → Step clientSettings serverSettings before action after →
      ∃ own d, Run (Connection.Step serverSettings true) c own d ∧ after.server = d := by
    rintro before action after _ rfl taken
    rcases connection_step taken with ⟨-, same⟩ | ⟨⟨own, step⟩, -⟩
    · exact ⟨[], _, .start, same⟩
    · exact ⟨[own], _, .single step, rfl⟩
  obtain ⟨own, _, taken, rfl⟩ := run.simulates matched rfl
  exact ⟨own, taken⟩

/-- What the listeners of a station are given, beside what the other station has sent. -/
structure Hears (settings : ConnectionSettings) (sender receiver : Connection) (inFlight : List Octet) :
    Prop where
  /-- in order, nothing twice, and nothing that was not sent -/
  inOrder : (receiver.events.filterMap passedOn).Sublist
    (sender.outgoingASdus.map (Option.map (ASdu.received settings)))
  /-- everything, once it is read and the tasks have run -/
  complete : Heard receiver → receiver.reader = .running → receiver.serialExecutor.queue = [] →
    inFlight = [] → receiver.events.filterMap passedOn =
      sender.outgoingASdus.map (Option.map (ASdu.received settings))

/-- Of what a station can rely on, its listeners are told in the same order. -/
theorem Arrives.hears {settings other : ConnectionSettings} {sender receiver : Connection}
    {inFlight : List Octet} {isServer : Bool} {ioFails : Nat → Bool} {now : Nat}
    (arrives : Arrives settings other sender receiver inFlight)
    (own : ∃ own, Run (Connection.Step other isServer) (started other ioFails now) own receiver) :
    Hears settings sender receiver inFlight := by
  obtain ⟨_, own⟩ := own
  obtain ⟨some, all⟩ := passedOn_sublist own
  refine ⟨some.trans arrives.inOrder.sublist, fun heard running done drained => ?_⟩
  rw [← arrives.drained running drained, ← all heard, done, List.map_nil, List.append_nil]

/-- The listeners of each side are given what the other side sends: in order, nothing twice and
nothing else, and everything as long as there is a listener and the reader runs. -/
theorem asdus_heard {clientFails serverFails : Nat → Bool} {now : Nat}
    {actions : List (Side × StationAction)} (same : clientSettings.SameFields serverSettings)
    (run : Run (Run.Guarded (SendsShaped clientSettings serverSettings) (Step clientSettings serverSettings))
      (opened clientSettings serverSettings clientFails serverFails now) actions session) :
    Hears clientSettings session.client session.server (session.toServer clientSettings) ∧
    Hears serverSettings session.server session.client (session.toClient serverSettings) := by
  have linked := linked_of_run same run
  exact ⟨(linked.arrives same).hears (server_run run.unguarded),
    (linked.flip.arrives same.symm).hears (client_run run.unguarded)⟩

theorem asdus_heard_sample :
    (sampleSession {} sampleActions).server.events.filterMap passedOn = [some sampleCommand] ∧
    Hears {} (sampleSession {} sampleActions).client (sampleSession {} sampleActions).server
      ((sampleSession {} sampleActions).toServer {}) :=
  ⟨by decide +kernel, (asdus_heard ⟨rfl, rfl, rfl⟩ sample_run).1⟩

end Told

end Session

end J60870
