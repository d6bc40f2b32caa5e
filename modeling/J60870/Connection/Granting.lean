import J60870.Connection.Session
import J60870.Connection.Ungranted

namespace J60870

open Lib Method

open SlidingWindow (Side)

namespace Session

open Connection

variable {clientSettings serverSettings : ConnectionSettings} {session next : Session}

/-- The ASDUs are well shaped, and no thread is interrupted before its latch is counted down. -/
def Orderly (clientSettings serverSettings : ConnectionSettings) (session : Session)
    (action : Side × StationAction) : Prop :=
  SendsShaped clientSettings serverSettings session action ∧
    match action with
    | (.near, .own own) => session.client.Uninterrupted own
    | (.far, .own own) => session.server.Uninterrupted own
    | (_, .read) => True

def HasWritten (c : Connection) (apciType : ApciType) : Prop := ∃ frame ∈ c.frames, frame.apciType = apciType

theorem HasWritten.mono {c d : Connection} {apciType : ApciType} (written : HasWritten c apciType)
    (more : c.frames <+: d.frames) : HasWritten d apciType := by
  obtain ⟨frame, member, type⟩ := written
  exact ⟨frame, more.subset member, type⟩

/-- Unless the peer has written a start or the confirmation of one, the station waits for it. -/
def GrantedBy (c peer : Connection) : Prop :=
  HasWritten peer .STARTDT_ACT ∨ HasWritten peer .STARTDT_CON ∨ Ungranted c

/-- What stations do before one of them has requested a start. -/
structure Starts (settings other : ConnectionSettings) (c peer : Connection) (taken peerTaken : Nat) :
    Prop where
  linked : Linked settings other c peer taken peerTaken
  granted : GrantedBy c peer
  peerGranted : GrantedBy peer c
  requested : HasWritten c .STARTDT_ACT ∨ HasWritten peer .STARTDT_ACT ∨ Ungranted c ∧ Ungranted peer

namespace Starts

variable {settings other : ConnectionSettings} {c d peer : Connection} {taken peerTaken more : Nat}

theorem flip (starts : Starts settings other c peer taken peerTaken) :
    Starts other settings peer c peerTaken taken := by
  obtain ⟨linked, granted, peerGranted, requested⟩ := starts
  refine ⟨linked.flip, peerGranted, granted, ?_⟩
  rcases requested with mine | theirs | ⟨mine, theirs⟩
  · exact .inr (.inl mine)
  · exact .inl theirs
  · exact .inr (.inr ⟨theirs, mine⟩)

private theorem not_hasWritten (ungranted : Ungranted c) : ¬ HasWritten c .STARTDT_CON := by
  rintro ⟨frame, member, type⟩
  have transfers : frame.transfers = true := by simp [APdu.transfers, type]
  have kept := List.mem_filter.mpr ⟨member, transfers⟩
  rw [ungranted.halted.transfers] at kept
  cases kept

theorem act {isServer closed : Bool} {action : StationAction}
    (starts : Starts settings other c peer taken peerTaken) (same : settings.SameFields other)
    (shaped : ∀ aSdu, action = .own (.send aSdu) → aSdu.WellShaped settings)
    (uninterrupted : ∀ own, action = .own own → c.Uninterrupted own)
    (acted : Session.act settings isServer ((stream other peer).drop taken) closed c action = some (d, more)) :
    Starts settings other d peer (taken + more) peerTaken := by
  obtain ⟨linked, granted, peerGranted, requested⟩ := starts
  obtain ⟨own, moves⟩ := linked.moves same shaped acted
  obtain ⟨_, traced⟩ := moves.traced
  have waits (ungranted : Ungranted c) (act : ¬ HasWritten peer .STARTDT_ACT)
      (con : ¬ HasWritten peer .STARTDT_CON) : Ungranted d := by
    refine ungranted.step ?_ ?_ moves.step
    · rcases moves.source with given | ⟨e, rfl⟩ | ⟨aPdu, -, rfl, -⟩
      · exact uninterrupted own given
      · trivial
      · trivial
    · rintro aPdu rfl
      rcases moves.source with given | ⟨e, ⟨⟩⟩ | ⟨_, frame, ⟨⟩, member, received⟩
      · subst given
        simp [Session.act, isOwn] at acted
      · have written : frame ∈ peer.frames := List.mem_of_mem_take member
        have type : aPdu.apciType = frame.apciType := by rw [received]; rfl
        exact ⟨fun start => act ⟨frame, written, type.symm.trans start⟩,
          fun start => con ⟨frame, written, type.symm.trans start⟩⟩
  refine ⟨linked.moved moves, ?_, ?_, ?_⟩
  · by_cases act : HasWritten peer .STARTDT_ACT
    · exact .inl act
    by_cases con : HasWritten peer .STARTDT_CON
    · exact .inr (.inl con)
    exact .inr (.inr (waits ((granted.resolve_left act).resolve_left con) act con))
  · rcases peerGranted with start | confirmation | ungranted
    · exact .inl (start.mono traced.before)
    · exact .inr (.inl (confirmation.mono traced.before))
    · exact .inr (.inr ungranted)
  · by_cases act : HasWritten peer .STARTDT_ACT
    · exact .inr (.inl act)
    rcases requested with start | start | ⟨mine, theirs⟩
    · exact .inl (start.mono traced.before)
    · exact absurd start act
    · exact .inr (.inr ⟨waits mine act (not_hasWritten theirs), theirs⟩)

end Starts

private theorem starts_step (same : clientSettings.SameFields serverSettings)
    {action : Side × StationAction}
    (starts : Starts clientSettings serverSettings session.client session.server session.clientTaken
      session.serverTaken)
    (taken : Run.Guarded (Orderly clientSettings serverSettings) (Step clientSettings serverSettings)
      session action next) :
    Starts clientSettings serverSettings next.client next.server next.clientTaken next.serverTaken := by
  obtain ⟨⟨shaped, uninterrupted⟩, taken⟩ := taken
  match action with
  | (.near, action) =>
    obtain ⟨⟨d, more⟩, acted, rfl⟩ := Option.map_eq_some_iff.mp taken
    exact starts.act same (by rintro aSdu rfl; exact shaped) (by rintro own rfl; exact uninterrupted) acted
  | (.far, action) =>
    obtain ⟨⟨d, more⟩, acted, rfl⟩ := Option.map_eq_some_iff.mp taken
    exact (starts.flip.act same.symm (by rintro aSdu rfl; exact shaped)
      (by rintro own rfl; exact uninterrupted) acted).flip

/-- The station transfers data: it has left the stopped state, has sent an ASDU, or has confirmed a start. -/
def Transfers (c : Connection) : Prop := c.stopped = false ∨ ∃ frame ∈ c.frames, frame.transfers = true

/-- What a station that transfers data can rely on. -/
structure Handshaken (c peer : Connection) : Prop where
  granted : Transfers c → HasWritten peer .STARTDT_ACT ∨ HasWritten peer .STARTDT_CON
  requested : Transfers c → HasWritten c .STARTDT_ACT ∨ HasWritten peer .STARTDT_ACT

private theorem Starts.handshaken {settings other : ConnectionSettings} {c peer : Connection}
    {taken peerTaken : Nat} (starts : Starts settings other c peer taken peerTaken) : Handshaken c peer := by
  have moves (ungranted : Ungranted c) : ¬ Transfers c := by
    rintro (started | ⟨frame, member, transfers⟩)
    · exact absurd (ungranted.halted.stopped.symm.trans started) Bool.false_ne_true.symm
    · have kept := List.mem_filter.mpr ⟨member, transfers⟩
      rw [ungranted.halted.transfers] at kept
      cases kept
  constructor <;> intro transfers
  · exact starts.granted.imp_right fun rest => rest.resolve_right fun ungranted => moves ungranted transfers
  · exact starts.requested.imp_right fun rest => rest.resolve_right fun both => moves both.1 transfers

/-- No data before the handshake, on either side and whatever the other side, the sockets and the
timers do: a station that transfers data has been started or confirmed by its peer, and one of the two has
requested it. -/
theorem no_data_before_handshake {clientFails serverFails : Nat → Bool} {now : Nat}
    {actions : List (Side × StationAction)} (same : clientSettings.SameFields serverSettings)
    (run : Run (Run.Guarded (Orderly clientSettings serverSettings) (Step clientSettings serverSettings))
      (opened clientSettings serverSettings clientFails serverFails now) actions session) :
    Handshaken session.client session.server ∧ Handshaken session.server session.client := by
  have starts : Starts clientSettings serverSettings session.client session.server session.clientTaken
      session.serverTaken := by
    refine run.invariant (I := fun session => Starts clientSettings serverSettings session.client
      session.server session.clientTaken session.serverTaken) ?_ fun _ _ _ starts taken =>
        starts_step same starts taken
    have client : Ungranted (started clientSettings clientFails now) := .started clientFails now
    have server : Ungranted (started serverSettings serverFails now) := .started serverFails now
    exact ⟨linked_of_run same .start, .inr (.inr client), .inr (.inr server), .inr (.inr ⟨client, server⟩)⟩
  exact ⟨starts.handshaken, starts.flip.handshaken⟩

theorem no_data_before_handshake_sample :
    (sampleSession {} sampleActions).client.stopped = false ∧
    (sampleSession {} sampleActions).server.frames = [unnumbered .STARTDT_CON] ∧
    Handshaken (sampleSession {} sampleActions).client (sampleSession {} sampleActions).server := by
  have run : Run (Run.Guarded (Orderly {} {}) (Step {} {})) (sampleOpened {}) sampleActions
      (sampleSession {} sampleActions) := by
    refine (Run.of_perform_getD sample_performs).guarded_of_mem ?_
    simp only [sampleActions, sampleHandshake, List.cons_append, List.nil_append, List.forall_mem_cons]
    exact ⟨fun _ => ⟨trivial, trivial⟩, fun _ => ⟨trivial, trivial⟩,
      fun _ => ⟨trivial, trivial⟩, fun _ => ⟨trivial, trivial⟩, fun _ => ⟨trivial, trivial⟩,
      fun _ => ⟨trivial, trivial⟩, fun _ => ⟨trivial, trivial⟩,
      fun _ => ⟨sampleCommand_wellShaped, trivial⟩, fun _ => ⟨trivial, trivial⟩,
      fun _ => ⟨trivial, trivial⟩, fun _ none => by cases none⟩
  exact ⟨by decide +kernel, by decide +kernel, (no_data_before_handshake ⟨rfl, rfl, rfl⟩ run).1⟩

end Session

end J60870
