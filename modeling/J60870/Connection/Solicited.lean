import J60870.Connection.Session

namespace J60870

open Lib Method

open SlidingWindow (Side)

/-- What a station asks for with an U frame and is told at once. -/
inductive Inquiry
  | start
  | test
  deriving DecidableEq

namespace Inquiry

def act : Inquiry → ApciType
  | start => .STARTDT_ACT
  | test => .TESTFR_ACT

def con : Inquiry → ApciType
  | start => .STARTDT_CON
  | test => .TESTFR_CON

end Inquiry

def APdu.asksFor (inquiry : Inquiry) (aPdu : APdu) : Bool := aPdu.apciType = inquiry.act

def APdu.answers (inquiry : Inquiry) (aPdu : APdu) : Bool := aPdu.apciType = inquiry.con

namespace Connection

variable {settings : ConnectionSettings} {server : Bool} {c d : Connection} {inquiry : Inquiry}

def writtenAnswers (inquiry : Inquiry) (c : Connection) : List APdu := c.frames.filter (APdu.answers inquiry)

def answers (inquiry : Inquiry) (c : Connection) : List APdu := c.outgoing.filter (APdu.answers inquiry)

theorem answers_sublist : (answers inquiry c).Sublist (writtenAnswers inquiry c) :=
  (List.take_sublist _ _).filter _

namespace Confirming

@[simp] private theorem answers_sFormat (receiveSeqNum : Nat) :
    (APdu.sFormat receiveSeqNum).answers inquiry = false := by
  cases inquiry <;> rfl

@[simp] private theorem answers_iFormat (sendSeqNum receiveSeqNum : Nat) (aSdu : ASdu) :
    (APdu.iFormat sendSeqNum receiveSeqNum aSdu).answers inquiry = false := by
  cases inquiry <;> rfl

@[simp] private theorem answers_stopDtCon : (unnumbered .STOPDT_CON).answers inquiry = false := by
  cases inquiry <;> rfl

@[simp] private theorem answers_act (request : Inquiry) :
    (unnumbered request.act).answers inquiry = false := by
  cases inquiry <;> cases request <;> rfl

@[simp] private theorem answers_stopDtAct : (unnumbered .STOPDT_ACT).answers inquiry = false := by
  cases inquiry <;> rfl

theorem answers_con (request : Inquiry) :
    (unnumbered request.con).answers inquiry = decide (request = inquiry) := by
  cases inquiry <;> cases request <;> rfl

private theorem keeps_sendSFormatPdu : Keeps (writtenAnswers inquiry) (sendSFormatPdu settings) := fun c => by
  simp [writtenAnswers, frames]

private theorem keeps_sendSFormatIfUnconfirmedAPdu :
    Keeps (writtenAnswers inquiry) (sendSFormatIfUnconfirmedAPdu settings) := fun c => by
  simp [post_sendSFormatIfUnconfirmedAPdu, writtenAnswers, frames]

private theorem keeps_send (aSdu : ASdu) : Keeps (writtenAnswers inquiry) (send settings aSdu) := fun c => by
  have transmitted (d : Connection) (same : writtenAnswers inquiry d = writtenAnswers inquiry c) :
      Post (do
        encode settings (.iFormat c.sendSequenceNumber c.receiveSequenceNumber aSdu)
        write (.iFormat c.sendSequenceNumber c.receiveSequenceNumber aSdu)
        flush
        resetMaxIdleTimeTimer) d (fun _ e => writtenAnswers inquiry e = writtenAnswers inquiry c)
        (fun _ e => writtenAnswers inquiry e = writtenAnswers inquiry c) := by
    refine Keeps.post (f := writtenAnswers inquiry) ?_ fun _ kept => kept.trans same
    refine .bind (keeps_encode (fun _ _ => rfl) _) fun _ c => ?_
    simp [writtenAnswers, frames]
  rw [send, post_bind, post_prepareSend]
  refine ⟨fun _ => rfl, fun _ => ⟨fun _ => rfl, fun _ => ⟨fun _ => ?_, fun _ => ?_⟩⟩⟩
  · exact (keeps_sendSFormatPdu c.numbered).mono (fun _ d same => transmitted d.armed same)
      fun _ _ same => same
  · exact transmitted c.numbered.armed rfl

private theorem keeps_handleReceiveSequenceNumber (receiveSeqNumber : Nat) :
    Keeps (writtenAnswers inquiry) (handleReceiveSequenceNumber settings receiveSeqNumber) := fun c => by
  simp [handleReceiveSequenceNumber, writtenAnswers, frames]

private theorem keeps_handleIFrame (aPdu : APdu) :
    Keeps (writtenAnswers inquiry) (handleIFrame settings aPdu) := by
  refine .bind (fun c => ?_) fun _ => .bind (keeps_handleReceiveSequenceNumber _) fun _ =>
    .bind (fun c => ?_) fun _ c => ?_
  · simp [post_updateReceiveSeqNum, writtenAnswers, frames]
  · simp [writtenAnswers, frames]
  · simp [post_acknowledgeReceived, writtenAnswers, frames]

private theorem keeps_sendStopDtCon : Keeps (writtenAnswers inquiry) sendStopDtCon := fun c => by
  simp [sendStopDtCon, writtenAnswers, frames]

private theorem keeps_executeManually (id : TimerId) :
    Keeps (writtenAnswers inquiry) (executeManually settings id) := fun c => by
  have test : (unnumbered .TESTFR_ACT).answers inquiry = false := answers_act .test
  cases id <;> simp [post_executeManually, execute, sendStopDtCon, writtenAnswers, frames, test]

private theorem keeps_dispatch {aPdu : APdu} (unasked : aPdu.asksFor inquiry = false) :
    Keeps (writtenAnswers inquiry) (dispatch settings server aPdu) := fun c => by
  cases format : aPdu.apciType <;> simp only [dispatch, format]
  case I_FORMAT =>
    rw [post_bind, post_closeIfStopped]
    exact ⟨fun _ => rfl, fun _ => keeps_handleIFrame aPdu c⟩
  case S_FORMAT =>
    rw [post_bind, post_closeIfStopped]
    refine ⟨fun _ => rfl, fun _ => ?_⟩
    refine Keeps.bind (keeps_handleReceiveSequenceNumber _) (fun _ d => ?_) c
    rw [post_bind, post_get]
    cases d.stopDtOutstandingSFormatTimer with
    | none => exact rfl
    | some object => exact keeps_executeManually _ d
  case STARTDT_CON => simp [writtenAnswers, frames]
  case STARTDT_ACT =>
    have con : (unnumbered .STARTDT_CON).answers inquiry = false := by
      cases inquiry with
      | start => simp [APdu.asksFor, Inquiry.act, format] at unasked
      | test => rfl
    simp [post_handleStartDtAct, writtenAnswers, frames, con]
  case STOPDT_CON => simp [writtenAnswers, frames]
  case STOPDT_ACT =>
    exact handleStopDtAct_of_keeps rfl keeps_sendSFormatIfUnconfirmedAPdu (fun _ => rfl) keeps_sendStopDtCon
  case TESTFR_CON => rfl
  case TESTFR_ACT =>
    have con : (unnumbered .TESTFR_CON).answers inquiry = false := by
      cases inquiry with
      | start => rfl
      | test => simp [APdu.asksFor, Inquiry.act, format] at unasked
    simp [sendTestFrameCon, writtenAnswers, frames, con]

/-- What a connection does without having been asked confirms nothing. -/
theorem preserves (before : List APdu) :
    Preserves settings server (fun _ action => ∀ aPdu, action = .receive aPdu → aPdu.asksFor inquiry = false)
      (fun c => writtenAnswers inquiry c = before) where
  progress _ _ same := same
  callEnds _ _ same _ := same
  tick _ _ same := same
  send _ aSdu same _ _ := (keeps_send aSdu).post fun _ kept => kept.trans same
  receive c aPdu same unasked _ := (keeps_dispatch (unasked aPdu rfl) c).mono
    (fun _ _ kept => Eq.trans kept same) fun _ _ kept => Eq.trans kept same
  readFailure _ _ same _ := same
  endReader c same _ _ := by
    rw [Always, post_endReader, post_close]
    exact ⟨fun _ => same, fun _ => same⟩
  fire c id same _ := by
    rw [Always, post_fire]
    exact (keeps_executeManually id).post fun _ kept => kept.trans same
  runTask _ _ same _ _ := (post_runTask _).mpr same
  setConnectionListener _ _ same _ := same
  close _ same := by
    rw [Always, post_close]
    exact ⟨fun _ => same, fun _ => same⟩
  writeStartDtAct _ same := by
    have act : (unnumbered .STARTDT_ACT).answers inquiry = false := answers_act .start
    have keeps : Keeps (writtenAnswers inquiry) writeStartDtAct := fun c => by
      simp [writeStartDtAct, newStartDtConSignal, writtenAnswers, frames, act]
    exact keeps.post fun _ kept => kept.trans same
  register _ _ _ same _ _ := by
    have keeps (listener : Option Listener) : Keeps (writtenAnswers inquiry) (register listener) := fun c => by
      simp [Connection.register, writtenAnswers, frames]
    exact (keeps _).post fun _ kept => kept.trans same
  beginStop _ _ same _ := by
    have keeps : Keeps (writtenAnswers inquiry) beginStop := fun c => by
      simp [Connection.beginStop, writtenAnswers, frames]
    exact keeps.post fun _ kept => kept.trans same
  confirm _ _ same _ _ := keeps_sendSFormatIfUnconfirmedAPdu.post fun _ kept => kept.trans same
  cancelT2 _ _ same _ _ := (post_cancelIfPlanned _).mpr same
  writeStopDtAct _ same := by
    have keeps : Keeps (writtenAnswers inquiry) writeStopDtAct := fun c => by
      simp [Connection.writeStopDtAct, newStopDtConSignal, writtenAnswers, frames]
    exact keeps.post fun _ kept => kept.trans same
  finishStop _ _ same _ _ := same

/-- One confirmation at most, and it goes out if the reader runs on. -/
structure AnswersOnce (inquiry : Inquiry) (c d : Connection) : Prop where
  once : (writtenAnswers inquiry d).length ≤ (writtenAnswers inquiry c).length + 1
  answered : d.reader = .running →
    (writtenAnswers inquiry d).length = (writtenAnswers inquiry c).length + 1 ∧ d.outgoing = d.frames

/-- A frame that asks is confirmed, or the reader leaves its loop. -/
theorem answersOnce {aPdu : ReceivedAPdu} (asked : aPdu.asksFor inquiry = true)
    (taken : Step settings server c (.receive aPdu) d) : AnswersOnce inquiry c d := by
  obtain ⟨method, found, rfl⟩ := step_eq_some taken
  obtain ⟨-, ⟨⟩⟩ := Option.ite_none_right_eq_some.mp found
  refine Post.outcome (P := AnswersOnce inquiry c) ?_
  rw [post_readerTurn]
  have failed {e : Connection} (leaving : e.reader = .leaving)
      (le : (writtenAnswers inquiry e).length ≤ (writtenAnswers inquiry c).length + 1) :
      AnswersOnce inquiry c e := by
    refine ⟨le, fun running => ?_⟩
    rw [leaving] at running
    cases running
  have written {e : Connection}
      (one : writtenAnswers inquiry e = writtenAnswers inquiry c ++ [unnumbered inquiry.con])
      (flushed : e.flushed = e.written.length) : AnswersOnce inquiry c e := by
    have length : (writtenAnswers inquiry e).length = (writtenAnswers inquiry c).length + 1 := by
      rw [one, List.length_append]
      rfl
    refine ⟨length.le, fun _ => ⟨length, ?_⟩⟩
    rw [outgoing, flushed, frames, List.take_of_length_le (by simp)]
  cases inquiry with
  | start =>
    have con : (unnumbered .STARTDT_CON).answers .start = true := answers_con .start
    have format : aPdu.apciType = .STARTDT_ACT := of_decide_eq_true asked
    simp only [dispatch, format]
    rw [post_handleStartDtAct]
    refine ⟨fun _ => failed rfl (Nat.le_succ _), fun _ => ⟨fun _ => failed rfl ?_, fun _ => written ?_ rfl⟩⟩
    · simp [writtenAnswers, frames, con]
    · simp [writtenAnswers, frames, con, Inquiry.con]
  | test =>
    have con : (unnumbered .TESTFR_CON).answers .test = true := answers_con .test
    have format : aPdu.apciType = .TESTFR_ACT := of_decide_eq_true asked
    simp only [dispatch, format]
    simp only [sendTestFrameCon, post_bind, post_write, post_flush]
    refine ⟨fun _ => failed rfl (Nat.le_succ _), fun _ => ⟨fun _ => failed rfl ?_, fun _ => written ?_ rfl⟩⟩
    · simp [writtenAnswers, frames, con]
    · simp [writtenAnswers, frames, con, Inquiry.con]

end Confirming

end Connection

namespace Session

open Connection

variable {clientSettings serverSettings : ConnectionSettings} {session next : Session}

/-- The connection has confirmed what it has read: nothing unasked, and everything as long as its reader
runs. -/
structure Confirmed (inquiry : Inquiry) (c : Connection) (read : List APdu) : Prop where
  solicited : (writtenAnswers inquiry c).length ≤ read.countP (APdu.asksFor inquiry)
  prompt : c.reader = .running → (answers inquiry c).length = read.countP (APdu.asksFor inquiry)

namespace Confirmed

variable {settings : ConnectionSettings} {isServer : Bool} {inquiry : Inquiry} {c d : Connection}
  {read : List APdu} {action : Connection.Action}

private theorem kept (confirmed : Confirmed inquiry c read)
    (same : writtenAnswers inquiry d = writtenAnswers inquiry c)
    (grows : c.outgoing <+: d.outgoing) (ran : d.reader = .running → c.reader = .running) :
    Confirmed inquiry d read := by
  obtain ⟨solicited, prompt⟩ := confirmed
  refine ⟨same ▸ solicited, fun running => Nat.le_antisymm ?_ ?_⟩
  · exact answers_sublist.length_le.trans (same ▸ solicited)
  · rw [← prompt (ran running)]
    exact (grows.sublist.filter _).length_le

private theorem own (confirmed : Confirmed inquiry c read) (allowed : isOwn action = true)
    (grows : c.outgoing <+: d.outgoing) (step : Connection.Step settings isServer c action d) :
    Confirmed inquiry d read := by
  refine confirmed.kept ?_ grows fun running => by_contra fun gone => (gone_step gone step).1 running
  refine (Confirming.preserves _).step rfl (fun aPdu receives => ?_) step
  subst receives
  cases allowed

private theorem received {aPdu : ReceivedAPdu} {frame : APdu} (confirmed : Confirmed inquiry c read)
    (type : aPdu.apciType = frame.apciType) (grows : c.outgoing <+: d.outgoing)
    (step : Connection.Step settings isServer c (.receive aPdu) d) :
    Confirmed inquiry d (read ++ [frame]) := by
  have sameRequest : aPdu.asksFor inquiry = frame.asksFor inquiry := by simp only [APdu.asksFor, type]
  have ran : d.reader = .running → c.reader = .running := fun running =>
    by_contra fun gone => (gone_step gone step).1 running
  cases asked : frame.asksFor inquiry with
  | false =>
    have same : writtenAnswers inquiry d = writtenAnswers inquiry c :=
      (Confirming.preserves _).step rfl (fun _ receives => by cases receives; exact sameRequest.trans asked) step
    have count : (read ++ [frame]).countP (APdu.asksFor inquiry) = read.countP (APdu.asksFor inquiry) := by
      simp [asked]
    obtain ⟨solicited, prompt⟩ := confirmed.kept same grows ran
    exact ⟨by rwa [count], by rwa [count]⟩
  | true =>
    have count : (read ++ [frame]).countP (APdu.asksFor inquiry) = read.countP (APdu.asksFor inquiry) + 1 := by
      simp [asked]
    obtain ⟨once, answered⟩ := Confirming.answersOnce (sameRequest.trans asked) step
    have before := confirmed.solicited
    refine ⟨by rw [count]; omega, fun running => ?_⟩
    obtain ⟨length, out⟩ := answered running
    have went : answers inquiry d = writtenAnswers inquiry d := by rw [answers, out, writtenAnswers]
    have prompt := confirmed.prompt (ran running)
    have least : (answers inquiry c).length ≤ (writtenAnswers inquiry c).length := answers_sublist.length_le
    rw [went, count]
    omega

end Confirmed

/-- What a station has read of the other one is confirmed. -/
def Replies (other : ConnectionSettings) (inquiry : Inquiry) (c peer : Connection) (taken : Nat) : Prop :=
  ∃ read pending, Carries other peer c taken read pending ∧ Confirmed inquiry c read

/-- Both stations confirm what they read. -/
structure Replying (settings other : ConnectionSettings) (inquiry : Inquiry) (c peer : Connection)
    (taken peerTaken : Nat) : Prop where
  linked : Linked settings other c peer taken peerTaken
  replies : Replies other inquiry c peer taken
  peerReplies : Replies settings inquiry peer c peerTaken

namespace Replying

variable {settings other : ConnectionSettings} {inquiry : Inquiry} {c d peer : Connection}
  {taken peerTaken more : Nat} {isServer closed : Bool} {action : StationAction}

theorem flip (replying : Replying settings other inquiry c peer taken peerTaken) :
    Replying other settings inquiry peer c peerTaken taken :=
  ⟨replying.linked.flip, replying.peerReplies, replying.replies⟩

theorem act (replying : Replying settings other inquiry c peer taken peerTaken)
    (same : settings.SameFields other)
    (shaped : ∀ aSdu, action = .own (.send aSdu) → aSdu.WellShaped settings)
    (acted : Session.act settings isServer ((stream other peer).drop taken) closed c action = some (d, more)) :
    Replying settings other inquiry d peer (taken + more) peerTaken := by
  obtain ⟨linked, ⟨read, pending, carries, confirmed⟩, ⟨peerRead, _, outgoing, peerConfirmed⟩⟩ := replying
  obtain ⟨own, moves⟩ := linked.moves same shaped acted
  obtain ⟨_, traced⟩ := moves.traced
  obtain ⟨_, sent⟩ := outgoing.sent traced
  refine ⟨linked.moved moves, ?_, ⟨peerRead, _, sent, peerConfirmed⟩⟩
  rcases act_cases acted with ⟨aPdu, rest, rfl, decoded, rfl, step⟩ | ⟨own', allowed, rfl, step, source⟩
  · obtain ⟨frame, later, rfl, received, next⟩ :=
      carries.received same.symm linked.theirs.sendable_outgoing linked.mine decoded step
    have type : aPdu.apciType = frame.apciType := by rw [received]; rfl
    exact ⟨_, _, next, confirmed.received type traced.outgoing step⟩
  · have traced : Traced settings (fun aSdu => some aSdu ∈ c.sentASdus ∨ action = .own (.send aSdu)) c.past
        c.acceptedASdus (c.reader ≠ .running) d := by
      refine linked.traced_own (fun aSdu sent => ?_) allowed step
      subst sent
      rcases source with rfl | ⟨e, -, ⟨⟩, -⟩
      exact ⟨shaped aSdu rfl, rfl⟩
    exact ⟨read, pending, carries.own traced, confirmed.own allowed traced.outgoing step⟩

end Replying

private theorem replying_step (same : clientSettings.SameFields serverSettings) {inquiry : Inquiry}
    {action : Side × StationAction}
    (replying : Replying clientSettings serverSettings inquiry session.client session.server
      session.clientTaken session.serverTaken)
    (taken : Run.Guarded (SendsShaped clientSettings serverSettings) (Step clientSettings serverSettings)
      session action next) :
    Replying clientSettings serverSettings inquiry next.client next.server next.clientTaken
      next.serverTaken := by
  obtain ⟨shaped, taken⟩ := taken
  match action with
  | (.near, action) =>
    obtain ⟨⟨d, more⟩, acted, rfl⟩ := Option.map_eq_some_iff.mp taken
    exact replying.act same (by rintro aSdu rfl; exact shaped) acted
  | (.far, action) =>
    obtain ⟨⟨d, more⟩, acted, rfl⟩ := Option.map_eq_some_iff.mp taken
    exact (replying.flip.act same.symm (by rintro aSdu rfl; exact shaped) acted).flip

/-- Of what it has read of the other station, the station has confirmed each request once, as long as its
reader runs, and nothing else, and it reads no more confirmations than requests of it have gone out. -/
def Solicits (other : ConnectionSettings) (inquiry : Inquiry) (c peer : Connection) (taken : Nat) : Prop :=
  ∃ read pending, peer.outgoing = read ++ pending ∧ taken = (read.flatMap (APdu.octets other)).length ∧
    Confirmed inquiry c read ∧ read.countP (APdu.answers inquiry) ≤ c.outgoing.countP (APdu.asksFor inquiry)

private theorem Replying.solicits {settings other : ConnectionSettings} {inquiry : Inquiry}
    {c peer : Connection} {taken peerTaken : Nat}
    (replying : Replying settings other inquiry c peer taken peerTaken) :
    Solicits other inquiry c peer taken := by
  obtain ⟨-, ⟨read, pending, carries, confirmed⟩, ⟨peerRead, peerPending, outgoing, peerConfirmed⟩⟩ := replying
  refine ⟨read, pending, carries.frames, carries.taken, confirmed, ?_⟩
  calc read.countP (APdu.answers inquiry)
      ≤ peer.outgoing.countP (APdu.answers inquiry) := by
        rw [carries.frames, List.countP_append]
        exact Nat.le_add_right ..
    _ = (answers inquiry peer).length := List.countP_eq_length_filter
    _ ≤ (writtenAnswers inquiry peer).length := answers_sublist.length_le
    _ ≤ peerRead.countP (APdu.asksFor inquiry) := peerConfirmed.solicited
    _ ≤ c.outgoing.countP (APdu.asksFor inquiry) := by
        rw [outgoing.frames, List.countP_append]
        exact Nat.le_add_right ..

/-- On either side of any session no start and no test is confirmed that was not asked for, none twice, and no
confirmation stays away as long as the reader runs. -/
theorem confirmations_solicited {clientFails serverFails : Nat → Bool} {now : Nat}
    {actions : List (Side × StationAction)} (same : clientSettings.SameFields serverSettings)
    (run : Run (Run.Guarded (SendsShaped clientSettings serverSettings) (Step clientSettings serverSettings))
      (opened clientSettings serverSettings clientFails serverFails now) actions session)
    (inquiry : Inquiry) :
    Solicits serverSettings inquiry session.client session.server session.clientTaken ∧
      Solicits clientSettings inquiry session.server session.client session.serverTaken := by
  have replying : Replying clientSettings serverSettings inquiry session.client session.server
      session.clientTaken session.serverTaken := by
    refine run.invariant (I := fun session => Replying clientSettings serverSettings inquiry session.client
      session.server session.clientTaken session.serverTaken) ?_ fun _ _ _ replying taken =>
        replying_step same replying taken
    have none {settings other : ConnectionSettings} {ioFails otherFails : Nat → Bool} :
        Replies other inquiry (started settings ioFails now) (started other otherFails now) 0 :=
      ⟨[], [], ⟨rfl, rfl, List.nil_prefix, fun _ => rfl⟩, ⟨Nat.le_refl 0, fun _ => rfl⟩⟩
    exact ⟨linked_of_run same .start, none, none⟩
  exact ⟨replying.solicits, replying.flip.solicits⟩

/-- After the handshake the server is idle until it tests the connection. -/
private def sampleTest : List (Side × StationAction) :=
  sampleHandshake ++ [(.far, .own (.tick 20000)), (.far, .own (.fire .maxIdleTimeTimer)), (.near, .read),
    (.far, .read)]

/-- The client confirms the test, and nothing else is on the way. -/
theorem confirmations_solicited_sample :
    answers .test (sampleSession {} sampleTest).client = [unnumbered .TESTFR_CON] ∧
    (sampleSession {} sampleTest).toClient {} = [] ∧
    Solicits {} .test (sampleSession {} sampleTest).client (sampleSession {} sampleTest).server
      (sampleSession {} sampleTest).clientTaken := by
  have performs : (Run.perform (step {} {}) (sampleOpened {}) sampleTest).isSome = true := by decide +kernel
  have run : Run (Run.Guarded (SendsShaped {} {}) (Step {} {})) (sampleOpened {}) sampleTest
      (sampleSession {} sampleTest) := by
    refine (Run.of_perform_getD performs).guarded_of_mem ?_
    simp only [sampleTest, sampleHandshake, List.cons_append, List.nil_append, List.forall_mem_cons]
    exact ⟨fun _ => trivial, fun _ => trivial, fun _ => trivial, fun _ => trivial, fun _ => trivial,
      fun _ => trivial, fun _ => trivial, fun _ => trivial, fun _ => trivial, fun _ => trivial,
      fun _ => trivial, fun _ none => by cases none⟩
  exact ⟨by decide +kernel, by decide +kernel, (confirmations_solicited ⟨rfl, rfl, rfl⟩ run .test).1⟩

end Session

end J60870
