import J60870.Connection.StartUp
import Mathlib.Data.List.Infix

namespace J60870

open Lib Method

namespace StartUp

variable {settings : ConnectionSettings} {server : Bool} {s t : StartUp}
variable {E : JavaException → StartUp → Prop} {Q : Unit → StartUp → Prop}

section Condition

variable (settings server)

/-- One of the next two calls of `os` fails. -/
def OsFails (s : StartUp) : Prop :=
  s.connection.ioFails s.connection.ioCalls = true ∨ s.connection.ioFails (s.connection.ioCalls + 1) = true

/-- A first frame whose handling ends with an `IOException` before it uses a field that is
not assigned. -/
def Refused (s : StartUp) (aPdu : APdu) : Prop :=
  match aPdu.apciType with
  | .I_FORMAT =>
    server = true ∨ aPdu.sendSeqNum ≠ 0 ∨ aPdu.receiveSeqNum ≠ 0 ∨
      settings.maxUnconfirmedIPdusReceived = 1 ∧
        (s.connection.aSduListener.isSome = true → s.assigned .serialExecutor = true) ∧ s.OsFails
  | .S_FORMAT => server = true ∨ aPdu.receiveSeqNum ≠ 0
  | .STARTDT_ACT | .TESTFR_ACT => s.OsFails
  | .STOPDT_ACT => s.assigned .maxTimeNoAckSentTimer = true ∧ s.OsFails
  | .TESTFR_CON | .STARTDT_CON | .STOPDT_CON => False

/-- A frame is handled when `timeoutManager` is assigned, which is the last field, or is
refused. The reader ends when it has no pool of its own or `executor` is assigned. -/
def Safe (s : StartUp) : Action → Prop
  | .receive aPdu => s.assigned .timeoutManager = true ∨ Refused settings server s aPdu.toAPdu
  | .endReader => settings.useSharedThreadPool = true ∨ s.assigned .executor = true
  | _ => True

end Condition

section Rules

@[simps] def wasNull (s : StartUp) (field : Field) : StartUp :=
  { s with nullDereferences := s.nullDereferences ++ [field] }

@[simp] theorem wasNull_assigned (field other : Field) : (s.wasNull field).assigned other = s.assigned other := rfl

@[simp] theorem post_dereference (field : Field) :
    Post (dereference field) s Q E ↔
      (s.assigned field = true → Q () s) ∧
      (s.assigned field = false → E .nullPointerException (s.wasNull field)) := by
  cases assigned : s.assigned field <;> simp [dereference, assigned, wasNull]

end Rules

/-- A part of a handler before `timeoutManager` is assigned. If it ends the handler, `P`
says whether no field was null. If it does not, `P` is false, since the handler cannot
come to its end. -/
def Decides (P : Prop) (s : StartUp) (m : Body Unit) : Prop :=
  Post m s (fun _ t => t.rest = s.rest ∧ t.nullDereferences = s.nullDereferences ∧ ¬ P)
    (fun _ t => t.rest = s.rest ∧ (t.nullDereferences = s.nullDereferences ↔ P))

/-- The same of a part that ends the handler. -/
def Ends (P : Prop) (s : StartUp) (m : Body Unit) : Prop :=
  Post m s (fun _ _ => False) (fun _ t => t.rest = s.rest ∧ (t.nullDereferences = s.nullDereferences ↔ P))

namespace Decides

variable {P : Prop} {m : Body Unit}

private theorem of_ends (ends : Ends P s m) : Decides P s m :=
  Post.mono ends (fun _ _ never => never.elim) fun _ _ decided => decided

private theorem on {n : Connection.Body Unit} (post : Post n s.connection (fun _ _ => ¬ P) (fun _ _ => P)) :
    Decides P s (part.on n) := by
  rw [Decides, Part.post_on]
  exact post.mono (fun _ _ fails => ⟨rfl, rfl, fails⟩) fun _ _ holds => ⟨rfl, iff_of_true rfl holds⟩

private theorem on_seq {α : Type} {n : Connection.Body α} {k : α → Body Unit}
    (first : Post n s.connection (fun a c => Decides P (part.set s c) (k a)) (fun _ _ => P)) :
    Decides P s (part.on n >>= k) := by
  rw [Decides, post_bind, Part.post_on]
  exact first.mono (fun _ _ rest => rest) fun _ _ holds => ⟨rfl, iff_of_true rfl holds⟩

private theorem dereference_seq {field : Field} (rest : s.assigned field = true → Decides P s m)
    (null : s.assigned field = false → ¬ P) : Decides P s (dereference field >>= fun _ => m) := by
  rw [Decides, post_bind, post_dereference]
  refine ⟨rest, fun unassigned => ⟨rfl, iff_of_false ?_ (null unassigned)⟩⟩
  simp

private theorem seq {k : Unit → Body Unit} (first : Decides P s m)
    (second : ∀ t, t.rest = s.rest → ¬ P → Decides P t (k ())) : Decides P s (m >>= k) := by
  rw [Decides, post_bind]
  refine Post.mono first ?_ fun _ _ decided => decided
  rintro ⟨⟩ t ⟨rest, nulls, fails⟩
  rw [← nulls, ← rest]
  exact second t rest fails

private theorem seq_ends {k : Unit → Body Unit} (first : Decides P s m)
    (second : ∀ t, t.rest = s.rest → ¬ P → Ends P t (k ())) : Ends P s (m >>= k) := by
  rw [Ends, post_bind]
  refine Post.mono first ?_ fun _ _ decided => decided
  rintro ⟨⟩ t ⟨rest, nulls, fails⟩
  rw [← nulls, ← rest]
  exact second t rest fails

end Decides

namespace Ends

variable {P : Prop}

private theorem addTimerTask (unassigned : s.assigned .timeoutManager = false) (fails : ¬ P) (id : TimerId) :
    Ends P s (addTimerTask id) := by
  rw [Ends, StartUp.addTimerTask, post_bind, post_dereference]
  refine ⟨fun assigned => ?_, fun _ => ⟨rfl, iff_of_false (by simp) fails⟩⟩
  rw [unassigned] at assigned
  cases assigned

private theorem resetMaxIdleTimeTimer (unassigned : s.assigned .timeoutManager = false) (fails : ¬ P) :
    Ends P s resetMaxIdleTimeTimer := by
  refine Decides.seq_ends ?_ fun t rest _ => addTimerTask (by rw [assigned, rest]; exact unassigned) fails _
  exact Decides.dereference_seq (fun _ => .on ((Connection.post_cancel _).mpr fails)) fun _ => fails

end Ends

/-- Before `timeoutManager` is assigned, a connection that has handled no frame. -/
structure Early (s : StartUp) : Prop where
  unassigned : s.assigned .timeoutManager = false
  closed : s.connection.closed = false
  stopped : s.connection.stopped = true
  pending : s.connection.pending = false
  sent : s.connection.sendSequenceNumber = 0
  acknowledged : s.connection.acknowledgedSendSequenceNumber = 0
  received : s.connection.receiveSequenceNumber = 0
  acknowledgedReceived : s.connection.acknowledgedReceiveSequenceNumber = 0
  confirmation : s.connection.stopDtOutstandingSFormatTimer = none

namespace Early

variable {P : Prop}

private theorem outstanding (early : Early s) : s.connection.getNumUnconfirmedAPdusSent = 0 := by
  rw [Connection.getNumUnconfirmedAPdusSent, early.sent, early.acknowledged]
  rfl

private theorem unconfirmed (early : Early s) : s.connection.numUnconfirmedIPdusReceived = 0 := by
  rw [Connection.numUnconfirmedIPdusReceived, early.received, early.acknowledgedReceived]
  rfl

private theorem written (closed : s.connection.closed = false) (fails : s.OsFails ↔ P) (frame : APdu)
    {k : Unit → Connection.Body Unit} (rest : ∀ c, ¬ P → Post (k ()) c (fun _ _ => ¬ P) (fun _ _ => P)) :
    Post (do
      Connection.write frame
      Connection.flush
      k ()) s.connection (fun _ _ => ¬ P) (fun _ _ => P) := by
  rw [post_bind, Connection.post_write]
  refine ⟨fun failing => fails.mp (.inl failing), fun fine => ?_⟩
  rw [post_bind, Connection.post_flush]
  refine ⟨fun failing => fails.mp (.inr (failing.resolve_right ?_)), fun flushed => rest _ ?_⟩
  · simp [closed]
  · rw [← fails]
    rintro (failing | failing)
    · rw [fine] at failing
      cases failing
    · rw [flushed.1] at failing
      cases failing

private theorem sendTestFrameCon (early : Early s) :
    Decides s.OsFails s (part.on Connection.sendTestFrameCon) := by
  have sent := written early.closed Iff.rfl (Connection.unnumbered .TESTFR_CON) (k := pure) fun _ fails => fails
  rw [show (fun _ : Unit => pure ()) = (pure : Unit → Connection.Body Unit) from rfl, bind_pure] at sent
  exact .on sent

private theorem handleStartDtAct (early : Early s) : Decides s.OsFails s handleStartDtAct := by
  have started (c : Connection) (closed : c.closed = false)
      (fails : c.ioFails c.ioCalls = true → s.OsFails)
      (fine : c.ioFails c.ioCalls = false → ¬ s.OsFails) : Decides s.OsFails (part.set s c) (do
        part.on (Connection.setStopped false)
        part.on Connection.flush
        StartUp.resetMaxIdleTimeTimer) := by
    apply Decides.on_seq
    rw [Connection.post_setStopped]
    apply Decides.on_seq
    rw [Connection.post_flush]
    refine ⟨fun failing => fails (failing.resolve_right ?_), fun flushed => ?_⟩
    · simp [closed]
    · exact .of_ends (Ends.resetMaxIdleTimeTimer early.unassigned (fine flushed.1))
  apply Decides.on_seq
  rw [Connection.post_write]
  refine ⟨fun failing => .inl failing, fun written => ?_⟩
  apply Decides.on_seq
  rw [post_get]
  have fine : s.connection.ioFails (s.connection.ioCalls + 1) = false → ¬ s.OsFails := by
    rintro flushed (failing | failing)
    · rw [written] at failing
      cases failing
    · rw [flushed] at failing
      cases failing
  split
  · apply Decides.on_seq
    exact started _ early.closed (fun failing => .inr failing) fine
  · exact started _ early.closed (fun failing => .inr failing) fine

private theorem post_handleReceiveSequenceNumber (receiveSeqNumber : Nat)
    (sent : s.connection.sendSequenceNumber = 0) (acknowledged : s.connection.acknowledgedSendSequenceNumber = 0) :
    Post (handleReceiveSequenceNumber settings receiveSeqNumber) s Q E ↔
      (receiveSeqNumber = 0 → Q () s) ∧
      (receiveSeqNumber ≠ 0 → E (Connection.unexpectedReceiveSequenceNumber s.connection receiveSeqNumber) s) := by
  -- A number is acknowledged when nothing was sent: it is the last one, or it is refused.
  rw [handleReceiveSequenceNumber, post_bind, Part.post_on, post_get, part_get, part_set_self]
  by_cases zero : receiveSeqNumber = 0
  · rw [if_pos (by rw [acknowledged, zero]), post_pure]
    simp [zero]
  · have outside : Connection.sequenceNumberDiff receiveSeqNumber s.connection.acknowledgedSendSequenceNumber >
        s.connection.getNumUnconfirmedAPdusSent := by
      simp only [acknowledged, sent, Connection.getNumUnconfirmedAPdusSent, Connection.sequenceNumberDiff,
        gt_iff_lt, Nat.not_lt_zero, if_false, Nat.sub_zero]
      omega
    have other : s.connection.acknowledgedSendSequenceNumber ≠ receiveSeqNumber := by
      rw [acknowledged]
      exact Ne.symm zero
    simp only [if_neg other, if_pos outside, post_bind, Part.post_on, post_throw, part_get, part_set_self]
    simp [zero]

private theorem handleSFormat (early : Early s) (receiveSeqNumber : Nat) :
    Decides (server = true ∨ receiveSeqNumber ≠ 0) s (do
      part.on (Connection.closeIfStopped server .S_FORMAT)
      StartUp.handleReceiveSequenceNumber settings receiveSeqNumber
      let c ← part.on get
      executeStopDtTimer settings c.stopDtOutstandingSFormatTimer) := by
  apply Decides.on_seq
  rw [Connection.post_closeIfStopped, early.stopped, early.pending]
  refine ⟨fun refused => ?_, fun client => ?_⟩
  · exact .inl (by simpa using refused)
  · have client : server = false := by simpa using client
    rw [part_set_self, Decides, post_bind, post_handleReceiveSequenceNumber _ early.sent early.acknowledged]
    refine ⟨fun zero => ?_, fun refused => ⟨rfl, iff_of_true rfl (.inr refused)⟩⟩
    have last : Decides (server = true ∨ receiveSeqNumber ≠ 0) s (do
        let c ← part.on get
        executeStopDtTimer settings c.stopDtOutstandingSFormatTimer) := by
      apply Decides.on_seq
      rw [post_get, part_set_self, early.confirmation]
      have fails : ¬ (server = true ∨ receiveSeqNumber ≠ 0) := by simp [client, zero]
      exact Decides.on (n := pure ()) fails
    exact last

private theorem confirmStop (closed : s.connection.closed = false)
    (unconfirmed : s.connection.numUnconfirmedIPdusReceived = 0)
    (outstanding : s.connection.getNumUnconfirmedAPdusSent = 0) (fails : s.OsFails ↔ P) :
    Decides P s (do
      StartUp.sendSFormatIfUnconfirmedAPdu settings
      StartUp.confirmStop) := by
  -- The end of a stop. Nothing is unconfirmed on either side, so it is confirmed at once.
  have confirmed : Decides P s StartUp.confirmStop := by
    apply Decides.on_seq
    rw [post_get, part_set_self, outstanding, if_neg (Nat.lt_irrefl 0)]
    have written := written closed fails (Connection.unnumbered .STOPDT_CON)
      (k := fun _ => modify fun c => { c with pending := false }) fun _ fails => fails
    exact .on written
  rw [Decides, post_bind, sendSFormatIfUnconfirmedAPdu, post_bind, Part.post_on, post_get, part_get, part_set_self,
    unconfirmed, if_neg (Nat.lt_irrefl 0), post_pure]
  exact confirmed

private theorem handleStopDtAct (early : Early s) :
    Decides (s.assigned .maxTimeNoAckSentTimer = true ∧ s.OsFails) s (handleStopDtAct settings) := by
  have cancelled (c : Connection) (closed : c.closed = false) (unconfirmed : c.numUnconfirmedIPdusReceived = 0)
      (outstanding : c.getNumUnconfirmedAPdusSent = 0) (same : (part.set s c).OsFails ↔ s.OsFails) :
      Decides (s.assigned .maxTimeNoAckSentTimer = true ∧ s.OsFails) (part.set s c) (do
        cancelIfPlanned .maxTimeNoAckSentTimer
        StartUp.sendSFormatIfUnconfirmedAPdu settings
        StartUp.confirmStop) := by
    rw [cancelIfPlanned, bind_assoc]
    refine Decides.dereference_seq (fun assigned => ?_) fun null decided => ?_
    · apply Decides.on_seq
      rw [Connection.post_cancelIfPlanned]
      refine confirmStop closed unconfirmed outstanding (same.trans ?_)
      exact (and_iff_right assigned).symm
    · rw [part_set_assigned, decided.1] at null
      cases null
  apply Decides.on_seq
  rw [Connection.post_setStopped]
  apply Decides.on_seq
  rw [post_modify]
  apply Decides.on_seq
  rw [post_get]
  split
  · apply Decides.on_seq
    exact cancelled _ early.closed early.unconfirmed early.outstanding Iff.rfl
  · exact cancelled _ early.closed early.unconfirmed early.outstanding Iff.rfl

private theorem post_updateReceiveSeqNum (received : s.connection.receiveSequenceNumber = 0) (sendSeqNumber : Nat) :
    Post (updateReceiveSeqNum settings sendSeqNumber) s Q E ↔
      (sendSeqNumber = 0 → Q () (part.set s s.connection.received)) ∧
      (sendSeqNumber ≠ 0 → E (Connection.unexpectedSendSequenceNumber s.connection sendSeqNumber) s) := by
  rw [updateReceiveSeqNum, post_bind, Part.post_on, Connection.verifySeqNumber]
  by_cases zero : sendSeqNumber = 0
  · subst zero
    simp [received, Connection.received, part]
  · simp [received, zero, Ne.symm zero]

private theorem sendSFormatPdu (unassigned : s.assigned .timeoutManager = false)
    (closed : s.connection.closed = false) (fails : s.OsFails ↔ P) :
    Decides P s (sendSFormatPdu settings) := by
  apply Decides.on_seq
  rw [post_get]
  apply Decides.on_seq
  rw [Connection.post_encode_sFormat]
  apply Decides.on_seq
  rw [Connection.post_write]
  refine ⟨fun failing => fails.mp (.inl failing), fun written => ?_⟩
  apply Decides.on_seq
  rw [Connection.post_flush]
  refine ⟨fun failing => fails.mp (.inr (failing.resolve_right ?_)), fun flushed => ?_⟩
  · simp [closed]
  · apply Decides.on_seq
    rw [post_modify]
    refine .of_ends (Ends.resetMaxIdleTimeTimer unassigned ?_)
    rw [← fails]
    have fine : s.connection.ioFails s.connection.ioCalls = false := written
    have fine' : s.connection.ioFails (s.connection.ioCalls + 1) = false := flushed.1
    rintro (failing | failing)
    · rw [fine] at failing
      cases failing
    · rw [fine'] at failing
      cases failing

private theorem cancelIfPlanned (fails : ¬ P) (id : TimerId) : Decides P s (cancelIfPlanned id) := by
  have cancelled : Decides P s (part.on (Connection.cancelIfPlanned id)) :=
    .on ((Connection.post_cancelIfPlanned id).mpr fails)
  cases id with
  | stopDtOutstandingSFormatTimer object => exact cancelled
  | _ => exact Decides.dereference_seq (fun _ => cancelled) fun _ => fails

private theorem acknowledgeReceived (unassigned : s.assigned .timeoutManager = false)
    (closed : s.connection.closed = false) (one : s.connection.numUnconfirmedIPdusReceived = 1)
    (fails : settings.maxUnconfirmedIPdusReceived = 1 ∧ s.OsFails ↔ P) :
    Decides P s (acknowledgeReceived settings) := by
  -- Where one I frame is unconfirmed, it is confirmed at once if the window is one, and the t2
  -- timer is wanted otherwise.
  have range := settings.w_range
  apply Decides.on_seq
  rw [post_get, part_set_self, one]
  by_cases window : settings.maxUnconfirmedIPdusReceived = 1
  · rw [if_pos (by omega)]
    refine Decides.seq (sendSFormatPdu unassigned closed ?_) fun t _ fails => cancelIfPlanned fails _
    exact (and_iff_right window).symm.trans fails
  · rw [if_neg (by omega)]
    have never : ¬ P := fun holds => window (fails.mpr holds).1
    refine Decides.dereference_seq (fun _ => ?_) fun _ => never
    rw [if_pos (by simp)]
    exact .of_ends (Ends.addTimerTask unassigned never _)

private theorem handOver (unassigned : s.assigned .timeoutManager = false)
    (closed : s.connection.closed = false) (one : s.connection.numUnconfirmedIPdusReceived = 1)
    (aSdu : Option ASdu) :
    Decides (settings.maxUnconfirmedIPdusReceived = 1 ∧
      (s.connection.aSduListener.isSome = true → s.assigned .serialExecutor = true) ∧ s.OsFails) s (do
      handOver aSdu
      StartUp.acknowledgeReceived settings) := by
  have handed (executor : s.connection.aSduListener.isSome = true → s.assigned .serialExecutor = true) :
      Decides (settings.maxUnconfirmedIPdusReceived = 1 ∧
        (s.connection.aSduListener.isSome = true → s.assigned .serialExecutor = true) ∧ s.OsFails) s (do
        part.on (Connection.handOver aSdu)
        StartUp.acknowledgeReceived settings) := by
    apply Decides.on_seq
    rw [Connection.post_handOver]
    refine acknowledgeReceived unassigned closed one ?_
    exact and_congr_right fun _ => (and_iff_right executor).symm
  rw [StartUp.handOver, bind_assoc]
  apply Decides.on_seq
  rw [post_get, part_set_self]
  by_cases listener : s.connection.aSduListener.isSome = true
  · rw [if_pos listener, bind_assoc]
    refine Decides.dereference_seq (fun assigned => handed fun _ => assigned) fun null decided => ?_
    rw [decided.2.1 listener] at null
    cases null
  · rw [if_neg listener]
    exact handed fun some => absurd some listener

private theorem handleIFrame (early : Early s) (aPdu : APdu) :
    Decides (server = true ∨ aPdu.sendSeqNum ≠ 0 ∨ aPdu.receiveSeqNum ≠ 0 ∨
      settings.maxUnconfirmedIPdusReceived = 1 ∧
        (s.connection.aSduListener.isSome = true → s.assigned .serialExecutor = true) ∧ s.OsFails) s (do
      part.on (Connection.closeIfStopped server .I_FORMAT)
      StartUp.handleIFrame settings aPdu) := by
  apply Decides.on_seq
  rw [Connection.post_closeIfStopped, early.stopped, early.pending]
  refine ⟨fun refused => ?_, fun client => ?_⟩
  · exact .inl (by simpa using refused)
  · have client : server = false := by simpa using client
    rw [part_set_self, StartUp.handleIFrame, Decides, post_bind, post_updateReceiveSeqNum early.received]
    refine ⟨fun sendZero => ?_, fun refused => ⟨rfl, iff_of_true rfl (.inr (.inl refused))⟩⟩
    rw [post_bind, post_handleReceiveSequenceNumber (s := part.set s s.connection.received) aPdu.receiveSeqNum
      early.sent early.acknowledged]
    refine ⟨fun receiveZero => ?_, fun refused => ⟨rfl, iff_of_true rfl (.inr (.inr (.inl refused)))⟩⟩
    have one : s.connection.received.numUnconfirmedIPdusReceived = 1 := by
      simp [Connection.numUnconfirmedIPdusReceived, Connection.received, early.received, early.acknowledgedReceived,
        Connection.sequenceNumberDiff]
    have decided : Decides (settings.maxUnconfirmedIPdusReceived = 1 ∧
        (s.connection.aSduListener.isSome = true → s.assigned .serialExecutor = true) ∧ s.OsFails)
        (part.set s s.connection.received) (do
          StartUp.handOver aPdu.aSdu
          StartUp.acknowledgeReceived settings) :=
      handOver (s := part.set s s.connection.received) early.unassigned early.closed one aPdu.aSdu
    simp only [client, sendZero, receiveZero, ne_eq, not_true_eq_false, Bool.false_eq_true, false_or]
    exact decided

/-- What becomes of a first frame before `timeoutManager` is assigned: the reader leaves its
loop, and a field was null unless the frame was refused. -/
theorem handle (early : Early s) (aPdu : APdu) :
    Post (readerTurn settings server aPdu) s
      (fun _ t => t.rest = s.rest ∧ t.connection.reader = .leaving ∧
        (t.nullDereferences = s.nullDereferences ↔ Refused settings server s aPdu)) (fun _ _ => False) := by
  have decided : Decides (Refused settings server s aPdu) s (dispatch settings server aPdu) := by
    unfold Refused dispatch
    cases aPdu.apciType with
    | I_FORMAT => exact early.handleIFrame aPdu
    | S_FORMAT => exact early.handleSFormat aPdu.receiveSeqNum
    | STARTDT_ACT => exact early.handleStartDtAct
    | TESTFR_ACT => exact early.sendTestFrameCon
    | STOPDT_ACT => exact early.handleStopDtAct
    | TESTFR_CON =>
      exact Decides.dereference_seq (fun _ => .on ((Connection.post_cancel _).mpr not_false)) fun _ => not_false
    | STARTDT_CON =>
      apply Decides.on_seq
      rw [post_get]
      exact .on ((Connection.post_countDown _).mpr not_false)
    | STOPDT_CON =>
      apply Decides.on_seq
      rw [post_get]
      exact .on ((Connection.post_countDown _).mpr not_false)
  have ended : Ends (Refused settings server s aPdu) s (StartUp.handle settings server aPdu) :=
    decided.seq_ends fun t rest fails =>
      Ends.resetMaxIdleTimeTimer (by rw [assigned, rest]; exact early.unassigned) fails
  rw [readerTurn, post_tryCatch]
  refine Post.mono ended (fun _ _ never => never.elim) fun e t left => ?_
  rw [Part.post_on, Connection.post_leaveLoop]
  exact ⟨left.1, rfl, left.2⟩

end Early

section Order

theorem allAssigned_of_timeoutManager (suffix : s.rest <:+ startStatements)
    (last : s.assigned .timeoutManager = true) : AllAssigned s := by
  have ordered : ∀ rest ∈ startStatements.tails, StartStatement.assign .timeoutManager ∉ rest →
      ∀ field, StartStatement.assign field ∉ rest := by
    intro rest member absent field
    cases field <;> revert rest <;> decide
  intro field
  rw [assigned, decide_eq_true_eq] at last ⊢
  exact ordered s.rest ((List.mem_tails _ _).mpr suffix) last field

private theorem allAssigned_of_last (suffix : s.rest <:+ startStatements) {rest : List StartStatement}
    (next : s.rest = .addMaxIdleTimeTimer :: rest) : AllAssigned s := by
  -- The idle timer is started behind all assignments.
  have behind : ∀ rest ∈ startStatements.tails, rest.head? = some .addMaxIdleTimeTimer →
      StartStatement.assign .timeoutManager ∉ rest := by decide
  apply allAssigned_of_timeoutManager suffix
  rw [assigned, decide_eq_true_eq]
  exact behind s.rest ((List.mem_tails _ _).mpr suffix) (by rw [next]; rfl)

end Order

/-- Where the reader is in its loop no field was null, and before `timeoutManager` is
assigned the connection is as its constructor has left it. -/
structure Reached (settings : ConnectionSettings) (listener : Option Listener) (ioFails : Nat → Bool)
    (s : StartUp) : Prop where
  suffix : s.rest <:+ startStatements
  running : s.connection.reader = .running → s.nullDereferences = [] ∧
    (s.assigned .timeoutManager = false → ∃ now, s.connection = constructed settings listener ioFails now)

namespace Reached

variable {listener : Option Listener} {ioFails : Nat → Bool}

private theorem early (unassigned : s.assigned .timeoutManager = false) {now : Nat}
    (fresh : s.connection = constructed settings listener ioFails now) : Early s := by
  constructor
  case unassigned => exact unassigned
  all_goals
    rw [fresh]
    rfl

private theorem statement (reached : Reached settings listener ioFails s)
    (taken : Step settings server s .statement t) :
    Reached settings listener ioFails t ∧ t.nullDereferences = s.nullDereferences := by
  obtain ⟨method, found, rfl⟩ := Option.map_eq_some_iff.mp taken
  cases next : s.rest with
  | nil =>
    rw [body, next] at found
    cases found
  | cons statement rest =>
    rw [body, next] at found
    cases found
    have suffix : rest <:+ startStatements := (List.suffix_cons statement rest).trans (next ▸ reached.suffix)
    refine Post.outcome (P := fun t => Reached settings listener ioFails t ∧
      t.nullDereferences = s.nullDereferences) ?_
    rw [post_bind]
    by_cases last : statement = .addMaxIdleTimeTimer
    · subst last
      have all := allAssigned_of_last reached.suffix next
      have past : StartStatement.assign .timeoutManager ∉ rest := by
        have absent := all .timeoutManager
        rw [assigned, decide_eq_true_eq, next] at absent
        exact fun member => absent (List.mem_cons_of_mem _ member)
      rw [execute, Post, Agrees.addTimerTask .maxIdleTimeTimer s all]
      refine ⟨⟨suffix, fun running => ⟨(reached.running running).1, fun unassigned => ?_⟩⟩, rfl⟩
      simp [assigned, past] at unassigned
    · have nothing : execute statement = pure () := by cases statement <;> first | rfl | exact absurd rfl last
      rw [nothing, post_pure, post_modify]
      refine ⟨⟨suffix, fun running => ⟨(reached.running running).1, fun unassigned => ?_⟩⟩, rfl⟩
      apply (reached.running running).2
      simp only [assigned, decide_eq_false_iff_not, not_not] at unassigned ⊢
      rw [next]
      exact List.mem_cons_of_mem _ unassigned

private theorem receive (reached : Reached settings listener ioFails s) {aPdu : ReceivedAPdu}
    (taken : Step settings server s (.receive aPdu) t) :
    Reached settings listener ioFails t ∧ s.nullDereferences = [] ∧
      (t.nullDereferences = [] ↔ Safe settings server s (.receive aPdu)) := by
  obtain ⟨method, found, rfl⟩ := Option.map_eq_some_iff.mp taken
  obtain ⟨⟨_, running⟩, ⟨⟩⟩ := Option.ite_none_right_eq_some.mp found
  obtain ⟨silent, fresh⟩ := reached.running running
  cases last : s.assigned .timeoutManager with
  | true =>
    have all := allAssigned_of_timeoutManager reached.suffix last
    have kept : Post (readerTurn settings server aPdu.toAPdu) s
        (fun _ t => t.rest = s.rest ∧ t.nullDereferences = s.nullDereferences)
        (fun _ t => t.rest = s.rest ∧ t.nullDereferences = s.nullDereferences) := by
      rw [Post, Agrees.readerTurn aPdu.toAPdu s all]
      exact (Part.keeps_on (f := fun s => (s.rest, s.nullDereferences)) (fun _ _ => rfl) _ s).mono
        (fun _ _ same => Prod.mk.inj same) fun _ _ same => Prod.mk.inj same
    obtain ⟨rest, nulls⟩ := kept.outcome
    refine ⟨⟨by rw [rest]; exact reached.suffix, fun _ => ⟨nulls.trans silent, fun unassigned => ?_⟩⟩, silent, ?_⟩
    · rw [assigned, rest, ← assigned, last] at unassigned
      cases unassigned
    · exact iff_of_true (nulls.trans silent) (.inl last)
  | false =>
    obtain ⟨now, fresh⟩ := fresh last
    have left : Post (readerTurn settings server aPdu.toAPdu) s
        (fun _ t => t.rest = s.rest ∧ t.connection.reader = .leaving ∧
          (t.nullDereferences = s.nullDereferences ↔ Refused settings server s aPdu.toAPdu)) (fun _ _ => False) :=
      (early last fresh).handle aPdu.toAPdu
    obtain ⟨rest, leaving, nulls⟩ := (left.mono (fun _ _ left => left) fun _ _ never => never.elim).outcome
    refine ⟨⟨by rw [rest]; exact reached.suffix, fun running => ?_⟩, silent, ?_⟩
    · rw [leaving] at running
      cases running
    · rw [silent] at nulls
      rw [nulls, Safe, last]
      simp

private theorem endReader (reached : Reached settings listener ioFails s)
    (taken : Step settings server s .endReader t) :
    Reached settings listener ioFails t ∧
      (t.nullDereferences = [] ↔ s.nullDereferences = [] ∧ Safe settings server s .endReader) := by
  obtain ⟨method, found, rfl⟩ := Option.map_eq_some_iff.mp taken
  obtain ⟨_, ⟨⟩⟩ := Option.ite_none_right_eq_some.mp found
  refine Post.outcome (P := fun t => Reached settings listener ioFails t ∧
    (t.nullDereferences = [] ↔ s.nullDereferences = [] ∧ Safe settings server s .endReader)) ?_
  have finished {t : StartUp} (rest : t.rest = s.rest) (ended : t.connection.reader = .ended) :
      Reached settings listener ioFails t := by
    refine ⟨by rw [rest]; exact reached.suffix, fun running => ?_⟩
    rw [ended] at running
    cases running
  have pool (c : Connection) : Post (closeThreadPool settings) (part.set s c.ended)
      (fun _ t => Reached settings listener ioFails t ∧
        (t.nullDereferences = [] ↔ s.nullDereferences = [] ∧ Safe settings server s .endReader))
      (fun _ t => Reached settings listener ioFails t ∧
        (t.nullDereferences = [] ↔ s.nullDereferences = [] ∧ Safe settings server s .endReader)) := by
    rw [closeThreadPool, post_ite, post_pure, post_dereference]
    refine ⟨fun shared => ⟨finished rfl rfl, ?_⟩, fun private_ => ⟨fun assigned => ⟨finished rfl rfl, ?_⟩, fun null =>
      ⟨finished rfl rfl, ?_⟩⟩⟩
    · simp [Safe, shared]
    · simp [Safe, show s.assigned .executor = true from assigned]
    · simp [Safe, private_, show s.assigned .executor = false from null]
  rw [StartUp.endReader, post_bind, Part.post_on, Connection.post_endReader, Connection.post_close]
  exact ⟨fun _ => pool _, fun _ => pool _⟩

theorem step {action : Action} (reached : Reached settings listener ioFails s)
    (taken : Step settings server s action t) :
    Reached settings listener ioFails t ∧
      (t.nullDereferences = [] ↔ s.nullDereferences = [] ∧ Safe settings server s action) := by
  cases action with
  | statement =>
    obtain ⟨reached, nulls⟩ := reached.statement taken
    exact ⟨reached, by rw [nulls]; exact (and_iff_left trivial).symm⟩
  | receive aPdu =>
    obtain ⟨reached, silent, nulls⟩ := reached.receive taken
    exact ⟨reached, nulls.trans (and_iff_right silent).symm⟩
  | readFailure e =>
    obtain ⟨method, found, rfl⟩ := Option.map_eq_some_iff.mp taken
    obtain ⟨_, ⟨⟩⟩ := Option.ite_none_right_eq_some.mp found
    exact ⟨⟨reached.suffix, fun running => by cases running⟩, (and_iff_left trivial).symm⟩
  | endReader => exact reached.endReader taken
  | tick milliseconds =>
    cases taken
    refine ⟨⟨reached.suffix, fun running => ⟨(reached.running running).1, fun unassigned => ?_⟩⟩,
      (and_iff_left trivial).symm⟩
    obtain ⟨now, fresh⟩ := (reached.running running).2 unassigned
    refine ⟨now + milliseconds, ?_⟩
    change { s.connection with currentTimeMillis := s.connection.currentTimeMillis + milliseconds } = _
    rw [fresh]
    rfl

theorem of_run {now : Nat} {actions : List Action}
    (run : Run (Step settings server) { connection := constructed settings listener ioFails now } actions s) :
    Reached settings listener ioFails s :=
  run.invariant ⟨List.suffix_refl _, fun _ => ⟨rfl, fun _ => ⟨now, rfl⟩⟩⟩ fun _ _ _ reached taken =>
    (reached.step taken).1

end Reached

/-- A run of `start()` and the reader dereferences no field that is not assigned if and
only if every step of it is safe: a frame is handled when `timeoutManager` is assigned or
is one that is refused before, and the reader ends when `executor` is assigned or the pool
is shared. -/
theorem no_nullDereference_iff {listener : Option Listener} {ioFails : Nat → Bool} {now : Nat}
    {actions : List Action}
    (run : Run (Step settings server) { connection := constructed settings listener ioFails now } actions s) :
    s.nullDereferences = [] ↔
      Run (Run.Guarded (Safe settings server) (Step settings server))
        { connection := constructed settings listener ioFails now } actions s := by
  constructor
  · intro silent
    induction run with
    | start => exact .start
    | next before last ih =>
      obtain ⟨silent, safe⟩ := ((Reached.of_run before).step last).2.mp silent
      exact (ih silent).next ⟨safe, last⟩
  · intro safe
    induction safe with
    | start => rfl
    | next before last ih =>
      exact ((Reached.of_run before.unguarded).step last.2).2.mpr ⟨ih before.unguarded, last.1⟩

/-- A client whose peer tests the connection when it is started, and closes it then. -/
def sampleActions : List Action :=
  List.replicate 11 .statement ++
    [.receive (Connection.sampleUnnumbered .TESTFR_ACT), .readFailure endOfStream, .endReader]

theorem no_nullDereference_iff_sample :
    ∃ s, Run (Step {} false) { connection := constructed {} none (fun _ => false) 0 } sampleActions s ∧
      s.connection.closed = true ∧ s.nullDereferences = [] := by
  have ends : ∃ s, Run.perform (step {} false) { connection := constructed {} none (fun _ => false) 0 }
        sampleActions = some s ∧ s.connection.closed = true ∧
      Run.Meets (step {} false) (Safe {} false) { connection := constructed {} none (fun _ => false) 0 }
        sampleActions :=
    ⟨_, rfl, rfl, trivial, trivial, trivial, trivial, trivial, trivial, trivial, trivial, trivial, trivial, trivial,
      .inl rfl, trivial, .inr rfl, trivial⟩
  obtain ⟨s, ends, closed, meets⟩ := ends
  have run : Run (Step {} false) { connection := constructed {} none (fun _ => false) 0 } sampleActions s :=
    Run.of_perform ends
  exact ⟨s, run, closed, (no_nullDereference_iff run).mpr (Run.guarded_of_perform ends meets)⟩

/-- The same frame when the reader has just been started: the idle timer is null, and the
reader closes the connection. -/
theorem nullDereference :
    ∃ s, Run (Step {} false) { connection := constructed {} none (fun _ => false) 0 }
        [.statement, .receive (Connection.sampleUnnumbered .TESTFR_ACT), .endReader] s ∧
      s.nullDereferences = [.maxIdleTimeTimer, .executor] ∧ s.connection.closed = true ∧
      s.connection.closedIOException = some (.iOException "Unexpected Exception.") :=
  ⟨_, Run.of_perform rfl, rfl, rfl, rfl⟩

end StartUp

end J60870
