import J60870.Connection.Rules

namespace J60870

open Lib Method

namespace Connection

variable {settings : ConnectionSettings} {server : Bool} {c d : Connection}

/-- A server that is not started: it has answered no start, has sent and passed on no
ASDU, and none waits to be passed on. -/
structure Unstarted (c : Connection) : Prop where
  stopped : c.stopped = true
  settled : c.reader = .running → c.pending = false
  outstanding : c.getNumUnconfirmedAPdusSent = 0
  unconfirmed : c.numUnconfirmedIPdusReceived = 0
  written : ∀ frame ∈ c.written, frame.frame.apciType ≠ .STARTDT_CON ∧ frame.frame.apciType ≠ .I_FORMAT
  idle : c.serialExecutor.active = none
  passed : ∀ listener aSdu, .newASdu listener aSdu ∉ c.events

/-- No start is received that can be answered, and the application does not call
`startDataTransfer` or `stopDataTransfer`. -/
def NotStarted (c : Connection) : Action → Prop
  | .receive aPdu => aPdu.apciType = .STARTDT_ACT → c.ioFails c.ioCalls = true
  | .startDataTransfer .. | .stopDataTransfer _ | .proceed _ | .timeOut _ | .interrupt _ => False
  | _ => True

namespace Unstarted

private theorem always_close (unstarted : Unstarted c) : Always Unstarted c close := by
  rw [Always, post_close]
  refine ⟨fun _ => unstarted, fun _ => { unstarted with outstanding := ?_ }⟩
  simp [getNumUnconfirmedAPdusSent, sequenceNumberDiff]

private theorem wrote (unstarted : Unstarted c) (frame : APdu) (ioCalls : Nat)
    (start : frame.apciType ≠ .STARTDT_CON := by decide) (plain : frame.apciType ≠ .I_FORMAT := by decide) :
    Unstarted { c with ioCalls := ioCalls, written := c.written ++ [⟨frame, c.stopped⟩] } where
  stopped := unstarted.stopped
  settled := unstarted.settled
  outstanding := unstarted.outstanding
  unconfirmed := unstarted.unconfirmed
  written := by
    intro written member
    rcases List.mem_append.mp member with before | now
    · exact unstarted.written written before
    · rw [List.mem_singleton.mp now]
      exact ⟨start, plain⟩
  idle := unstarted.idle
  passed := unstarted.passed

private theorem always_sendSFormatPdu (unstarted : Unstarted c) :
    Always Unstarted c (sendSFormatPdu settings) := by
  have wrote := unstarted.wrote (.sFormat c.receiveSequenceNumber) (c.ioCalls + 2)
    (by simp [APdu.sFormat]) (by simp [APdu.sFormat])
  rw [Always, post_sendSFormatPdu]
  refine ⟨fun _ => { unstarted with }, fun _ => ⟨fun _ => { wrote with }, fun _ => ?_⟩⟩
  exact { wrote with unconfirmed := by simp [numUnconfirmedIPdusReceived, sequenceNumberDiff] }

private theorem always_execute (unstarted : Unstarted c) (id : TimerId) :
    Always Unstarted c (execute settings id) := by
  have closing {id : TimerId} (closes : id = .maxTimeNoTestConReceived ∨ id = .maxTimeNoAckReceived) :
      Always Unstarted c (execute settings id) := by
    rw [Always, post_execute_close closes]
    refine unstarted.always_close.mono (fun _ d unstarted => { unstarted with passed := ?_ })
      fun _ _ unstarted => unstarted
    intro listener aSdu
    simp [unstarted.passed listener aSdu]
  cases id with
  | maxTimeNoTestConReceived => exact closing (.inl rfl)
  | maxTimeNoAckReceived => exact closing (.inr rfl)
  | maxTimeNoAckSentTimer =>
    simp only [Always, execute, post_ignoringIOException]
    exact unstarted.always_sendSFormatPdu.mono (fun _ _ unstarted => unstarted)
      fun _ _ unstarted => ⟨fun _ => unstarted, fun _ => unstarted⟩
  | maxIdleTimeTimer =>
    have wrote := unstarted.wrote (unnumbered .TESTFR_ACT) (c.ioCalls + 2)
    simp only [Always, execute, post_bind, post_ignoringIOException, post_write, post_flush, post_addTimerTask,
      ioFailure_isIOException, true_implies, false_implies, Bool.true_eq_false, and_true]
    exact ⟨fun _ => { unstarted with }, fun _ => ⟨fun _ => { wrote with }, fun _ => { wrote with }⟩⟩
  | stopDtOutstandingSFormatTimer object =>
    simp [Always, execute, unstarted.stopped, unstarted]

private theorem always_executeManually (unstarted : Unstarted c) (id : TimerId) :
    Always Unstarted c (executeManually settings id) := by
  have finished {d : Connection} (unstarted : Unstarted d) : Always Unstarted d (setDone id) :=
    { unstarted with }
  rw [Always, post_executeManually]
  refine ⟨fun _ => unstarted, fun _ => ?_⟩
  exact (unstarted.always_execute id).mono (fun _ _ => finished) fun _ _ => finished

private theorem handleStopDtAct (unstarted : Unstarted c) :
    Post (handleStopDtAct settings) c (fun _ => Unstarted) (fun e d => Unstarted (d.left e)) := by
  -- A stop finds nothing outstanding, and is confirmed at once.
  have requested : Unstarted { c.stopRequested with pending := false } := { unstarted with
    stopped := rfl
    settled := fun _ => rfl
    passed := fun listener aSdu => by simp [unstarted.passed listener aSdu] }
  have confirmed := requested.wrote (unnumbered .STOPDT_CON) (c.ioCalls + 2)
  rw [post_handleStopDtAct, post_sendSFormatIfUnconfirmedAPdu, post_sendStopDtCon]
  constructor
  · intro received
    exact absurd unstarted.unconfirmed received.ne'
  · intro _
    constructor
    · rintro ⟨sent, -⟩
      exact absurd unstarted.outstanding sent.ne'
    · intro _
      refine ⟨fun _ => ?_, fun _ => ⟨fun _ => ?_, fun _ => ?_⟩⟩
      · exact { requested with settled := fun running => by cases running }
      · exact { confirmed with settled := fun running => by cases running }
      · exact { confirmed with }

private theorem dispatch (unstarted : Unstarted c) (running : c.reader = .running) {aPdu : ReceivedAPdu}
    (start : aPdu.apciType = .STARTDT_ACT → c.ioFails c.ioCalls = true) :
    Post (dispatch settings true aPdu.toAPdu) c (fun _ d => Unstarted d.idleTimeReset)
      (fun e d => Unstarted (d.left e)) := by
  have left (e : JavaException) {d : Connection} (unstarted : Unstarted d) : Unstarted (d.left e) :=
    { unstarted with settled := fun running => by cases running }
  have refused : (true && c.stopped && !c.pending) = true := by
    simp [unstarted.stopped, unstarted.settled running]
  cases format : aPdu.apciType <;> simp only [Connection.dispatch, format]
  case I_FORMAT =>
    rw [post_bind, post_closeIfStopped, refused]
    exact ⟨fun _ => left _ unstarted, fun open_ => by cases open_⟩
  case S_FORMAT =>
    rw [post_bind, post_closeIfStopped, refused]
    exact ⟨fun _ => left _ unstarted, fun open_ => by cases open_⟩
  case STARTDT_ACT =>
    have fails := start format
    rw [post_handleStartDtAct]
    refine ⟨fun _ => left _ { unstarted with }, fun answers => ?_⟩
    rw [fails] at answers
    cases answers
  case STOPDT_ACT =>
    exact unstarted.handleStopDtAct.mono (fun _ _ unstarted => { unstarted with })
      fun _ _ unstarted => unstarted
  case TESTFR_ACT =>
    have wrote := unstarted.wrote (unnumbered .TESTFR_CON) (c.ioCalls + 2)
    simp only [sendTestFrameCon, post_bind, post_write, post_flush]
    refine ⟨fun _ => left _ { unstarted with }, fun _ => ⟨fun _ => left _ { wrote with }, fun _ => ?_⟩⟩
    exact { wrote with }
  case TESTFR_CON => exact { unstarted with }
  case STARTDT_CON =>
    rw [post_bind, post_get, post_countDown]
    exact { unstarted with }
  case STOPDT_CON =>
    rw [post_bind, post_get, post_countDown]
    exact { unstarted with }

theorem preserves : Preserves settings true NotStarted Unstarted where
  progress _ _ unstarted := { unstarted with }
  callEnds c event unstarted ends := { unstarted with
    passed := by
      intro listener aSdu
      cases event <;> simp_all [Event.endsCall, unstarted.passed listener aSdu] }
  tick _ _ unstarted := { unstarted with }
  send c aSdu unstarted _ _ := by
    rw [Always, send, post_bind, post_prepareSend]
    refine ⟨fun _ => unstarted, fun _ => ⟨fun _ => unstarted, fun started => ?_⟩⟩
    rw [unstarted.stopped] at started
    cases started
  receive c aPdu unstarted start running := unstarted.dispatch running start
  readFailure c e unstarted _ := { unstarted with settled := fun running => by cases running }
  endReader c unstarted _ _ := by
    rw [Always, post_endReader]
    refine unstarted.always_close.mono (fun _ d unstarted => ?_) fun _ _ unstarted => unstarted
    exact { unstarted with
      settled := fun running => by cases running
      passed := by
        intro listener aSdu
        cases stopped : d.stopped <;> simp [stopped, unstarted.passed listener aSdu] }
  fire c id unstarted _ := by
    have dequeued : Unstarted (c.dequeued id) := { unstarted with }
    rw [Always, post_fire]
    exact dequeued.always_executeManually id
  runTask c task unstarted _ active := by
    rw [unstarted.idle] at active
    cases active
  setConnectionListener _ _ unstarted _ := { unstarted with }
  close c unstarted := unstarted.always_close
  writeStartDtAct c unstarted := by
    have wrote := unstarted.wrote (unnumbered .STARTDT_ACT) (c.ioCalls + 2)
    simp only [Always, Connection.writeStartDtAct, newStartDtConSignal, post_bind, post_modify, post_write,
      post_flush]
    exact ⟨fun _ => { unstarted with }, fun _ => ⟨fun _ => { wrote with }, fun _ => { wrote with }⟩⟩
  register _ _ _ _ starts _ := starts.elim
  beginStop _ _ _ stops := stops.elim
  confirm _ _ _ goes _ := goes.elim
  cancelT2 _ _ _ goes _ := goes.elim
  writeStopDtAct c unstarted := by
    have wrote := unstarted.wrote (unnumbered .STOPDT_ACT) (c.ioCalls + 2)
    simp only [Always, Connection.writeStopDtAct, newStopDtConSignal, post_bind, post_modify, post_write,
      post_flush]
    exact ⟨fun _ => { unstarted with }, fun _ => ⟨fun _ => { wrote with }, fun _ => { wrote with }⟩⟩
  finishStop _ _ _ goes _ := goes.elim

theorem started (ioFails : Nat → Bool) (now : Nat) : Unstarted (started settings ioFails now) where
  stopped := rfl
  settled _ := rfl
  outstanding := rfl
  unconfirmed := rfl
  written _ member := nomatch member
  idle := rfl
  passed _ _ member := nomatch member

end Unstarted

/-- The reader closes the connection once it has left its loop. -/
theorem closes_of_leaving (leaving : c.reader = .leaving) :
    ∃ d, Step settings server c .endReader d ∧ d.closed = true := by
  refine ⟨endReader.outcome c, by rw [Step, step, body, if_pos leaving]; rfl, ?_⟩
  refine Post.outcome (P := fun d : Connection => d.closed = true) ?_
  rw [post_endReader, post_close]
  exact ⟨fun closed => closed, fun _ => rfl⟩

end Connection

end J60870
