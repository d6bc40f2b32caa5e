import J60870.Connection.Windows

namespace J60870

open Lib Method

namespace Written

/-- Whether a stop is the last thing that was confirmed. -/
def haltedAfter : Bool → List Written → Bool
  | halted, [] => halted
  | halted, frame :: rest =>
    haltedAfter (match frame.frame.apciType with
      | .STOPDT_CON => true
      | .STARTDT_CON => false
      | _ => halted) rest

/-- No I frame comes between a `STOPDT_CON` and the next `STARTDT_CON`, and each
`STOPDT_CON` was written in the stopped state. -/
def Grammatical : Bool → List Written → Prop
  | _, [] => True
  | halted, frame :: rest =>
    match frame.frame.apciType with
    | .STOPDT_CON => frame.stopped = true ∧ Grammatical true rest
    | .STARTDT_CON => Grammatical false rest
    | .I_FORMAT => halted = false ∧ Grammatical halted rest
    | _ => Grammatical halted rest

/-- The frames the grammar is about. -/
def isMark (frame : Written) : Bool :=
  match frame.frame.apciType with
  | .STOPDT_CON | .STARTDT_CON | .I_FORMAT => true
  | _ => false

def isStopDtCon (frame : Written) : Bool := frame.frame.apciType = .STOPDT_CON

variable {halted : Bool} {first second written : List Written}

theorem haltedAfter_append :
    haltedAfter halted (first ++ second) = haltedAfter (haltedAfter halted first) second := by
  induction first generalizing halted with
  | nil => rfl
  | cons frame rest ih => exact ih

theorem grammatical_append :
    Grammatical halted (first ++ second) ↔
      Grammatical halted first ∧ Grammatical (haltedAfter halted first) second := by
  induction first generalizing halted with
  | nil => simp [Grammatical, haltedAfter]
  | cons frame rest ih =>
    cases format : frame.frame.apciType <;>
      simp [Grammatical, haltedAfter, format, ih, and_assoc]

theorem grammatical_marks :
    Grammatical halted (written.filter isMark) ↔ Grammatical halted written := by
  induction written generalizing halted with
  | nil => rfl
  | cons frame rest ih =>
    cases format : frame.frame.apciType <;> simp [Grammatical, isMark, format, ih]

theorem haltedAfter_marks :
    haltedAfter halted (written.filter isMark) = haltedAfter halted written := by
  induction written generalizing halted with
  | nil => rfl
  | cons frame rest ih =>
    cases format : frame.frame.apciType <;> simp [haltedAfter, isMark, format, ih]

theorem Grammatical.stopped (grammatical : Grammatical halted written) {frame : Written}
    (member : frame ∈ written) (confirms : frame.frame.apciType = .STOPDT_CON) :
    frame.stopped = true := by
  induction written generalizing halted with
  | nil => cases member
  | cons other rest ih =>
    rcases List.mem_cons.mp member with rfl | later
    · rw [Grammatical, confirms] at grammatical
      exact grammatical.1
    · cases format : other.frame.apciType <;> rw [Grammatical, format] at grammatical
      case STOPDT_CON => exact ih grammatical.2 later
      case I_FORMAT => exact ih grammatical.2 later
      all_goals exact ih grammatical later

/-- An I frame that follows a confirmed stop follows a confirmed start. -/
theorem Grammatical.restarted {frame : Written} (informs : frame.frame.apciType = .I_FORMAT)
    (grammatical : Grammatical true (first ++ frame :: second)) :
    ∃ start ∈ first, start.frame.apciType = .STARTDT_CON := by
  induction first with
  | nil =>
    rw [List.nil_append, Grammatical, informs] at grammatical
    exact absurd grammatical.1 Bool.noConfusion
  | cons other rest ih =>
    cases format : other.frame.apciType <;> rw [List.cons_append, Grammatical, format] at grammatical
    case STARTDT_CON => exact ⟨other, List.mem_cons_self, format⟩
    case I_FORMAT => exact absurd grammatical.1 Bool.noConfusion
    case STOPDT_CON =>
      obtain ⟨start, member, starts⟩ := ih grammatical.2
      exact ⟨start, List.mem_cons_of_mem _ member, starts⟩
    all_goals
      obtain ⟨start, member, starts⟩ := ih grammatical
      exact ⟨start, List.mem_cons_of_mem _ member, starts⟩

end Written

def Connection.Action.isStopDtAct : Connection.Action → Bool
  | .receive aPdu => aPdu.apciType = .STOPDT_ACT
  | _ => false

namespace Connection

variable {settings : ConnectionSettings} {server : Bool} {c d : Connection} {acts more : Nat}

/-- The timer object has no `STOPDT_CON` to write. -/
def StopTimerSilent (c : Connection) (object : Nat) : Prop :=
  (c.timer (.stopDtOutstandingSFormatTimer object)).canceled = true ∨ c.stopped = true ∨
    c.ioFails c.ioCalls = true

/-- The timers of deferred confirmations are not run in the started state, neither by the
manager nor by an S frame; and data transfer is started by the peer only. -/
def StopTimersSilent (c : Connection) : Action → Prop
  | .receive aPdu => aPdu.apciType = .S_FORMAT → c.Acknowledges aPdu.receiveSeqNum →
      ∀ object, c.stopDtOutstandingSFormatTimer = some object → c.StopTimerSilent object
  | .fire (.stopDtOutstandingSFormatTimer object) => c.StopTimerSilent object
  | .proceed thread => ∀ listener, c.calls thread ≠ .startRegistering listener
  | _ => True

/-- What was written so far is grammatical, the connection is stopped if a stop is the
last thing it has confirmed, and no more stops were confirmed than asked for. -/
structure StopGrammar (acts : Nat) (c : Connection) : Prop where
  grammatical : Written.Grammatical false c.written
  halted : Written.haltedAfter false c.written = true → c.stopped = true
  answered : c.written.countP Written.isStopDtCon ≤ acts

def transcript (c : Connection) : List Written × Nat × Bool :=
  (c.written.filter Written.isMark, c.written.countP Written.isStopDtCon, c.stopped)

namespace StopGrammar

theorem congr (grammar : StopGrammar acts c) (same : d.transcript = c.transcript) :
    StopGrammar acts d := by
  simp only [transcript, Prod.mk.injEq] at same
  obtain ⟨marks, confirmed, stopped⟩ := same
  obtain ⟨grammatical, halted, answered⟩ := grammar
  constructor
  · rwa [← Written.grammatical_marks, marks, Written.grammatical_marks]
  · rwa [← Written.haltedAfter_marks, marks, Written.haltedAfter_marks, stopped]
  · rwa [confirmed]

private theorem kept {method : Body Unit} (grammar : StopGrammar acts c)
    (keeps : Keeps transcript method) : Always (StopGrammar acts) c method :=
  keeps.post fun _ same => grammar.congr same

theorem mono (grammar : StopGrammar acts c) (least : acts ≤ more) : StopGrammar more c :=
  { grammar with answered := Nat.le_trans grammar.answered least }

private theorem keeps_sendSFormatPdu : Keeps transcript (sendSFormatPdu settings) := by
  intro c
  simp [transcript, Written.isMark, Written.isStopDtCon, APdu.sFormat]

private theorem keeps_sendSFormatIfUnconfirmedAPdu :
    Keeps transcript (sendSFormatIfUnconfirmedAPdu settings) := by
  intro c
  simp [sendSFormatIfUnconfirmedAPdu, transcript, Written.isMark, Written.isStopDtCon, APdu.sFormat]

private theorem keeps_handleReceiveSequenceNumber (receiveSeqNumber : Nat) :
    Keeps transcript (handleReceiveSequenceNumber settings receiveSeqNumber) := by
  intro c
  simp [handleReceiveSequenceNumber, transcript]

private theorem prepareSend (aSdu : ASdu) :
    Post (prepareSend settings aSdu) c
      (fun aPdu d => d.transcript = c.transcript ∧ aPdu.apciType = .I_FORMAT ∧ c.stopped = false)
      (fun _ d => d.transcript = c.transcript) := by
  rw [post_prepareSend]
  refine ⟨fun _ => rfl, fun _ => ⟨fun _ => rfl, fun started => ⟨fun _ => ?_, fun _ => ?_⟩⟩⟩
  · exact (keeps_sendSFormatPdu c.numbered).mono (fun _ _ same => ⟨same, rfl, started⟩)
      fun _ _ same => same
  · exact ⟨rfl, rfl, started⟩

private theorem always_send (grammar : StopGrammar acts c) (aSdu : ASdu) :
    Always (StopGrammar acts) c (send settings aSdu) := by
  refine Post.seq ((prepareSend aSdu).mono (fun _ _ holds => holds) fun _ _ same => grammar.congr same)
    fun aPdu d holds => ?_
  obtain ⟨same, informs, started⟩ := holds
  refine Post.seq (P := fun _ d => d.transcript = c.transcript) ?_ fun _ d same => ?_
  · exact (keeps_encode (fun _ _ => rfl) aPdu d).mono (fun _ _ kept => kept.trans same)
      fun _ _ kept => grammar.congr (kept.trans same)
  have stopped : d.stopped = false := (congrArg (fun transcript => transcript.2.2) same).trans started
  obtain ⟨grammatical, halted, answered⟩ := grammar.congr same
  have running : Written.haltedAfter false d.written = false := by
    cases last : Written.haltedAfter false d.written with
    | false => rfl
    | true => exact absurd ((halted last).symm.trans stopped) Bool.noConfusion
  have written : StopGrammar acts
      { d with ioCalls := d.ioCalls + 1, written := d.written ++ [⟨aPdu, d.stopped⟩] } := by
    constructor
    · simp [Written.grammatical_append, grammatical, Written.Grammatical, informs, running]
    · simp [Written.haltedAfter_append, Written.haltedAfter, informs, running]
    · simpa [List.countP_append, Written.isStopDtCon, informs] using answered
  rw [post_bind, post_write]
  refine ⟨fun _ => StopGrammar.congr ⟨grammatical, halted, answered⟩ rfl, fun _ => ?_⟩
  refine written.kept fun c => ?_
  simp [transcript]

private theorem always_handleStartDtAct (grammar : StopGrammar acts c) :
    Always (StopGrammar acts) c handleStartDtAct := by
  obtain ⟨grammatical, halted, answered⟩ := grammar
  have confirmed {d : Connection}
      (same : d.written = c.written ++ [⟨unnumbered .STARTDT_CON, c.stopped⟩]) :
      StopGrammar acts d := by
    constructor
    · simp [same, Written.grammatical_append, grammatical, Written.Grammatical, unnumbered]
    · simp [same, Written.haltedAfter_append, Written.haltedAfter, unnumbered]
    · simpa [same, List.countP_append, Written.isStopDtCon, unnumbered] using answered
  refine Post.seq (P := fun _ d => d.written = c.written ++ [⟨unnumbered .STARTDT_CON, c.stopped⟩])
    ?_ fun _ d same => ?_
  · rw [post_write]
    exact ⟨fun _ => ⟨grammatical, halted, answered⟩, fun _ => rfl⟩
  · have keeps : Keeps written (do
        if (← get).aSduListener.isNone then
          modify fun c => { c with aSduListener := c.aSduListenerBack }
        setStopped false
        flush
        resetMaxIdleTimeTimer) := fun c => by simp
    exact keeps.post fun _ kept => confirmed (kept.trans same)

private theorem always_handleStopDtAct (grammar : StopGrammar acts c) :
    Always (StopGrammar (acts + 1)) c (handleStopDtAct settings) := by
  have requested : StopGrammar acts c.stopRequested :=
    ⟨grammar.grammatical, fun _ => rfl, grammar.answered⟩
  rw [Always, post_handleStopDtAct]
  refine (keeps_sendSFormatIfUnconfirmedAPdu c.stopRequested).mono (fun _ d same => ?_)
    fun _ _ same => (requested.congr same).mono (Nat.le_succ acts)
  have between := requested.congr same
  have stopped : d.stopped = true := congrArg (fun transcript => transcript.2.2) same
  have more {e : Connection} (same : e.transcript = d.transcript) : StopGrammar (acts + 1) e :=
    (between.congr same).mono (Nat.le_succ acts)
  refine ⟨fun _ => more rfl, fun _ => ?_⟩
  have confirmed : StopGrammar (acts + 1) (d.sent (unnumbered .STOPDT_CON)) := by
    obtain ⟨grammatical, -, answered⟩ := between
    constructor
    · simp [unnumbered, Written.grammatical_append, grammatical, Written.Grammatical, stopped]
    · exact fun _ => stopped
    · simpa [Written.isStopDtCon, unnumbered, List.countP_append] using answered
  rw [post_sendStopDtCon]
  exact ⟨fun _ => more rfl, fun _ => ⟨fun _ => confirmed, fun _ => confirmed.congr rfl⟩⟩

private theorem always_executeManually {object : Nat} (grammar : StopGrammar acts c)
    (silent : c.StopTimerSilent object) :
    Always (StopGrammar acts) c (executeManually settings (.stopDtOutstandingSFormatTimer object)) := by
  rw [Always, post_executeManually]
  refine ⟨fun _ => grammar, fun uncanceled => ?_⟩
  have quiet : c.stopped = true ∨ c.ioFails c.ioCalls = true := by
    rcases silent with canceled | quiet
    · exact absurd (uncanceled.symm.trans canceled) Bool.false_ne_true
    · exact quiet
  simp only [execute, post_bind, post_get, post_ite, post_pure, post_setDone, post_ignoringIOException,
    post_sendStopDtCon]
  refine ⟨fun _ => grammar.congr rfl, fun started => ?_⟩
  have fails : c.ioFails c.ioCalls = true := quiet.resolve_left started
  refine ⟨fun _ => ⟨fun _ => grammar.congr rfl, fun _ => grammar.congr rfl⟩, fun succeeds => ?_⟩
  exact absurd (succeeds.symm.trans fails) Bool.false_ne_true

private theorem always_handleIFrame (grammar : StopGrammar acts c) (aPdu : APdu) :
    Always (StopGrammar acts) c (handleIFrame settings aPdu) := by
  refine grammar.kept <| .bind (fun c => ?_) fun _ => .bind (keeps_handleReceiveSequenceNumber _) fun _ =>
    .bind (fun c => ?_) fun _ c => ?_
  · simp [updateReceiveSeqNum, verifySeqNumber, transcript, Written.isMark, Written.isStopDtCon,
      APdu.sFormat]
  · simp [transcript]
  · simp [acknowledgeReceived, transcript, Written.isMark, Written.isStopDtCon, APdu.sFormat]

private theorem always_dispatch (grammar : StopGrammar acts c) (bounded : Bounded settings c)
    (aPdu : ReceivedAPdu) (silent : c.StopTimersSilent (.receive aPdu))
    (asked : aPdu.apciType = .STOPDT_ACT → acts < more) (least : acts ≤ more) :
    Always (StopGrammar more) c (dispatch settings server aPdu.toAPdu) := by
  have unasked {c : Connection} {method : Body Unit} (always : Always (StopGrammar acts) c method) :
      Always (StopGrammar more) c method :=
    always.mono (fun _ _ grammar => grammar.mono least) fun _ _ grammar => grammar.mono least
  apply Dispatches.post
  constructor
  case refused => exact fun _ => grammar.mono least
  case handleIFrame => exact fun _ => unasked (grammar.always_handleIFrame _)
  case handleSFormat =>
    intro format
    rw [post_handleReceiveSequenceNumber bounded.toCounting aPdu.receiveSeqNum_lt]
    refine ⟨fun inside => ?_, fun _ => grammar.mono least⟩
    have acknowledged : StopGrammar acts (c.acknowledged aPdu.receiveSeqNum) := grammar.congr rfl
    refine ⟨fun _ => acknowledged.mono least, fun object field => unasked ?_⟩
    refine acknowledged.always_executeManually ?_
    rw [StopTimerSilent, acknowledged_timer_other _ _ (by simp)]
    exact silent format inside object field
  case handleStartDtAct => exact fun _ => unasked grammar.always_handleStartDtAct
  case handleStopDtAct =>
    intro format
    have more := asked format
    exact grammar.always_handleStopDtAct.mono (fun _ _ grammar => grammar.mono more)
      fun _ _ grammar => grammar.mono more
  case sendTestFrameCon =>
    refine unasked (grammar.kept fun c => ?_)
    simp [Connection.sendTestFrameCon, transcript, Written.isMark, Written.isStopDtCon, unnumbered]
  case cancelTestCon => exact fun _ => (grammar.mono least).congr rfl
  case countDown => exact fun _ => (grammar.mono least).congr rfl

/-- All but a received `STOPDT_ACT` leaves the number of stops asked for. -/
theorem preserves :
    Preserves settings server
      (fun c action => c.StopTimersSilent action ∧ Bounded settings c ∧ action.isStopDtAct = false)
      (StopGrammar acts) where
  progress _ _ grammar := grammar.congr rfl
  callEnds _ _ grammar _ := grammar.congr rfl
  tick _ _ grammar := grammar.congr rfl
  send _ aSdu grammar _ _ := grammar.always_send aSdu
  receive c aPdu grammar meets _ := by
    obtain ⟨silent, bounded, other⟩ := meets
    have unasked : aPdu.apciType ≠ .STOPDT_ACT := of_decide_eq_false other
    have handled : Always (StopGrammar acts) c (dispatch settings server aPdu.toAPdu) :=
      grammar.always_dispatch bounded aPdu silent (fun stops => absurd stops unasked) le_rfl
    exact handled.mono (fun _ _ grammar => grammar.congr rfl) fun _ _ grammar => grammar.congr rfl
  readFailure _ _ grammar _ := grammar.congr rfl
  endReader c grammar _ _ := grammar.kept fun c => by
    cases stopped : c.stopped <;> simp [post_endReader, transcript, stopped]
  fire c id grammar meets := by
    obtain ⟨silent, -⟩ := meets
    have dequeued : StopGrammar acts (c.dequeued id) := grammar.congr rfl
    rw [Always, post_fire]
    cases id with
    | stopDtOutstandingSFormatTimer object => exact dequeued.always_executeManually silent
    | _ =>
      refine dequeued.kept fun c => ?_
      simp [post_executeManually, execute, transcript, Written.isMark, Written.isStopDtCon, APdu.sFormat,
        unnumbered]
  runTask _ _ grammar _ _ := (post_runTask _).mpr (grammar.congr rfl)
  setConnectionListener _ _ grammar _ := grammar.congr rfl
  close _ grammar := grammar.kept fun c => by simp [transcript]
  writeStartDtAct _ grammar := grammar.kept fun c => by
    simp [Connection.writeStartDtAct, newStartDtConSignal, transcript, Written.isMark,
      Written.isStopDtCon, unnumbered]
  register c thread listener _ meets registering := absurd registering (meets.1 listener)
  beginStop c _ grammar _ := by
    obtain ⟨grammatical, -, answered⟩ := grammar
    simp only [Connection.beginStop, Always, post_bind, post_modify, post_setStopped]
    exact ⟨grammatical, fun _ => rfl, answered⟩
  confirm _ _ grammar _ _ := grammar.kept keeps_sendSFormatIfUnconfirmedAPdu
  cancelT2 _ _ grammar _ _ := (post_cancelIfPlanned _).mpr (grammar.congr rfl)
  writeStopDtAct _ grammar := grammar.kept fun c => by
    simp [Connection.writeStopDtAct, newStopDtConSignal, transcript, Written.isMark, Written.isStopDtCon,
      unnumbered]
  finishStop _ _ grammar _ _ := grammar.congr rfl

theorem started (ioFails : Nat → Bool) (now : Nat) : StopGrammar 0 (started settings ioFails now) :=
  ⟨trivial, fun halted => absurd halted Bool.false_ne_true, le_rfl⟩

/-- A step confirms at most the stop it is asked for. -/
theorem step (grammar : StopGrammar acts c) (bounded : Bounded settings c) {action : Action}
    (silent : c.StopTimersSilent action) (taken : Step settings server c action d) :
    StopGrammar (acts + [action].countP Action.isStopDtAct) d := by
  cases asked : action.isStopDtAct with
  | false =>
    rw [List.countP_singleton, asked]
    exact preserves.step grammar ⟨silent, bounded, asked⟩ taken
  | true =>
    rw [List.countP_singleton, asked]
    obtain ⟨method, found, rfl⟩ := step_eq_some taken
    cases action with
    | receive aPdu =>
      obtain ⟨-, ⟨⟩⟩ := Option.ite_none_right_eq_some.mp found
      refine Post.outcome (P := StopGrammar (acts + 1)) ?_
      rw [post_readerTurn]
      have handled : Always (StopGrammar (acts + 1)) c (dispatch settings server aPdu.toAPdu) :=
        grammar.always_dispatch bounded aPdu silent (fun _ => Nat.lt_succ_self acts) (Nat.le_succ acts)
      exact handled.mono (fun _ _ grammar => grammar.congr rfl) fun _ _ grammar => grammar.congr rfl
    | _ => exact absurd asked Bool.false_ne_true

theorem of_run {actions : List Action} {ioFails : Nat → Bool} {now : Nat}
    (run : Run (Run.Guarded StopTimersSilent (Step settings server))
      (Connection.started settings ioFails now) actions c) :
    StopGrammar (actions.countP Action.isStopDtAct) c := by
  induction run with
  | start => exact .started ioFails now
  | next before last ih =>
    obtain ⟨silent, taken⟩ := last
    rw [List.countP_append]
    exact ih.step (.of_run before.unguarded) silent taken

end StopGrammar

/-- In a run in which no timer of a deferred confirmation comes to write in the started
state, a server confirms no more stops than were asked for, confirms them in the stopped
state only, and sends no I frame after a confirmed stop before it confirms a start. -/
theorem stop_grammar {actions : List Action} {ioFails : Nat → Bool} {now : Nat}
    (run : Run (Run.Guarded StopTimersSilent (Step settings true))
      (started settings ioFails now) actions c) :
    c.written.countP Written.isStopDtCon ≤ actions.countP Action.isStopDtAct ∧
    (∀ frame ∈ c.written, frame.frame.apciType = .STOPDT_CON → frame.stopped = true) ∧
    ∀ before between after confirmed informs,
      c.written = before ++ confirmed :: between ++ informs :: after →
      confirmed.frame.apciType = .STOPDT_CON → informs.frame.apciType = .I_FORMAT →
      ∃ start ∈ between, start.frame.apciType = .STARTDT_CON := by
  obtain ⟨grammatical, -, answered⟩ := StopGrammar.of_run run
  refine ⟨answered, fun frame member confirms => grammatical.stopped member confirms, ?_⟩
  intro before between after confirmed informs written confirms isInformation
  rw [written, List.append_assoc, List.cons_append, Written.grammatical_append, Written.Grammatical,
    confirms] at grammatical
  exact grammatical.2.2.restarted isInformation

/-- A stop when everything is acknowledged, and a new start. -/
def sampleStop : List Action :=
  [.receive (sampleUnnumbered .STARTDT_ACT), .receive (sampleSFormat 0),
    .receive (sampleUnnumbered .STOPDT_ACT), .receive (sampleUnnumbered .STARTDT_ACT),
    .send sampleCommand]

theorem stop_grammar_sample :
    (sampleState true sampleStop).written.map (fun frame => frame.frame.apciType) =
      [.STARTDT_CON, .STOPDT_CON, .STARTDT_CON, .I_FORMAT] ∧
    (sampleState true sampleStop).written.countP Written.isStopDtCon ≤
      sampleStop.countP Action.isStopDtAct ∧
    ∀ frame ∈ (sampleState true sampleStop).written,
      frame.frame.apciType = .STOPDT_CON → frame.stopped = true := by
  have meets : RunMeets {} true StopTimersSilent (started {} (fun _ => false) 0) sampleStop := by
    refine .intro ?_ <| .intro ?_ <| .intro ?_ <| .intro ?_ <| .intro trivial trivial
    · exact fun informs => absurd informs (by decide)
    · rintro - - object ⟨⟩
    · exact fun informs => absurd informs (by decide)
    · exact fun informs => absurd informs (by decide)
  have run : Run (Run.Guarded StopTimersSilent (Step {} true)) (started {} (fun _ => false) 0)
      sampleStop (sampleState true sampleStop) := guarded_of_runActions rfl meets
  obtain ⟨answered, stopped, -⟩ := stop_grammar run
  exact ⟨rfl, answered, stopped⟩

/-- A stop with a frame outstanding, and a start before the frame is acknowledged. -/
def sampleRestart : List Action :=
  [.receive (sampleUnnumbered .STARTDT_ACT), .send sampleCommand,
    .receive (sampleUnnumbered .STOPDT_ACT), .receive (sampleUnnumbered .STARTDT_ACT),
    .receive (sampleSFormat 1), .receive (sampleSFormat 1), .send sampleCommand]

/-- The timer of the stop outlives the restart: each S frame makes it confirm a stop in
the started state, and an I frame follows. -/
theorem not_stop_grammar :
    ∃ c, Run (Step {} true) (started {} (fun _ => false) 0) sampleRestart c ∧
      c.written.map (fun frame => (frame.frame.apciType, frame.stopped)) =
        [(.STARTDT_CON, true), (.I_FORMAT, false), (.STARTDT_CON, true), (.STOPDT_CON, false),
          (.STOPDT_CON, false), (.I_FORMAT, false)] ∧
      sampleRestart.countP Action.isStopDtAct = 1 ∧ c.written.countP Written.isStopDtCon = 2 :=
  ⟨_, run_of_runActions rfl, rfl, rfl, rfl⟩

end Connection

end J60870
