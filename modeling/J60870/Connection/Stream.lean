import J60870.Connection.Unstarted

/-! A server and the octets it reads. The classification of the first control octet takes
whatever it does not know for `STARTDT_ACT`, or for `TESTFR_CON` if its highest bit is
set. -/

namespace J60870

open Lib Method Reader

namespace ApciType

/-- The control octets of the unnumbered frames. -/
def unnumberedFormats : List Octet := [0x07, 0x0B, 0x13, 0x23, 0x43, 0x83]

/-- The first control octet is one of an I frame, an S frame or an unnumbered frame. -/
def IsDefined (controlField1 : Octet) : Prop :=
  controlField1 &&& 0x01 = 0 ∨ controlField1 &&& 0x03 = 1 ∨ controlField1 ∈ unnumberedFormats

instance (controlField1 : Octet) : Decidable (IsDefined controlField1) :=
  inferInstanceAs (Decidable (_ ∨ _))

theorem apciTypeFor_eq_start (controlField1 : Octet) (defined : IsDefined controlField1) :
    apciTypeFor controlField1 = .STARTDT_ACT ↔ controlField1 = 0x07 := by
  revert controlField1
  decide +kernel

/-- An undefined frame is taken for one of two others. -/
theorem apciTypeFor_of_undefined (controlField1 : Octet) (undefined : ¬ IsDefined controlField1) :
    apciTypeFor controlField1 = if controlField1 &&& 0x80 = 0x80 then .TESTFR_CON else .STARTDT_ACT := by
  revert controlField1
  decide +kernel

end ApciType

namespace APdu

variable {settings : ConnectionSettings} {octets rest : List Octet} {aPdu : APdu} {controlField1 : Octet}

/-- The part of `decode` up to the control fields. -/
def readHeader : InputStream (Nat × Vector Octet 4) := do
  if (← readByte) ≠ START_FLAG then
    throw (.iOException "Message does not start with START flag (0x68). Broken connection.")
  let length ← readApduLength
  let aPduControlFields ← readControlFields
  return (length, aPduControlFields)

/-- The part of `decode` behind the control fields. -/
def readBody (settings : ConnectionSettings) (length : Nat) (aPduControlFields : Vector Octet 4) :
    InputStream APdu :=
  match ApciType.apciTypeFor aPduControlFields[0]! with
  | .I_FORMAT => do
    let aSdu ← ASdu.decode settings (length - CONTROL_FIELDS_LENGTH)
    return ⟨seqNumFrom aPduControlFields[0]! aPduControlFields[1]!,
      seqNumFrom aPduControlFields[2]! aPduControlFields[3]!, .I_FORMAT, some aSdu⟩
  | .S_FORMAT => return ⟨0, seqNumFrom aPduControlFields[2]! aPduControlFields[3]!, .S_FORMAT, none⟩
  | other => return ⟨0, 0, other, none⟩

theorem decode_eq : decode settings = readHeader >>= fun header => readBody settings header.1 header.2 := by
  simp only [decode, readHeader, bind_assoc]
  refine bind_congr fun start => ?_
  split
  · rfl
  simp only [bind_assoc, pure_bind]
  refine bind_congr (x := readApduLength) fun length => bind_congr (x := readControlFields) fun fields => ?_
  have first : fields[0]! = fields[0] := rfl
  rw [readBody, first]
  cases format : ApciType.apciTypeFor fields[0] <;> rfl

/-- The first control octet of the frame a stream begins with. -/
def firstControlField (octets : List Octet) : Option Octet :=
  match readHeader octets with
  | .ok (header, _) => some header.2[0]!
  | .error _ => none

private theorem readBody_ok {length : Nat} {fields : Vector Octet 4}
    (read : readBody settings length fields octets = .ok (aPdu, rest)) :
    aPdu.apciType = ApciType.apciTypeFor fields[0]! ∧ aPdu.sendSeqNum < 2 ^ 15 ∧
      aPdu.receiveSeqNum < 2 ^ 15 := by
  rw [readBody] at read
  cases format : ApciType.apciTypeFor fields[0]! <;> simp only [format] at read
  case I_FORMAT =>
    rw [bind_apply] at read
    cases aSdu : ASdu.decode settings (length - CONTROL_FIELDS_LENGTH) octets with
    | error e =>
      rw [aSdu] at read
      cases read
    | ok result =>
      rw [aSdu] at read
      cases read
      exact ⟨rfl, seqNumFrom_lt _ _, seqNumFrom_lt _ _⟩
  case S_FORMAT =>
    cases read
    exact ⟨rfl, Nat.two_pow_pos 15, seqNumFrom_lt _ _⟩
  all_goals
    cases read
    exact ⟨rfl, Nat.two_pow_pos 15, Nat.two_pow_pos 15⟩

theorem decode_ok (read : decode settings octets = .ok (aPdu, rest)) :
    (∃ controlField1, firstControlField octets = some controlField1 ∧
      aPdu.apciType = ApciType.apciTypeFor controlField1) ∧
    aPdu.sendSeqNum < 2 ^ 15 ∧ aPdu.receiveSeqNum < 2 ^ 15 := by
  rw [decode_eq, bind_apply] at read
  rw [firstControlField]
  cases header : readHeader octets with
  | error e =>
    rw [header] at read
    cases read
  | ok result =>
    rw [header] at read
    obtain ⟨type, sendSeqNum_lt, receiveSeqNum_lt⟩ := readBody_ok read
    exact ⟨⟨_, rfl, type⟩, sendSeqNum_lt, receiveSeqNum_lt⟩

/-- A frame of another type than the I and the S format is decoded. -/
theorem decode_unnumbered (field : firstControlField octets = some controlField1)
    (information : ApciType.apciTypeFor controlField1 ≠ .I_FORMAT)
    (supervisory : ApciType.apciTypeFor controlField1 ≠ .S_FORMAT) :
    ∃ rest, decode settings octets = .ok (⟨0, 0, ApciType.apciTypeFor controlField1, none⟩, rest) := by
  rw [decode_eq, bind_apply]
  rw [firstControlField] at field
  cases header : readHeader octets with
  | error e =>
    rw [header] at field
    cases field
  | ok result =>
    rw [header] at field
    cases field
    simp only [readBody]
    cases format : ApciType.apciTypeFor result.1.2[0]!
    case I_FORMAT => exact absurd format information
    case S_FORMAT => exact absurd format supervisory
    all_goals exact ⟨result.2, rfl⟩

end APdu

/-- A server and the octets it has not read yet. -/
structure Stream where
  connection : Connection
  octets : List Octet

namespace Stream

inductive Action
  /-- the reader decodes a frame and handles it -/
  | read
  /-- what else happens to the connection -/
  | other (action : Connection.Action)

/-- Frames come from the stream, and the application does not start or stop the transfer. -/
def isOther : Connection.Action → Bool
  | .receive _ | .startDataTransfer .. | .stopDataTransfer _ | .proceed _ | .timeOut _ | .interrupt _ => false
  | _ => true

variable (settings : ConnectionSettings)

def step (stream : Stream) : Action → Option Stream
  | .read =>
    match read : APdu.decode settings stream.octets with
    | .ok (aPdu, rest) =>
      let received : ReceivedAPdu := ⟨aPdu, (APdu.decode_ok read).2.1, (APdu.decode_ok read).2.2⟩
      (Connection.step settings true stream.connection (.receive received)).map fun d => ⟨d, rest⟩
    | .error e =>
      (Connection.step settings true stream.connection (.readFailure e)).map fun d => ⟨d, stream.octets⟩
  | .other action =>
    if isOther action then
      (Connection.step settings true stream.connection action).map fun d => ⟨d, stream.octets⟩
    else none

def Step (stream : Stream) (action : Action) (next : Stream) : Prop :=
  step settings stream action = some next

variable {settings} {stream next : Stream}

theorem Step.cases {action : Action} (taken : Step settings stream action next) :
    (∃ aPdu : ReceivedAPdu, action = .read ∧
      APdu.decode settings stream.octets = .ok (aPdu.toAPdu, next.octets) ∧
      Connection.Step settings true stream.connection (.receive aPdu) next.connection) ∨
    (∃ e, action = .read ∧ APdu.decode settings stream.octets = .error e ∧
      Connection.Step settings true stream.connection (.readFailure e) next.connection) ∨
    ∃ other, action = .other other ∧ isOther other = true ∧
      Connection.Step settings true stream.connection other next.connection := by
  cases action with
  | read =>
    simp only [Step, step] at taken
    split at taken
    · rename_i aPdu rest read
      obtain ⟨d, received, rfl⟩ := Option.map_eq_some_iff.mp taken
      exact .inl ⟨_, rfl, read, received⟩
    · rename_i e read
      obtain ⟨d, failed, rfl⟩ := Option.map_eq_some_iff.mp taken
      exact .inr <| .inl ⟨e, rfl, read, failed⟩
  | other other =>
    obtain ⟨allowed, moved⟩ := Option.ite_none_right_eq_some.mp taken
    obtain ⟨d, own, rfl⟩ := Option.map_eq_some_iff.mp moved
    exact .inr <| .inr ⟨other, rfl, allowed, own⟩

/-- The frame that is read next is a defined one, or a start that cannot be answered. -/
def Harmless (stream : Stream) (controlField1 : Octet) : Prop :=
  ApciType.IsDefined controlField1 ∨
    ¬ controlField1 &&& 0x80 = 0x80 ∧ stream.connection.ioFails stream.connection.ioCalls = true

/-- No `STARTDT_ACT` is read, and no frame that is taken for one. -/
def WithoutStart (stream : Stream) : Action → Prop
  | .read => ∀ controlField1, APdu.firstControlField stream.octets = some controlField1 →
      controlField1 ≠ 0x07 ∧ stream.Harmless controlField1
  | .other _ => True

/-- The server has not left the stopped state: it has confirmed no start, and has neither
sent nor passed on an ASDU. -/
structure Silent (c : Connection) : Prop where
  stopped : c.stopped = true
  written : ∀ frame ∈ c.written, frame.frame.apciType ≠ .STARTDT_CON ∧ frame.frame.apciType ≠ .I_FORMAT
  passed : ∀ listener aSdu, .newASdu listener aSdu ∉ c.events

theorem unstarted_step {action : Action} (unstarted : stream.connection.Unstarted)
    (without : stream.WithoutStart action) (taken : Step settings stream action next) :
    next.connection.Unstarted := by
  rcases taken.cases with ⟨aPdu, rfl, read, received⟩ | ⟨e, rfl, -, failed⟩ | ⟨other, rfl, allowed, own⟩
  · refine Connection.Unstarted.preserves.step unstarted ?_ received
    intro start
    obtain ⟨⟨controlField1, field, type⟩, -⟩ := APdu.decode_ok read
    obtain ⟨other, defined | ⟨-, fails⟩⟩ := without controlField1 field
    · exact absurd ((ApciType.apciTypeFor_eq_start controlField1 defined).mp (type.symm.trans start)) other
    · exact fails
  · refine Connection.Unstarted.preserves.step unstarted ?_ failed
    trivial
  · refine Connection.Unstarted.preserves.step unstarted ?_ own
    cases other <;> trivial

private theorem silent_of_unstarted {c : Connection} (unstarted : c.Unstarted) : Silent c :=
  ⟨unstarted.stopped, unstarted.written, unstarted.passed⟩

private theorem receive_undefined {c d : Connection} {aPdu : ReceivedAPdu} {controlField1 : Octet}
    (type : aPdu.apciType = ApciType.apciTypeFor controlField1)
    (undefined : ¬ ApciType.IsDefined controlField1)
    (received : Connection.Step settings true c (.receive aPdu) d) :
    (controlField1 &&& 0x80 = 0x80 → d.reader = .running) ∧
    (¬ controlField1 &&& 0x80 = 0x80 →
      (c.ioFails c.ioCalls = true → d.reader = .leaving) ∧
      (c.ioFails c.ioCalls = false → ⟨Connection.unnumbered .STARTDT_CON, c.stopped⟩ ∈ d.written)) := by
  obtain ⟨method, found, rfl⟩ := Connection.step_eq_some received
  obtain ⟨running, ⟨⟩⟩ := Option.ite_none_right_eq_some.mp found
  rw [ApciType.apciTypeFor_of_undefined controlField1 undefined] at type
  constructor
  · intro test
    rw [if_pos test] at type
    refine Post.outcome (P := fun d : Connection => d.reader = .running) ?_
    simp only [Connection.post_readerTurn, Connection.dispatch, type]
    exact running
  · intro start
    rw [if_neg start] at type
    constructor
    · intro fails
      refine Post.outcome (P := fun d : Connection => d.reader = .leaving) ?_
      simp only [Connection.post_readerTurn, Connection.dispatch, type, Connection.post_handleStartDtAct]
      refine ⟨fun _ => rfl, fun answers => ?_⟩
      rw [fails] at answers
      cases answers
    · intro answers
      refine Post.outcome
        (P := fun d : Connection => ⟨Connection.unnumbered .STARTDT_CON, c.stopped⟩ ∈ d.written) ?_
      simp [Connection.post_readerTurn, Connection.dispatch, type, Connection.post_handleStartDtAct, answers]

private theorem read_undefined {controlField1 : Octet}
    (field : APdu.firstControlField stream.octets = some controlField1)
    (undefined : ¬ ApciType.IsDefined controlField1) (taken : Step settings stream .read next) :
    ∃ aPdu : ReceivedAPdu, aPdu.apciType = ApciType.apciTypeFor controlField1 ∧
      Connection.Step settings true stream.connection (.receive aPdu) next.connection := by
  have type := ApciType.apciTypeFor_of_undefined controlField1 undefined
  obtain ⟨rest, decoded⟩ : ∃ rest, APdu.decode settings stream.octets =
      .ok (⟨0, 0, ApciType.apciTypeFor controlField1, none⟩, rest) :=
    APdu.decode_unnumbered field (by rw [type]; split <;> simp) (by rw [type]; split <;> simp)
  rcases taken.cases with ⟨aPdu, -, read, received⟩ | ⟨e, -, failed, -⟩ | ⟨_, ⟨⟩, -⟩
  · rw [decoded] at read
    cases aPdu
    cases read
    exact ⟨_, rfl, received⟩
  · rw [decoded] at failed
    cases failed

/-- Nothing but a `STARTDT_ACT`, or a frame taken for one, starts a server. An undefined
frame closes it only where the confirmation that answers it cannot be written. -/
theorem stays_silent {actions : List Action} {ioFails : Nat → Bool} {now : Nat} {octets : List Octet}
    (run : Run (Run.Guarded WithoutStart (Step settings)) ⟨.started settings ioFails now, octets⟩ actions stream) :
    Silent stream.connection ∧
    ∀ controlField1 next, APdu.firstControlField stream.octets = some controlField1 → controlField1 ≠ 0x07 →
      Step settings stream .read next →
      (Silent next.connection ∧ (¬ ApciType.IsDefined controlField1 →
        ∃ d, Connection.Step settings true next.connection .endReader d ∧ d.closed = true) ↔
      stream.Harmless controlField1) := by
  have unstarted : stream.connection.Unstarted := by
    refine run.invariant (I := fun stream => stream.connection.Unstarted) (.started ioFails now) ?_
    exact fun _ _ _ unstarted taken => unstarted_step unstarted taken.1 taken.2
  refine ⟨silent_of_unstarted unstarted, fun controlField1 next field other taken => ⟨?_, ?_⟩⟩
  · rintro ⟨silent, closes⟩
    by_contra answered
    obtain ⟨undefined, answers⟩ := not_or.mp answered
    obtain ⟨aPdu, type, received⟩ := read_undefined field undefined taken
    obtain ⟨test, start⟩ := receive_undefined type undefined received
    by_cases bit : controlField1 &&& 0x80 = 0x80
    · obtain ⟨d, ends, -⟩ := closes undefined
      obtain ⟨_, found, -⟩ := Connection.step_eq_some ends
      obtain ⟨leaving, -⟩ := Option.ite_none_right_eq_some.mp found
      rw [test bit] at leaving
      cases leaving
    · have writes := Bool.eq_false_iff.mpr fun fails => answers ⟨bit, fails⟩
      exact (silent.written _ ((start bit).2 writes)).1 rfl
  · intro harmless
    have without : stream.WithoutStart .read := by
      intro same again
      rw [field] at again
      cases again
      exact ⟨other, harmless⟩
    refine ⟨silent_of_unstarted (unstarted_step unstarted without taken), fun undefined => ?_⟩
    obtain ⟨bit, fails⟩ := harmless.resolve_left undefined
    obtain ⟨aPdu, type, received⟩ := read_undefined field undefined taken
    exact Connection.closes_of_leaving (((receive_undefined type undefined received).2 bit).1 fails)

def sampleFrame (controlField1 : Octet) : List Octet := [0x68, 0x04, controlField1, 0x00, 0x00, 0x00]

def sampleStream (settings : ConnectionSettings) (octets : List Octet) : Stream :=
  ⟨.started settings (fun _ => false) 0, octets⟩

/-- A test frame and a stop, which are answered, and an S frame, which closes the connection. -/
def sampleOctets : List Octet := sampleFrame 0x43 ++ sampleFrame 0x13 ++ sampleFrame 0x01

theorem stays_silent_sample :
    ∃ stream, Run (Run.Guarded WithoutStart (Step {})) (sampleStream {} sampleOctets) [.read, .read, .read] stream ∧
      stream.connection.written.map (fun frame => frame.frame.apciType) = [.TESTFR_CON, .STOPDT_CON] ∧
      Silent stream.connection := by
  have meets : Run.Meets (step {}) WithoutStart (sampleStream {} sampleOctets) [.read, .read, .read] := by
    refine .intro ?_ <| .intro ?_ <| .intro ?_ trivial
    all_goals
      rintro _ ⟨⟩
      exact ⟨by decide, .inl (by decide)⟩
  have run := Run.guarded_of_perform rfl meets
  exact ⟨_, run, rfl, (stays_silent run).1⟩

/-- Frames that are not defined: one starts the transfer, another is taken for the answer
to a test frame. -/
theorem starts_undefined :
    ∃ started tested, Run (Step {}) (sampleStream {} (sampleFrame 0x03)) [.read] started ∧
      started.connection.stopped = false ∧
      started.connection.written.map (fun frame => frame.frame.apciType) = [.STARTDT_CON] ∧
      Run (Step {}) (sampleStream {} (sampleFrame 0x87)) [.read] tested ∧ tested.connection.reader = .running ∧
      ¬ ApciType.IsDefined 0x03 ∧ ¬ ApciType.IsDefined 0x87 :=
  ⟨_, _, Run.of_perform rfl, rfl, rfl, Run.of_perform rfl, rfl, by decide, by decide⟩

end Stream

end J60870
