import J60870.Connection.Phases
import J60870.Connection.Session
import J60870.Framing

namespace J60870

open Lib Method Reader

open SlidingWindow (Side)

/-- A frame takes the start octet, the length and the control fields at least. -/
theorem APdu.decode_takes {settings : ConnectionSettings} {octets rest : List Octet} {aPdu : APdu}
    (read : APdu.decode settings octets = .ok (aPdu, rest)) : rest.length + 6 ≤ octets.length := by
  have extent := extent_decode settings octets
  cases taken : frameExtent settings octets with
  | error e =>
    rw [taken] at extent
    cases extent.symm.trans read
  | ok n =>
    rw [taken] at extent
    obtain ⟨within, _, found⟩ := extent
    obtain ⟨-, rfl⟩ := Prod.mk.inj (Except.ok.inj (found.symm.trans read))
    obtain ⟨start, _, _, behind, rfl⟩ := withNext_eq_ok taken
    split at behind
    · cases behind
    obtain ⟨length, _, _, body, rfl⟩ := withNext_eq_ok behind
    split at body
    · cases body
    obtain ⟨_, rfl⟩ := withVector_eq_ok body
    rw [List.length_drop]
    omega

namespace Session

open Connection

variable {settings clientSettings serverSettings : ConnectionSettings} {isServer otherClosed : Bool}
  {inFlight : List Octet} {c d : Connection} {action : StationAction} {taken : Nat} {session next : Session}

/-- One read more may be what ends the loop of a reader that runs. -/
def readsLeft (c : Connection) : Nat := if c.reader = .running then 6 else 0

theorem readsLeft_le (c : Connection) : readsLeft c ≤ 6 := by
  rw [readsLeft]
  split <;> omega

theorem readsLeft_of_phaseStep {own : Connection.Action} (step : PhaseStep c own d) :
    readsLeft d ≤ readsLeft c := by
  have same {reader : ReaderState} {closed : Bool} (phase : d.phase = (reader, closed)) : d.reader = reader :=
    congrArg Prod.fst phase
  cases step with
  | stays phase => rw [readsLeft, same phase, readsLeft]
  | fails running _ phase =>
    rw [readsLeft, same phase]
    exact Nat.zero_le _
  | closes phase => rw [readsLeft, same phase, readsLeft]
  | ends _ phase =>
    rw [readsLeft, same phase]
    exact Nat.zero_le _
  | expires _ _ _ _ phase => rw [readsLeft, same phase, readsLeft]

theorem act_read (acted : act settings isServer inFlight otherClosed c .read = some (d, taken)) :
    (inFlight.drop taken).length + readsLeft d + 6 ≤ inFlight.length + readsLeft c := by
  rcases act_cases acted with ⟨aPdu, rest, -, decoded, rfl, step⟩ | ⟨own, -, rfl, step, reads⟩
  · have takes := APdu.decode_takes decoded
    have left := readsLeft_of_phaseStep (phaseStep_of_step step)
    rw [List.length_drop]
    omega
  · obtain reads | ⟨e, -, rfl, -⟩ := reads
    · cases reads
    obtain ⟨method, found, rfl⟩ := step_eq_some step
    obtain ⟨running, ⟨⟩⟩ := Option.ite_none_right_eq_some.mp found
    have one : readsLeft c = 6 := if_pos running
    have last : readsLeft ((leaveLoop e).outcome c) = 0 := if_neg (show ¬ ReaderState.leaving = .running by simp)
    rw [one, last, List.drop_zero, Nat.add_zero]

theorem act_own {own : Connection.Action}
    (acted : act settings isServer inFlight otherClosed c (.own own) = some (d, taken)) :
    taken = 0 ∧ readsLeft d ≤ readsLeft c := by
  rcases act_cases acted with ⟨_, _, other, -⟩ | ⟨own, -, rfl, step, -⟩
  · cases other
  · exact ⟨rfl, readsLeft_of_phaseStep (phaseStep_of_step step)⟩

theorem exists_read (running : c.reader = .running) :
    ∃ moved, act settings isServer inFlight true c .read = some moved := by
  simp only [act]
  split
  · simp [Connection.step, body, running]
  · simp [Connection.step, body, running]

section Sides

variable (clientSettings serverSettings)

def station (session : Session) : Side → Connection
  | .near => session.client
  | .far => session.server

def arriving (session : Session) : Side → List Octet
  | .near => session.toClient serverSettings
  | .far => session.toServer clientSettings

def settingsOf : Side → ConnectionSettings
  | .near => clientSettings
  | .far => serverSettings

def isFar : Side → Bool
  | .near => false
  | .far => true

/-- What an action of the station on a side comes to. -/
def actOf (session : Session) (side : Side) (action : StationAction) : Option (Connection × Nat) :=
  act (settingsOf clientSettings serverSettings side) (isFar side)
    (arriving clientSettings serverSettings session side) (session.station side.other).closed
    (session.station side) action

end Sides

theorem exists_step {side : Side} {action : StationAction} {moved : Connection × Nat}
    (acted : actOf clientSettings serverSettings session side action = some moved) :
    ∃ next, Step clientSettings serverSettings session (side, action) next := by
  cases side with
  | near => exact ⟨_, Option.map_eq_some_iff.mpr ⟨moved, acted, rfl⟩⟩
  | far => exact ⟨_, Option.map_eq_some_iff.mpr ⟨moved, acted, rfl⟩⟩

/-- The station that moves takes octets off those on their way to it, and the other one waits. -/
theorem step_cases {side : Side} {action : StationAction}
    (step : Step clientSettings serverSettings session (side, action) next) :
    ∃ taken, actOf clientSettings serverSettings session side action = some (next.station side, taken) ∧
      next.station side.other = session.station side.other ∧
      arriving clientSettings serverSettings next side =
        (arriving clientSettings serverSettings session side).drop taken ∧
      ((next.station side).outgoing = (session.station side).outgoing →
        arriving clientSettings serverSettings next side.other =
          arriving clientSettings serverSettings session side.other) := by
  cases side with
  | near =>
    obtain ⟨⟨d, taken⟩, acted, rfl⟩ := Option.map_eq_some_iff.mp step
    refine ⟨taken, acted, rfl, (List.drop_drop ..).symm, fun same => ?_⟩
    exact congrArg (fun out => (out.flatMap (APdu.octets clientSettings)).drop session.serverTaken) same
  | far =>
    obtain ⟨⟨d, taken⟩, acted, rfl⟩ := Option.map_eq_some_iff.mp step
    refine ⟨taken, acted, rfl, (List.drop_drop ..).symm, fun same => ?_⟩
    exact congrArg (fun out => (out.flatMap (APdu.octets serverSettings)).drop session.clientTaken) same

theorem flow_step {before : Past} {side : Side} {action : Side × StationAction}
    (flow : Flow before (session.station side)) (step : Step clientSettings serverSettings session action next) :
    Flow before (next.station side) := by
  obtain ⟨mover, action⟩ := action
  obtain ⟨_, acted, other, -⟩ := step_cases step
  have moved (flow : Flow before (session.station mover)) : Flow before (next.station mover) := by
    rcases act_cases acted with ⟨_, _, -, -, -, step⟩ | ⟨_, -, -, step, -⟩
    · exact (Flow.preserves before).step flow trivial step
    · exact (Flow.preserves before).step flow trivial step
  cases mover <;> cases side <;> first | exact moved flow | exact other ▸ flow

def isReadOf : Side → Side × StationAction → Bool
  | .near, (.near, .read) | .far, (.far, .read) => true
  | _, _ => false

@[simp] theorem isReadOf_read (side : Side) : isReadOf side (side, .read) = true := by cases side <;> rfl

@[simp] theorem isReadOf_own (side mover : Side) (action : Connection.Action) :
    isReadOf side (mover, .own action) = false := by cases side <;> cases mover <;> rfl

@[simp] theorem isReadOf_other (side : Side) (action : StationAction) :
    isReadOf side (side.other, action) = false := by cases side <;> rfl

private theorem reads_step {side : Side} {action : Side × StationAction} {before : Past}
    (flow : Flow before (session.station side.other)) (closed : before.closed = true)
    (step : Step clientSettings serverSettings session action next) :
    6 * [action].countP (isReadOf side) + (arriving clientSettings serverSettings next side).length +
        readsLeft (next.station side) ≤
      (arriving clientSettings serverSettings session side).length + readsLeft (session.station side) := by
  have goesOn := flow_step flow step
  obtain ⟨mover, action⟩ := action
  obtain ⟨taken, acted, other, rest, waits⟩ := step_cases step
  rw [List.countP_singleton]
  rcases eq_or_ne mover side with rfl | different
  · rw [rest]
    cases action with
    | read =>
      have takes := act_read acted
      rw [isReadOf_read, if_pos rfl]
      omega
    | own action =>
      obtain ⟨rfl, left⟩ := act_own acted
      rw [isReadOf_own, if_neg Bool.false_ne_true, List.drop_zero]
      omega
  · -- the closed station moves, and nothing goes out of it
    obtain rfl := Side.eq_other different
    rw [Side.other_other] at other waits
    rw [isReadOf_other, if_neg Bool.false_ne_true, other, waits ?_]
    · omega
    · exact (goesOn.closed closed).2.trans (flow.closed closed).2.symm

private theorem reads_bounded {side : Side} {actions : List (Side × StationAction)}
    (run : Run (Step clientSettings serverSettings) session actions next)
    (flow : Flow (session.station side.other).past (session.station side.other))
    (closed : (session.station side.other).closed = true) :
    (next.station side.other).closed = true ∧
      6 * actions.countP (isReadOf side) + (arriving clientSettings serverSettings next side).length +
        readsLeft (next.station side) ≤
      (arriving clientSettings serverSettings session side).length + readsLeft (session.station side) := by
  -- Nothing more comes of a station that is closed, and every octet is read at most once.
  have bounded : Flow (session.station side.other).past (next.station side.other) ∧
      6 * actions.countP (isReadOf side) + (arriving clientSettings serverSettings next side).length +
        readsLeft (next.station side) ≤
      (arriving clientSettings serverSettings session side).length + readsLeft (session.station side) := by
    induction run with
    | start => exact ⟨flow, by simp⟩
    | next before last ih =>
      obtain ⟨still, bound⟩ := ih
      have one := reads_step still closed last
      refine ⟨flow_step still last, ?_⟩
      rw [List.countP_append]
      omega
  exact ⟨(bounded.1.closed closed).1, bounded.2⟩

private theorem endedClosed_of_run {clientFails serverFails : Nat → Bool} {now : Nat}
    {actions : List (Side × StationAction)} (run : Run (Step clientSettings serverSettings)
      (opened clientSettings serverSettings clientFails serverFails now) actions session) (side : Side) :
    EndedClosed (session.station side) := by
  have both := run.invariant (I := fun session => ∀ side, EndedClosed (session.station side))
    (fun side => by cases side <;> exact fun ended => by cases ended) fun session action next before step => by
      obtain ⟨mover, action⟩ := action
      obtain ⟨_, acted, other, -⟩ := step_cases step
      have moved : EndedClosed (next.station mover) := by
        rcases act_cases acted with ⟨_, _, -, -, -, step⟩ | ⟨_, -, -, step, -⟩ <;> exact (before mover).step step
      have stayed := other ▸ before mover.other
      intro side
      cases mover <;> cases side <;> first | exact moved | exact stayed
  exact both side

/-- Where one station has closed, the other one finds out, whatever either of them does: it reads no more
often than there are frames on their way to it and once more, and when its reader can go on no further it has
closed as well. -/
theorem closing_arrives {clientFails serverFails : Nat → Bool} {now : Nat}
    {actions more : List (Side × StationAction)} {side : Side}
    (reached : Run (Step clientSettings serverSettings)
      (opened clientSettings serverSettings clientFails serverFails now) actions session)
    (closed : (session.station side.other).closed = true)
    (goesOn : Run (Step clientSettings serverSettings) session more next) :
    6 * more.countP (isReadOf side) ≤ (arriving clientSettings serverSettings session side).length + 6 ∧
    ((∀ later, ¬ Step clientSettings serverSettings next (side, .read) later) →
      (∀ later, ¬ Step clientSettings serverSettings next (side, .own .endReader) later) →
      (next.station side).reader = .ended ∧ (next.station side).closed = true) := by
  have flow : Flow .new (session.station side.other) :=
    reached.invariant (by cases side <;> exact .started _ _) fun _ _ _ flow step => flow_step flow step
  obtain ⟨shut, bound⟩ := reads_bounded goesOn flow.again closed
  constructor
  · have few := readsLeft_le (session.station side)
    omega
  intro noRead noEnd
  cases reader : (next.station side).reader with
  | running =>
    have reads : ∃ moved, actOf clientSettings serverSettings next side .read = some moved := by
      rw [actOf, shut]
      exact exists_read reader
    obtain ⟨_, acted⟩ := reads
    obtain ⟨later, step⟩ := exists_step acted
    exact absurd step (noRead later)
  | leaving =>
    have ends : ∃ moved, actOf clientSettings serverSettings next side (.own .endReader) = some moved := by
      simp [actOf, act, isOwn, Connection.step, body, reader]
    obtain ⟨_, acted⟩ := ends
    obtain ⟨later, step⟩ := exists_step acted
    exact absurd step (noEnd later)
  | ended => exact ⟨rfl, endedClosed_of_run (reached.append goesOn) side reader⟩

section Samples

variable (settings : ConnectionSettings)

def sampleClosed : Session := sampleSession settings [(.far, .own .close)]

/-- The closed server goes on, and the client reads the end of the stream. -/
def sampleEnd : List (Side × StationAction) :=
  [(.far, .own (.tick 20000)), (.far, .own (.fire .maxIdleTimeTimer)), (.near, .read), (.near, .own .endReader)]

def sampleEnded : Session :=
  (Run.perform (step settings settings) (sampleClosed settings) sampleEnd).getD (sampleClosed settings)

theorem closing_arrives_sample :
    ((sampleEnded {}).station .near).reader = .ended ∧ ((sampleEnded {}).station .near).closed = true := by
  have reached : Run (Step {} {}) (sampleOpened {}) [(.far, .own .close)] (sampleClosed {}) :=
    Run.of_perform_getD (by decide +kernel)
  have goesOn : Run (Step {} {}) (sampleClosed {}) sampleEnd (sampleEnded {}) :=
    Run.of_perform_getD (by decide +kernel)
  have closed : ((sampleClosed {}).station Side.near.other).closed = true := by decide +kernel
  have stuck {action : Side × StationAction} (stuck : (step {} {} (sampleEnded {}) action).isNone = true)
      (later : Session) : ¬ Step {} {} (sampleEnded {}) action later := by
    intro step
    rw [Step, Option.isNone_iff_eq_none.mp stuck] at step
    cases step
  exact (closing_arrives reached closed goesOn).2 (stuck (by decide +kernel)) (stuck (by decide +kernel))

end Samples

end Session

end J60870
