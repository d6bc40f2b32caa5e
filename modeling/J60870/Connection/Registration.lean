import J60870.Connection.Listeners

namespace J60870

open Lib Method

namespace Connection

variable {settings : ConnectionSettings} {server : Bool} {c d : Connection}

/-- As long as `startDataTransfer` has not registered its listener, no I frame comes in,
unless the listener is registered already. -/
def BeforeRegistered (listener : Listener) (c : Connection) : Action → Prop
  | .receive aPdu => aPdu.apciType = .I_FORMAT → c.aSduListener = some listener
  | _ => True

/-- The listener is not replaced: data transfer is not stopped from either side, and no
other listener is registered. -/
def WhileRegistered (listener : Listener) (c : Connection) : Action → Prop
  | .receive aPdu => aPdu.apciType ≠ .STOPDT_ACT
  | .setConnectionListener other => other = some listener
  | .stopDataTransfer _ => False
  | .proceed thread => ∀ other, c.calls thread = .startRegistering other → other = some listener
  | _ => True

def Registration (listener : Listener) : Bool → Connection → Action → Prop
  | false => BeforeRegistered listener
  | true => WhileRegistered listener

/-- Behind the earlier ones, every I frame was accepted for the listener. -/
structure TakenFor (earlier : List (Option ASdu × Option Listener)) (listener : Listener)
    (registered : Bool) (c : Connection) : Prop where
  taken : ∃ aSdus : List (Option ASdu), c.deliveries.taken = earlier ++ aSdus.map fun aSdu => (aSdu, some listener)
  still : registered = true → c.aSduListener = some listener

private theorem still_registered {listener : Listener} {action : Action} (still : c.aSduListener = some listener)
    (meets : WhileRegistered listener c action) (taken : Step settings server c action d) :
    d.aSduListener = some listener := by
  rcases listeners_step taken with changed | ⟨-, same, -⟩
  · have field : d.aSduListener = ((c.change action).elim c.listeners c.listeners.after).aSduListener :=
      congrArg Listeners.aSduListener changed
    rw [field]
    cases action with
    | receive aPdu =>
      cases format : aPdu.apciType <;> simp [change, format, Listeners.after, listeners, still]
      exact meets format
    | fire id =>
      cases fatal : id.closes && !(c.timer id).canceled <;>
        simp [change, fatal, Listeners.after, listeners, still]
    | setConnectionListener other => exact meets
    | stopDataTransfer thread => exact meets.elim
    | proceed thread =>
      cases call : c.calls thread <;> simp only [change, call, Option.elim_none, Option.elim_some]
      case startRegistering other => exact meets other call
      all_goals exact still
    | _ => exact still
  · exact (congrArg Listeners.aSduListener same).trans still

namespace TakenFor

variable {earlier : List (Option ASdu × Option Listener)} {listener : Listener} {registered : Bool}

theorem step {action : Action} (takenFor : TakenFor earlier listener registered c)
    (meets : Registration listener registered c action) (taken : Step settings server c action d) :
    TakenFor earlier listener registered d := by
  obtain ⟨⟨aSdus, before⟩, still⟩ := takenFor
  constructor
  · cases delivers taken with
    | accepted aSdu informs accepted =>
      have registers : c.aSduListener = some listener := by
        cases registered with
        | true => exact still rfl
        | false =>
          cases action with
          | receive aPdu =>
            have format : aPdu.apciType = .I_FORMAT := (Option.ite_none_right_eq_some.mp informs).1
            exact meets format
          | _ => cases informs
      exact ⟨aSdus ++ [aSdu], by simp [accepted, before, registers]⟩
    | refused aSdu informs same leaving => exact ⟨aSdus, same ▸ before⟩
    | ran task runs active ran => exact ⟨aSdus, by rw [ran]; exact before⟩
    | other uninformed idle same => exact ⟨aSdus, same ▸ before⟩
  · intro registers
    subst registers
    exact still_registered (still rfl) meets taken

theorem run {actions : List Action} (takenFor : TakenFor earlier listener registered c)
    (run : Run (Run.Guarded (Registration listener registered) (Step settings server)) c actions d) :
    TakenFor earlier listener registered d :=
  run.invariant takenFor fun _ _ _ takenFor taken => takenFor.step taken.1 taken.2

/-- From the step that registers the listener on, it is registered. -/
theorem register {thread : Nat} (takenFor : TakenFor earlier listener false c)
    (call : c.calls thread = .startRegistering (some listener))
    (registers : Step settings server c (.proceed thread) d) : TakenFor earlier listener true d := by
  have same : d.deliveries = c.deliveries := by
    have before : Untouched c.deliveries c := rfl
    exact Untouched.preserves.step before ⟨rfl, rfl⟩ registers
  refine ⟨same ▸ takenFor.taken, fun _ => ?_⟩
  exact congrArg Listeners.aSduListener (listeners_register call registers)

end TakenFor

/-- `startDataTransfer` registers its listener in `c₂`, some time after `STARTDT_CON` has
left `c₁`. If no I frame comes in between the two, and nobody replaces the listener
afterwards, then every I frame received since `c₁`, but for one that ended the reader, was handed over
for that listener: its ASDU has run or waits to run, behind what ran or waited in `c₁` and in the order of
arrival. -/
theorem handed_over_since_start {c₁ c₂ c₃ : Connection} {thread : Nat} {listener : Listener}
    {before registering transferring : List Action} {ioFails : Nat → Bool} {now : Nat}
    (history : Run (Step settings server) (started settings ioFails now) before c₁)
    (waits : Run (Run.Guarded (BeforeRegistered listener) (Step settings server)) c₁ registering c₂)
    (call : c₂.calls thread = .startRegistering (some listener))
    (registers : Step settings server c₂ (.proceed thread) c₃)
    (transfers : Run (Run.Guarded (WhileRegistered listener) (Step settings server)) c₃ transferring d) :
    ∃ aSdus : List (Option ASdu),
      TakesIn settings server c₁ (registering ++ [.proceed thread] ++ transferring) d aSdus ∧
      d.events.filterMap Event.taken =
        c₁.events.filterMap Event.taken ++ aSdus.map (fun aSdu => (aSdu, some listener)) ∧
      (d.events.filterMap Event.hasRun).map Prod.fst ++ d.serialExecutor.queue.map Task.aSdu =
        (c₁.events.filterMap Event.hasRun).map Prod.fst ++ c₁.serialExecutor.queue.map Task.aSdu ++ aSdus := by
  have atStart : TakenFor c₁.deliveries.taken listener false c₁ := ⟨⟨[], by simp⟩, (absurd · Bool.false_ne_true)⟩
  have atRegistration : TakenFor c₁.deliveries.taken listener false c₂ := atStart.run waits
  have registered : TakenFor c₁.deliveries.taken listener true c₃ := atRegistration.register call registers
  obtain ⟨⟨aSdus, taken⟩, -⟩ := registered.run transfers
  have since := (waits.unguarded.next registers).append transfers.unguarded
  obtain ⟨-, took, -, -, tookIn, takes⟩ := deliveries_of_run since
  have same : took = aSdus.map fun aSdu => (aSdu, some listener) := List.append_cancel_left (tookIn.symm.trans taken)
  refine ⟨aSdus, by simpa [same, Function.comp_def] using takes, taken, ?_⟩
  have handed : d.events.filterMap Event.handedOver =
      c₁.events.filterMap Event.handedOver ++ aSdus.map fun aSdu => (aSdu, some listener) := by
    rw [← deliveries_handedOver, ← deliveries_handedOver, Deliveries.handedOver, Deliveries.handedOver, taken,
      List.filter_append]
    exact congrArg _ (List.filter_eq_self.mpr (by simp))
  rw [run_once_in_order (history.append since), run_once_in_order history, handed]
  simp [Function.comp_def]

theorem handed_over_since_start_sample :
    ∃ aSdus : List (Option ASdu),
      TakesIn {} false (sampleState false sampleConfirmed)
        [.proceed 0, .proceed 0, .receive (sampleIFormat 0 0), .receive (sampleIFormat 1 0)]
        (sampleState false (sampleStart ++ [.receive (sampleIFormat 0 0), .receive (sampleIFormat 1 0)])) aSdus ∧
      aSdus = [some sampleCommand, some sampleCommand] := by
  have waits : Run (Run.Guarded (BeforeRegistered 7) (Step {} false)) (sampleState false sampleConfirmed)
      [.proceed 0] (sampleState false (sampleConfirmed ++ [.proceed 0])) :=
    guarded_of_runActions rfl (.intro trivial trivial)
  have other : ApciType.I_FORMAT ≠ .STOPDT_ACT := by decide
  have transfers : Run (Run.Guarded (WhileRegistered 7) (Step {} false)) (sampleState false sampleStart)
      [.receive (sampleIFormat 0 0), .receive (sampleIFormat 1 0)]
      (sampleState false (sampleStart ++ [.receive (sampleIFormat 0 0), .receive (sampleIFormat 1 0)])) :=
    guarded_of_runActions rfl (.intro other <| .intro other trivial)
  have history : Run (Step {} false) (started {} (fun _ => false) 0) sampleConfirmed
      (sampleState false sampleConfirmed) := run_of_runActions rfl
  have call : (sampleState false (sampleConfirmed ++ [.proceed 0])).calls 0 =
      .startRegistering (some 7) := rfl
  obtain ⟨aSdus, takes, -⟩ := handed_over_since_start history waits call rfl transfers
  exact ⟨aSdus, takes, takes.resolve_right fun gone => gone.1 rfl⟩

/-- A frame right behind `STARTDT_CON` is counted while the listener is not registered
yet, and lost. -/
theorem not_handed_over :
    ∃ c, Run (Step {} false) (started {} (fun _ => false) 0)
        (sampleConfirmed ++ [.receive (sampleIFormat 0 0), .proceed 0, .proceed 0]) c ∧
      c.events = [.accepted (some sampleCommand) none, .dataTransferStateChanged 7 false, .returned 0] ∧
      c.aSduListener = some 7 ∧ c.receiveSequenceNumber = 1 ∧ c.serialExecutor.queue = [] :=
  ⟨_, run_of_runActions rfl, rfl, rfl, rfl, rfl⟩

end Connection

end J60870
