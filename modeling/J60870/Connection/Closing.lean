import J60870.Connection.Listeners

/-! Who is told of the closing, and how often. Every expiry of t1 tells the registered
listener, and the end of the reader tells it again: nobody notes who knows already. A
listener that waits for the next start is told too, unless a second stop drops it. -/

namespace J60870

open Lib Method

namespace Listeners

variable {listeners : Listeners} {latest : Option Listener}

/-- The listener registered last, behind a change. -/
def Change.registered (latest : Option Listener) : Change → Option Listener
  | .setConnectionListener listener | .startDataTransfer listener => listener
  | _ => latest

/-- The listener registered last is registered still, or waits for the next start. -/
def Keeps (listeners : Listeners) (latest : Option Listener) : Prop :=
  ∀ listener, latest = some listener →
    listeners.aSduListener = some listener ∨
      listeners.aSduListener = none ∧ listeners.aSduListenerBack = some listener ∧ listeners.stopped = true

/-- `stopDataTransfer` is not called while a listener waits for the next start. -/
def SparesWaiting (listeners : Listeners) : Change → Prop
  | .stopDataTransfer => listeners.aSduListener = none → listeners.aSduListenerBack = none
  | _ => True

theorem Keeps.after (kept : listeners.Keeps latest) {change : Change}
    (spares : listeners.SparesWaiting change) :
    (listeners.after change).Keeps (change.registered latest) := by
  intro listener last
  cases change with
  | setConnectionListener other => exact .inl last
  | startDataTransfer other => exact .inl last
  | stopDataTransfer =>
    rcases kept listener last with active | ⟨waits, back, -⟩
    · exact .inr ⟨rfl, active, rfl⟩
    · simp [spares waits] at back
  | startDtAct =>
    left
    rcases kept listener last with active | ⟨waits, back, -⟩
    · simp [Listeners.after, active]
    · simp [Listeners.after, waits, back]
  | stopDtAct =>
    right
    rcases kept listener last with active | ⟨waits, back, -⟩
    · simp [Listeners.after, active]
    · simp [Listeners.after, waits, back]
  | expired => exact kept listener last
  | readerEnds => exact kept listener last

theorem Keeps.mem_toldAtEnd {listener : Listener} (kept : listeners.Keeps (some listener)) :
    listener ∈ listeners.toldAtEnd := by
  rcases kept listener rfl with active | ⟨-, back, stopped⟩
  · simp [toldAtEnd, active]
  · simp [toldAtEnd, back, stopped]

theorem Keeps.startDtAct {listener : Listener} (kept : listeners.Keeps (some listener)) :
    (listeners.after .startDtAct).aSduListener = some listener := by
  rcases kept listener rfl with active | ⟨waits, back, -⟩
  · simp [Listeners.after, active]
  · simp [Listeners.after, waits, back]

end Listeners

namespace Connection

variable {settings : ConnectionSettings} {server : Bool} {c d : Connection}

/-- What the action does to the listeners, if anything, meets a condition. -/
def Changes (P : Listeners → Listeners.Change → Prop) (c : Connection) (action : Action) : Prop :=
  ∀ change, c.change action = some change → P c.listeners change

/-- No listener is registered when t1 or the time for a test frame is over, and at its end the reader of a
stopped connection does not find one listener in both fields. -/
def TellsOnce (c : Connection) : Action → Prop
  | .fire id => id.closes = true → (c.timer id).canceled = false → c.aSduListener = none
  | .endReader => c.stopped = true → ∀ listener, c.aSduListener = some listener →
      c.aSduListenerBack ≠ some listener
  | _ => True

/-- Nobody is told before the reader ends, and nobody twice. -/
structure ToldOnce (c : Connection) : Prop where
  nodup : c.told.Nodup
  early : c.reader ≠ .ended → c.told = []

private theorem nodup_toldAtEnd_iff : c.listeners.toldAtEnd.Nodup ↔ TellsOnce c .endReader := by
  cases active : c.aSduListener <;> cases back : c.aSduListenerBack <;> cases stopped : c.stopped <;>
    simp [Listeners.toldAtEnd, listeners, TellsOnce, active, back, stopped, eq_comm]

private theorem told_endReader (ends : Step settings server c .endReader d) :
    d.told = c.told ++ c.listeners.toldAtEnd :=
  congrArg Listeners.told (listeners_endReader ends)

private theorem reader_endReader (ends : Step settings server c .endReader d) :
    c.reader = .leaving ∧ d.reader = .ended := by
  obtain ⟨method, found, rfl⟩ := step_eq_some ends
  obtain ⟨leaving, ⟨⟩⟩ := Option.ite_none_right_eq_some.mp found
  refine ⟨leaving, Post.outcome (P := fun d : Connection => d.reader = .ended) ?_⟩
  simp [post_endReader]

private theorem told_unchanged {action : Action} (tells : TellsOnce c action) (goesOn : action ≠ .endReader)
    (taken : Step settings server c action d) : d.told = c.told := by
  rcases listeners_step taken with changed | ⟨-, same, -⟩
  · have told : d.told = ((c.change action).elim c.listeners c.listeners.after).told :=
      congrArg Listeners.told changed
    rw [told]
    cases action with
    | endReader => exact absurd rfl goesOn
    | fire id =>
      cases closes : id.closes with
      | false => simp [change, closes, listeners]
      | true =>
        cases canceled : (c.timer id).canceled with
        | true => simp [change, closes, canceled, listeners]
        | false => simp [change, closes, canceled, Listeners.after, listeners, tells closes canceled]
    | receive aPdu => cases format : aPdu.apciType <;> simp [change, format, Listeners.after, listeners]
    | proceed thread => cases call : c.calls thread <;> simp [change, call, Listeners.after, listeners]
    | _ => rfl
  · exact congrArg Listeners.told same

theorem ToldOnce.step {action : Action} (once : ToldOnce c) (tells : TellsOnce c action)
    (taken : Step settings server c action d) : ToldOnce d := by
  obtain ⟨nodup, early⟩ := once
  by_cases ends : action = .endReader
  · subst ends
    obtain ⟨leaving, ended⟩ := reader_endReader taken
    have nobody : c.told = [] := early (by simp [leaving])
    constructor
    · rw [told_endReader taken, nobody, List.nil_append]
      exact nodup_toldAtEnd_iff.mpr tells
    · exact fun goesOn => absurd ended goesOn
  · have same := told_unchanged tells ends taken
    constructor
    · rwa [same]
    · rw [same]
      exact fun goesOn => early fun ended => goesOn ((ended_step ends taken).mpr ended)

private theorem exists_end (goesOn : c.reader ≠ .ended) :
    ∃ more d, Run (Step settings server) c more d ∧ d.told = c.told ++ c.listeners.toldAtEnd := by
  -- The reader ends when the socket is closed, and tells whoever is in its fields.
  have leaves {c : Connection} (leaving : c.reader = .leaving) : ∃ d, Step settings server c .endReader d :=
    ⟨_, by rw [Step, step, body, if_pos leaving]; rfl⟩
  cases reader : c.reader with
  | running =>
    have fails : Step settings server c (.readFailure ioFailure) (c.left ioFailure) := by
      rw [Step, step, body, if_pos reader]
      rfl
    obtain ⟨d, ends⟩ := leaves (c := c.left ioFailure) rfl
    have told : d.told = (c.left ioFailure).told ++ (c.left ioFailure).listeners.toldAtEnd := told_endReader ends
    exact ⟨_, d, (Run.single fails).next ends, told⟩
  | leaving =>
    obtain ⟨d, ends⟩ := leaves reader
    exact ⟨_, d, .single ends, told_endReader ends⟩
  | ended => exact absurd reader goesOn

private theorem told_twice_of_expiry {id : TimerId} {listener : Listener} (closes : id.closes = true)
    (pending : (c.timer id).canceled = false) (active : c.aSduListener = some listener)
    (goesOn : c.reader ≠ .ended) (taken : Step settings server c (.fire id) d) :
    ∃ more e, Run (Step settings server) d more e ∧ 1 < e.told.count listener := by
  -- An expiry that finds a listener tells it, and the end of the reader tells it again.
  have expired : d.listeners = c.listeners.after .expired := listeners_fire closes pending taken
  have told : d.told = c.told ++ [listener] := by
    have told : d.told = c.told ++ c.aSduListener.toList := congrArg Listeners.told expired
    rw [told, active]
    rfl
  have still : d.aSduListener = some listener := (congrArg Listeners.aSduListener expired).trans active
  have goesOn : d.reader ≠ .ended := fun ended => goesOn ((ended_step (by simp) taken).mp ended)
  obtain ⟨more, e, run, toldAgain⟩ : ∃ more e, Run (Step settings server) d more e ∧
      e.told = d.told ++ d.listeners.toldAtEnd := exists_end goesOn
  refine ⟨more, e, run, ?_⟩
  have again : d.listeners.toldAtEnd = listener :: (if d.stopped then d.aSduListenerBack.toList else []) := by
    simp [Listeners.toldAtEnd, listeners, still]
  rw [toldAgain, told, again]
  simp [List.count_append]
  omega

/-- In a run in which t1 and the time for a test frame are over only while no listener is registered, and
the reader of a stopped connection does not find one listener in both fields at its end, every listener is
told at most once. A step that breaks this before the reader has ended leads to a listener that is told
twice. -/
theorem told_at_most_once {actions : List Action} {ioFails : Nat → Bool} {now : Nat}
    (run : Run (Run.Guarded TellsOnce (Step settings server)) (started settings ioFails now) actions c) :
    (∀ listener, c.told.count listener ≤ 1) ∧
    ∀ action d, Step settings server c action d → c.reader ≠ .ended → ¬ TellsOnce c action →
      ∃ listener more e, Run (Step settings server) d more e ∧ 1 < e.told.count listener := by
  have once : ToldOnce c := by
    refine run.invariant ⟨List.nodup_nil, fun _ => rfl⟩ ?_
    exact fun _ _ _ once taken => once.step taken.1 taken.2
  refine ⟨List.nodup_iff_count_le_one.mp once.nodup, fun action d taken goesOn breaks => ?_⟩
  cases action with
  | fire id =>
    simp only [TellsOnce, Classical.not_imp] at breaks
    obtain ⟨closes, pending, active⟩ := breaks
    obtain ⟨listener, active⟩ := Option.ne_none_iff_exists'.mp active
    obtain ⟨more, e, run, twice⟩ := told_twice_of_expiry closes pending active goesOn taken
    exact ⟨listener, more, e, run, twice⟩
  | endReader =>
    rw [← nodup_toldAtEnd_iff, List.nodup_iff_count_le_one] at breaks
    push Not at breaks
    obtain ⟨listener, twice⟩ := breaks
    refine ⟨listener, [], d, .start, ?_⟩
    rw [told_endReader taken, List.count_append]
    omega
  | _ => exact absurd trivial breaks

theorem told_at_most_once_sample :
    ∃ c, Run (Run.Guarded TellsOnce (Step {} true)) (started {} (fun _ => false) 0)
        [.setConnectionListener (some 7), .readFailure ioFailure, .endReader] c ∧
      c.told = [7] ∧ ∀ listener, c.told.count listener ≤ 1 := by
  have meets : RunMeets {} true TellsOnce (started {} (fun _ => false) 0)
      [.setConnectionListener (some 7), .readFailure ioFailure, .endReader] := by
    refine .intro trivial <| .intro trivial <| .intro ?_ trivial
    rintro - listener - ⟨⟩
  have run := guarded_of_runActions rfl meets
  exact ⟨_, run, rfl, (told_at_most_once run).1⟩

/-- The listener is told when t1 is over, and again when the reader finds the socket
closed. -/
theorem told_twice :
    ∃ c, Run (Step {} true) (started {} (fun _ => false) 0)
        [.setConnectionListener (some 7), .receive (sampleUnnumbered .STARTDT_ACT), .send sampleCommand,
          .tick 15000, .fire .maxTimeNoAckReceived, .readFailure ioFailure, .endReader] c ∧
      c.told = [7, 7] :=
  ⟨_, run_of_runActions rfl, rfl⟩

def registered (c : Connection) (action : Action) (latest : Option Listener) : Option Listener :=
  (c.change action).elim latest (Listeners.Change.registered latest)

private theorem keeps_registered {latest : Option Listener} {action : Action} (kept : c.listeners.Keeps latest)
    (spares : Changes Listeners.SparesWaiting c action) (taken : Step settings server c action d) :
    d.listeners.Keeps (c.registered action latest) := by
  rcases listeners_step taken with changed | ⟨starts, same, -⟩
  · rw [changed, registered]
    cases changes : c.change action with
    | none => exact kept
    | some change => exact kept.after (spares change changes)
  · rw [same, registered, starts]
    exact kept

/-- In a run in which data transfer is not stopped while the listener waits for the next
start, the listener registered last is told when the reader ends, and is registered again
when a start is confirmed. A stop that breaks the condition leaves no listener. -/
theorem latest_listener_kept {actions : List Action} {ioFails : Nat → Bool} {now : Nat} {listener : Listener}
    (run : Run (Run.Tracked registered (Run.Guarded (Changes Listeners.SparesWaiting) (Step settings server)))
      (started settings ioFails now, none) actions (c, some listener)) :
    (∀ d, Step settings server c .endReader d →
      ∃ informed, d.told = c.told ++ informed ∧ listener ∈ informed) ∧
    (∀ aPdu d, aPdu.apciType = .STARTDT_ACT → Step settings server c (.receive aPdu) d →
      d.reader = .running → d.aSduListener = some listener) ∧
    ∀ thread d, Step settings server c (.stopDataTransfer thread) d →
      ¬ Changes Listeners.SparesWaiting c (.stopDataTransfer thread) →
      d.aSduListener = none ∧ d.aSduListenerBack = none := by
  have kept : c.listeners.Keeps (some listener) := by
    refine run.invariant (I := fun c => c.1.listeners.Keeps c.2) (fun _ none => nomatch none) ?_
    rintro ⟨c, _⟩ action ⟨d, _⟩ kept ⟨⟨spares, taken⟩, rfl⟩
    exact keeps_registered kept spares taken
  refine ⟨?_, ?_, ?_⟩
  · intro d ends
    have told : d.told = c.told ++ c.listeners.toldAtEnd :=
      congrArg Listeners.told (listeners_endReader ends)
    exact ⟨_, told, kept.mem_toldAtEnd⟩
  · intro aPdu d format taken running
    rcases (listeners_receive taken).1 format with started | ⟨-, leaving⟩
    · have active : d.aSduListener = (c.listeners.after .startDtAct).aSduListener :=
        congrArg Listeners.aSduListener started
      rw [active]
      exact kept.startDtAct
    · rw [running] at leaving
      cases leaving
  · intro thread d stopped drops
    have waits : c.aSduListener = none := by
      by_contra active
      apply drops
      rintro _ ⟨⟩
      exact fun waits => absurd waits active
    have fields := listeners_stopDataTransfer stopped
    have back : d.aSduListenerBack = c.aSduListener := congrArg Listeners.aSduListenerBack fields
    exact ⟨congrArg Listeners.aSduListener fields, back.trans waits⟩

def sampleStopping : List Action :=
  [.setConnectionListener (some 7), .stopDataTransfer 0, .readFailure ioFailure]

theorem latest_listener_kept_sample :
    Run.notes (step {} true) registered (started {} (fun _ => false) 0) none sampleStopping = some 7 ∧
    ∀ d, Step {} true (sampleState true sampleStopping) .endReader d →
      ∃ informed, d.told = (sampleState true sampleStopping).told ++ informed ∧ 7 ∈ informed := by
  have meets : RunMeets {} true (Changes Listeners.SparesWaiting) (started {} (fun _ => false) 0)
      sampleStopping := by
    refine .intro ?_ <| .intro ?_ <| .intro ?_ trivial
    · rintro _ ⟨⟩
      trivial
    · rintro _ ⟨⟩ ⟨⟩
    · rintro _ ⟨⟩
  have run : Run (Run.Tracked registered (Run.Guarded (Changes Listeners.SparesWaiting) (Step {} true)))
      (started {} (fun _ => false) 0, none) sampleStopping (sampleState true sampleStopping, some 7) :=
    tracked_of_runActions none rfl meets
  exact ⟨rfl, (latest_listener_kept run).1⟩

def sampleUnconfirmedStop : List Action := [.stopDataTransfer 0, .proceed 0, .proceed 0, .proceed 0, .proceed 0]

/-- After a stop that was not confirmed in time, a second stop drops the listener, and
nobody is told of the closing. -/
theorem listener_dropped :
    ∃ c, Run (Step {} false) (started {} (fun _ => false) 0)
        ([.setConnectionListener (some 7)] ++ sampleUnconfirmedStop ++ [.timeOut 0] ++ sampleUnconfirmedStop ++
          [.readFailure ioFailure, .endReader]) c ∧
      c.events = [.dataTransferStateChanged 7 true, .threw 0 requestTimedOut] ∧ c.reader = .ended ∧
      c.told = [] :=
  ⟨_, run_of_runActions rfl, rfl, rfl, rfl⟩

end Connection

end J60870
