import J60870.Connection.Commands
import J60870.Connection.Dialogue

/-! The listener of the sample server: what it answers, and that it confirms the execution of a command
only if the client has selected it before. -/

namespace J60870

open Lib Method

open SlidingWindow (Side)

namespace SampleServer

/-- What can end a call of the listener. -/
inductive Throwable
  | java (e : JavaException)
  | classCastException

/-- The listener of a connection, and the ASDUs it has called `send` with. -/
structure ConnectionListener where
  selected : Bool := false
  sent : List ASdu := []

abbrev Callback := Method Throwable ConnectionListener

section NewASdu

variable (settings : ConnectionSettings) (originatorAddress : JInt) (time : ElementClass.ieTime56.Element)

/-- `connection.send(aSdu)`. Where it fails, the callback ends. -/
def send (aSdu : ASdu) : Callback Unit :=
  modify fun listener => { listener with sent := listener.sent ++ [aSdu] }

def returned {α : Type} : Except JavaException α → Callback α
  | .ok a => pure a
  | .error e => throw (.java e)

def sendConfirmation (aSdu : ASdu) : Callback Unit := do
  let cot ← returned (Connection.cotFrom aSdu)
  send (← returned (Connection.mirrorOf settings aSdu aSdu.commonAddress cot false))

/-- `connection.sendActivationTermination(aSdu)` -/
def sendActivationTermination (aSdu : ASdu) : Callback Unit := do
  send (← returned (Connection.mirrorOf settings aSdu aSdu.commonAddress .activationTermination
    aSdu.negativeConfirm))

/-- The example values for an interrogation. -/
def interrogated (commonAddress : JInt) : ASdu :=
  ⟨.M_ME_NB_1, true, some .interrogatedByStation, false, false, 0, commonAddress,
    some [⟨1, [[.ieScaledValue (-32768), .ieQuality 0], [.ieScaledValue 10, .ieQuality 0],
      [.ieScaledValue (-5), .ieQuality 0]]⟩], none, 3⟩

/-- `aSdu.getInformationObjects()[0]` -/
def firstObject (aSdu : ASdu) : Callback InformationObject :=
  match aSdu.informationObjects with
  | none => throw (.java .nullPointerException)
  | some [] => throw (.java .arrayIndexOutOfBoundsException)
  | some (object :: _) => pure object

/-- `(IeSingleCommand) informationObject.getInformationElements()[0][0]`, by its value -/
def firstCommand (object : InformationObject) : Callback JInt :=
  match object.informationElements with
  | (.ieSingleCommand value :: _) :: _ => pure value
  | (_ :: _) :: _ => throw .classCastException
  | _ => throw (.java .arrayIndexOutOfBoundsException)

/-- The switch of `newASdu`. -/
def newASdu (aSdu : ASdu) : Callback Unit :=
  match aSdu.aSduType with
  | .C_IC_NA_1 => do
    sendConfirmation settings aSdu
    send (interrogated aSdu.commonAddress)
    sendActivationTermination settings aSdu
  | .C_SC_NA_1 => do
    let informationObject ← firstObject aSdu
    let singleCommand ← firstCommand informationObject
    if informationObject.informationObjectAddress ≠ 5000 then return
    let isSelect := hasMask singleCommand 0x80
    if isSelect then
      modify fun listener => { listener with selected := true }
      sendConfirmation settings aSdu
    else if (← get).selected then
      modify fun listener => { listener with selected := false }
      sendConfirmation settings aSdu
    else return
  | .C_CS_NA_1 => send ((Command.synchronizeClocks aSdu.commonAddress time).aSdu originatorAddress)
  | .C_SE_NB_1 => return
  | _ => do
    send (← returned (Connection.mirrorOf settings aSdu aSdu.commonAddress .unknownTypeId true))

end NewASdu

/-- The calls for the ASDUs that are heard, with what each of them sends. The clock shows `clock i` in
call `i`. -/
def serve (settings : ConnectionSettings) (originatorAddress : JInt)
    (clock : Nat → ElementClass.ieTime56.Element) (i : Nat)
    (selected : Bool) : List ASdu → List (ASdu × List ASdu)
  | [] => []
  | aSdu :: others =>
    let listener := (newASdu settings originatorAddress (clock i) aSdu).outcome { selected := selected }
    (aSdu, listener.sent) ::
      serve settings originatorAddress clock (i + 1) listener.selected others

/-- The select bit of a command for the object 5000. -/
def selects (aSdu : ASdu) : Option Bool :=
  if aSdu.aSduType = .C_SC_NA_1 then
    match aSdu.informationObjects with
    | some (⟨address, (.ieSingleCommand value :: _) :: _⟩ :: _) =>
      if address = 5000 then some (hasMask value 0x80) else none
    | _ => none
  else none

section Calls

variable {settings : ConnectionSettings} {originatorAddress : JInt} {time : ElementClass.ieTime56.Element}
variable {aSdu : ASdu} {listener : ConnectionListener}

@[simp] private theorem post_returned {α : Type} {x : Except JavaException α}
    {Q : α → ConnectionListener → Prop} {E : Throwable → ConnectionListener → Prop} :
    Post (returned x) listener Q E ↔
      (∀ a, x = .ok a → Q a listener) ∧ ∀ e, x = .error e → E (.java e) listener := by
  cases x <;> simp [returned]

@[simp] private theorem post_send {answer : ASdu} {Q : Unit → ConnectionListener → Prop}
    {E : Throwable → ConnectionListener → Prop} :
    Post (send answer) listener Q E ↔ Q () { listener with sent := listener.sent ++ [answer] } :=
  Iff.rfl

/-- What a call may send. -/
inductive Sends (settings : ConnectionSettings) (originatorAddress : JInt) (time : ElementClass.ieTime56.Element)
    (aSdu : ASdu) : ASdu → Prop
  | confirmation {cot : CauseOfTransmission} {answer : ASdu} (found : Connection.cotFrom aSdu = .ok cot)
      (built : Connection.mirrorOf settings aSdu aSdu.commonAddress cot false = .ok answer) :
    Sends settings originatorAddress time aSdu answer
  | termination {answer : ASdu} (type : aSdu.aSduType ≠ .C_SC_NA_1)
      (built : Connection.mirrorOf settings aSdu aSdu.commonAddress .activationTermination
        aSdu.negativeConfirm = .ok answer) :
    Sends settings originatorAddress time aSdu answer
  | interrogated : Sends settings originatorAddress time aSdu (interrogated aSdu.commonAddress)
  | synchronized : Sends settings originatorAddress time aSdu
      ((Command.synchronizeClocks aSdu.commonAddress time).aSdu originatorAddress)
  | unknown {answer : ASdu} (type : aSdu.aSduType ≠ .C_SC_NA_1)
      (built : Connection.mirrorOf settings aSdu aSdu.commonAddress .unknownTypeId true = .ok answer) :
    Sends settings originatorAddress time aSdu answer

/-- A call that sends some ASDUs and leaves the selection as it should be. -/
structure Served (settings : ConnectionSettings) (originatorAddress : JInt)
    (time : ElementClass.ieTime56.Element) (aSdu : ASdu) (before after : ConnectionListener) : Prop where
  sends : ∀ answer ∈ after.sent, answer ∈ before.sent ∨ Sends settings originatorAddress time aSdu answer
  selected : after.selected = (selects aSdu).getD before.selected
  /-- nothing is executed that is not selected -/
  refused : selects aSdu = some false → before.selected = false → after.sent = before.sent

/-- The selection stays, and all that is sent may be sent. -/
private def Adds (settings : ConnectionSettings) (originatorAddress : JInt) (time : ElementClass.ieTime56.Element)
    (aSdu : ASdu) (before after : ConnectionListener) : Prop :=
  after.selected = before.selected ∧
    ∀ answer ∈ after.sent, answer ∈ before.sent ∨ Sends settings originatorAddress time aSdu answer

private theorem Adds.refl : Adds settings originatorAddress time aSdu listener listener :=
  ⟨rfl, fun _ => .inl⟩

private theorem Adds.sent {next : ConnectionListener} {answer : ASdu}
    (adds : Adds settings originatorAddress time aSdu listener next)
    (sends : Sends settings originatorAddress time aSdu answer) :
    Adds settings originatorAddress time aSdu listener { next with sent := next.sent ++ [answer] } := by
  refine ⟨adds.1, fun other member => ?_⟩
  rcases List.mem_append.mp member with before | now
  · exact adds.2 other before
  · rw [List.mem_singleton.mp now]
    exact .inr sends

private theorem adds_sendConfirmation {next : ConnectionListener}
    (adds : Adds settings originatorAddress time aSdu listener next) :
    Post (sendConfirmation settings aSdu) next (fun _ => Adds settings originatorAddress time aSdu listener)
      (fun _ => Adds settings originatorAddress time aSdu listener) := by
  simp only [sendConfirmation, post_bind, post_returned, post_send]
  exact ⟨fun cot found => ⟨fun answer built => adds.sent (.confirmation found built), fun _ _ => adds⟩,
    fun _ _ => adds⟩

private theorem served_of_adds {next : ConnectionListener} (other : selects aSdu = none)
    (adds : Adds settings originatorAddress time aSdu listener next) :
    Served settings originatorAddress time aSdu listener next := by
  refine ⟨adds.2, ?_, fun execute => ?_⟩
  · rw [other]
    exact adds.1
  · rw [other] at execute
    cases execute

private theorem served_command (listener : ConnectionListener) (command : aSdu.aSduType = .C_SC_NA_1) :
    Post (newASdu settings originatorAddress time aSdu) listener
      (fun _ => Served settings originatorAddress time aSdu listener)
      (fun _ => Served settings originatorAddress time aSdu listener) := by
  have nothing (other : selects aSdu = none) : Served settings originatorAddress time aSdu listener listener :=
    served_of_adds other .refl
  have confirmed {selected : Bool} (known : selects aSdu = some selected)
      (may : selected = false → listener.selected = true) :
      Post (sendConfirmation settings aSdu) { listener with selected := selected }
        (fun _ => Served settings originatorAddress time aSdu listener)
        (fun _ => Served settings originatorAddress time aSdu listener) := by
    have served {next : ConnectionListener}
        (adds : Adds settings originatorAddress time aSdu { listener with selected := selected } next) :
        Served settings originatorAddress time aSdu listener next := by
      refine ⟨adds.2, ?_, fun execute idle => ?_⟩
      · rw [known]
        exact adds.1
      · rw [execute] at known
        rw [may (Option.some.inj known).symm] at idle
        cases idle
    exact (adds_sendConfirmation .refl).mono (fun _ _ adds => served adds) fun _ _ adds => served adds
  rw [newASdu, command]
  rcases objects : aSdu.informationObjects with _ | _ | ⟨⟨address, rows⟩, others⟩
  · simpa [firstObject, objects] using nothing (by simp [selects, command, objects])
  · simpa [firstObject, objects] using nothing (by simp [selects, command, objects])
  simp only [firstObject, objects, pure_bind]
  rcases rows with _ | ⟨_ | ⟨e, row⟩, more⟩
  · simpa [firstCommand] using nothing (by simp [selects, command, objects])
  · simpa [firstCommand] using nothing (by simp [selects, command, objects])
  cases e with
  | ieSingleCommand value =>
    simp only [firstCommand, pure_bind]
    by_cases own : address = 5000
    · have known : selects aSdu = some (hasMask value 0x80) := by simp [selects, command, objects, own]
      simp only [own, ne_eq, not_true, if_false]
      cases select : hasMask value 0x80 with
      | true =>
        rw [select] at known
        simpa [select] using confirmed known nofun
      | false =>
        rw [select] at known
        simp only [Bool.false_eq_true, if_false, post_bind, post_get, post_ite, post_modify, post_pure]
        refine ⟨fun mine => confirmed known fun _ => mine, fun idle => ⟨fun _ => .inl, ?_, fun _ _ => rfl⟩⟩
        rw [known]
        simpa using idle
    · have other : ¬ address = 5000#32 := own
      rw [if_pos own, post_pure]
      exact nothing (by simp [selects, command, objects, other])
  | _ => simpa [firstCommand] using nothing (by simp [selects, command, objects])

/-- What one call does. -/
theorem served (listener : ConnectionListener) :
    Post (newASdu settings originatorAddress time aSdu) listener
      (fun _ => Served settings originatorAddress time aSdu listener)
      (fun _ => Served settings originatorAddress time aSdu listener) := by
  by_cases command : aSdu.aSduType = .C_SC_NA_1
  · exact served_command listener command
  have other : selects aSdu = none := if_neg command
  refine Post.mono (Q := fun _ => Adds settings originatorAddress time aSdu listener)
    (E := fun _ => Adds settings originatorAddress time aSdu listener) ?_
    (fun _ _ adds => served_of_adds other adds) fun _ _ adds => served_of_adds other adds
  unfold newASdu
  split
  · refine Post.seq (adds_sendConfirmation .refl) fun _ next adds => ?_
    simp only [post_bind, post_send, sendActivationTermination, post_returned]
    have values := adds.sent .interrogated
    exact ⟨fun answer built => values.sent (.termination command built), fun _ _ => values⟩
  · contradiction
  · exact Adds.refl.sent .synchronized
  · exact .refl
  · simp only [post_bind, post_returned, post_send]
    exact ⟨fun answer built => Adds.refl.sent (.unknown command built), fun _ _ => .refl⟩

end Calls

section Serve

variable {settings : ConnectionSettings} {originatorAddress : JInt} {clock : Nat → ElementClass.ieTime56.Element}

theorem serve_heard (i : Nat) (selected : Bool) (heard : List ASdu) :
    (serve settings originatorAddress clock i selected heard).map Prod.fst = heard := by
  induction heard generalizing i selected with
  | nil => rfl
  | cons aSdu others ih => exact congrArg (aSdu :: ·) (ih _ _)

private theorem call_served (aSdu : ASdu) (selected : Bool) {time : ElementClass.ieTime56.Element} :
    Served settings originatorAddress time aSdu { selected := selected }
      ((newASdu settings originatorAddress time aSdu).outcome { selected := selected }) :=
  Post.outcome (served _)

theorem serve_sends (i : Nat) (selected : Bool) (heard : List ASdu) :
    ∀ call ∈ serve settings originatorAddress clock i selected heard, ∀ answer ∈ call.2,
      ∃ time, Sends settings originatorAddress time call.1 answer := by
  induction heard generalizing i selected with
  | nil => exact fun _ none => absurd none List.not_mem_nil
  | cons aSdu others ih =>
    refine List.forall_mem_cons.mpr ⟨fun answer member => ?_, ih _ _⟩
    exact ⟨clock i, ((call_served aSdu selected).sends answer member).resolve_left List.not_mem_nil⟩

/-- What is executed was selected by the last command for the object before it. -/
theorem selected_of_executed (i : Nat) (selected : Bool) (heard : List ASdu) {aSdu : ASdu} {sent : List ASdu}
    {before after : List (ASdu × List ASdu)}
    (calls : serve settings originatorAddress clock i selected heard = before ++ (aSdu, sent) :: after)
    (execute : selects aSdu = some false) (answered : sent ≠ []) :
    ((before.map Prod.fst).filterMap selects).getLastD selected = true := by
  induction before generalizing i selected heard with
  | nil =>
    cases heard with
    | nil => cases calls
    | cons first others =>
      obtain ⟨⟨rfl, rfl⟩, -⟩ := List.cons.inj calls
      by_contra idle
      exact answered ((call_served _ selected).refused execute (Bool.not_eq_true _ |>.mp idle))
  | cons call before ih =>
    cases heard with
    | nil => cases calls
    | cons first others =>
      obtain ⟨rfl, rest⟩ := List.cons.inj calls
      have later := ih _ _ _ rest
      rw [(call_served first selected).selected] at later
      simp only [List.map_cons, List.filterMap_cons]
      cases known : selects first with
      | none => rwa [known] at later
      | some bit =>
        rw [known] at later
        rwa [List.getLastD_cons]

end Serve

section Selects

variable {settings : ConnectionSettings} {aSdu answer : ASdu}

theorem selects_received (settings : ConnectionSettings) (aSdu : ASdu) :
    selects (aSdu.received settings) = selects aSdu := by
  have type : (aSdu.received settings).aSduType = aSdu.aSduType := rfl
  have objects : (aSdu.received settings).informationObjects =
      aSdu.informationObjects.map fun objects => objects.map InformationObject.received := rfl
  rw [selects, selects, type, objects]
  rcases aSdu.informationObjects with _ | _ | ⟨⟨address, _ | ⟨_ | ⟨e, row⟩, more⟩⟩, others⟩
  · rfl
  · rfl
  · rfl
  · rfl
  · cases e <;> rfl

theorem type_of_selects {bit : Bool} (known : selects aSdu = some bit) : aSdu.aSduType = .C_SC_NA_1 := by
  by_contra other
  rw [selects, if_neg other] at known
  cases known

private theorem wellShaped_interrogated {commonAddress : JInt}
    (small : commonAddress.toNat < 2 ^ (8 * settings.commonAddressFieldLength)) :
    (interrogated commonAddress).WellShaped settings := by
  refine ⟨rfl, fun _ => Nat.two_pow_pos 8, small, ?_⟩
  refine .sequence [.ieScaledValue, .ieQuality] _ rfl rfl ⟨rfl, rfl⟩ rfl (by decide) ⟨?_, rfl, ?_⟩
  · have range := settings.ioa_range
    exact Nat.one_lt_two_pow (by omega)
  · simp only [InformationObject.SetFits]
    decide

private theorem wellShaped_synchronized {commonAddress originatorAddress : JInt}
    {time : ElementClass.ieTime56.Element}
    (small : commonAddress.toNat < 2 ^ (8 * settings.commonAddressFieldLength))
    (originator : originatorAddress.toNat < 2 ^ 8) :
    ((Command.synchronizeClocks commonAddress time).aSdu originatorAddress).WellShaped settings := by
  have inRange : (Command.synchronizeClocks commonAddress time).InRange settings := by
    refine ⟨rfl, small, Nat.two_pow_pos _, List.forall_mem_singleton.mpr ?_⟩
    obtain ⟨e, isTime⟩ := time
    cases e <;> cases isTime
    trivial
  rw [← Command.standard_eq_aSdu (List.cons_ne_nil _ _)]
  exact inRange.wellShaped originator

/-- A call for a well-shaped ASDU sends an answer to it, or what answers nothing. -/
theorem responds_of_sends {originatorAddress : JInt} {time : ElementClass.ieTime56.Element}
    (shaped : aSdu.WellShaped settings) (originator : originatorAddress.toNat < 2 ^ 8)
    (sends : Sends settings originatorAddress time aSdu answer) :
    answer.WellShaped settings ∧ ¬ Session.IsAnswering answer.causeOfTransmission ∨
      Session.AnswersTo settings aSdu answer := by
  cases sends with
  | confirmation found built => exact .inr (.confirmation _ _ _ shaped.commonAddress found built)
  | termination _ built => exact .inr (.termination _ shaped.commonAddress built)
  | interrogated =>
    exact .inl ⟨wellShaped_interrogated shaped.commonAddress, fun answering => answering⟩
  | synchronized =>
    exact .inl ⟨wellShaped_synchronized shaped.commonAddress originator, fun answering => answering⟩
  | unknown _ built =>
    obtain rfl := Session.eq_answered shaped built
    exact .inl ⟨Session.wellShaped_answered shaped shaped.commonAddress, fun answering => answering⟩

/-- A command is answered by nothing but its confirmation. -/
theorem selects_of_sends {originatorAddress : JInt} {time : ElementClass.ieTime56.Element} {bit : Bool}
    (shaped : aSdu.WellShaped settings) (sends : Sends settings originatorAddress time aSdu answer)
    (known : selects answer = some bit) :
    selects aSdu = some bit ∧ Session.AnswersTo settings aSdu answer := by
  have type := type_of_selects known
  cases sends with
  | confirmation found built =>
    refine ⟨?_, .confirmation _ _ _ shaped.commonAddress found built⟩
    obtain rfl := Session.eq_answered shaped built
    exact known
  | termination other built =>
    obtain rfl := Session.eq_answered shaped built
    exact absurd type other
  | interrogated => cases type
  | synchronized => cases type
  | unknown other built =>
    obtain rfl := Session.eq_answered shaped built
    exact absurd type other

end Selects

section Session

open Session (IsAnswering IsAnswerTo heard Linked Hears)

variable {clientSettings serverSettings : ConnectionSettings} {originatorAddress : JInt}
  {clock : Nat → ElementClass.ieTime56.Element} {session next : Session}

def told (c : Connection) : List ASdu := (heard c).filterMap id

/-- The application of the client answers nothing, that of the server is the sample server. -/
def Serves (clientSettings serverSettings : ConnectionSettings) (originatorAddress : JInt)
    (clock : Nat → ElementClass.ieTime56.Element) (session : Session) :
    Side × Session.StationAction → Prop
  | (.near, .own (.send aSdu)) => aSdu.WellShaped clientSettings ∧ ¬ IsAnswering aSdu.causeOfTransmission
  | (.far, .own (.send aSdu)) =>
    ∃ call ∈ serve serverSettings originatorAddress clock 0 false (told session.server), aSdu ∈ call.2
  | _ => True

/-- The client has sent a command that selects, and later the one that executes. -/
def SelectedFor (clientSettings : ConnectionSettings) (client : Connection) (answer : ASdu) : Prop :=
  ∃ select execute, [some select, some execute].Sublist client.sentASdus ∧ selects select = some true ∧
    selects execute = some false ∧ IsAnswerTo clientSettings execute answer

private theorem map_some_sublist {α : Type} (l : List (Option α)) : ((l.filterMap id).map some).Sublist l := by
  induction l with
  | nil => exact List.Sublist.slnil
  | cons a l ih =>
    cases a with
    | none => exact ih.cons none
    | some a => exact ih.cons_cons (some a)

private theorem pair_of_sublist {α β : Type} {f : α → β} {l : List (Option α)} {a b : β}
    (sublist : [some a, some b].Sublist (l.map (Option.map f))) :
    ∃ x y, [some x, some y].Sublist l ∧ f x = a ∧ f y = b := by
  obtain ⟨pair, sublist, same⟩ := List.sublist_map_iff.mp sublist
  rcases pair with _ | ⟨x, _ | ⟨y, _ | ⟨z, more⟩⟩⟩ <;> simp only [List.map_cons, List.map_nil, List.cons.injEq,
    reduceCtorEq, and_false, and_true] at same
  obtain ⟨x, rfl, first⟩ := Option.map_eq_some_iff.mp same.1.symm
  obtain ⟨y, rfl, second⟩ := Option.map_eq_some_iff.mp same.2.symm
  exact ⟨x, y, sublist, first, second⟩

private theorem request_of_call {client server : Connection} {inFlight : List Octet}
    (hears : Hears clientSettings client server inFlight) {call : ASdu × List ASdu}
    (called : call ∈ serve serverSettings originatorAddress clock 0 false (told server)) :
    some call.1 ∈ heard server ∧
      ∃ request, some request ∈ client.sentASdus ∧ request.received clientSettings = call.1 := by
  have isTold : call.1 ∈ told server := by
    rw [← serve_heard 0 false (told server)]
    exact List.mem_map_of_mem called
  obtain ⟨_, isHeard, found⟩ := List.mem_filterMap.mp isTold
  obtain rfl : _ = some call.1 := found
  exact ⟨isHeard, hears.of_heard isHeard⟩

private theorem selectedFor_of_call (same : clientSettings.SameFields serverSettings) {client server : Connection}
    {inFlight : List Octet} (hears : Hears clientSettings client server inFlight)
    (asks : ∀ request, some request ∈ client.sentASdus →
      request.WellShaped clientSettings ∧ ¬ IsAnswering request.causeOfTransmission)
    {call : ASdu × List ASdu} {answer : ASdu}
    (called : call ∈ serve serverSettings originatorAddress clock 0 false (told server))
    (sent : answer ∈ call.2) (execute : selects answer = some false)
    (answering : IsAnswering answer.causeOfTransmission) :
    SelectedFor clientSettings client answer := by
  obtain ⟨before, after, calls⟩ := List.append_of_mem called
  have order : told server = before.map Prod.fst ++ call.1 :: after.map Prod.fst := by
    rw [← serve_heard 0 false (told server), calls, List.map_append, List.map_cons]
  obtain ⟨time, sends⟩ := serve_sends _ _ _ call called answer sent
  obtain ⟨-, request, asked, received⟩ := request_of_call hears called
  have shaped : call.1.WellShaped serverSettings := received ▸ same.wellShaped (asks request asked).1.received
  obtain ⟨executes, answers⟩ := selects_of_sends shaped sends execute
  -- the last command for the object that was heard before it
  have selected := selected_of_executed 0 false _ calls executes (List.ne_nil_of_mem sent)
  have last : true ∈ false :: (before.map Prod.fst).filterMap selects := by
    rw [← selected]
    exact List.getLastD_mem_cons
  obtain ⟨select, earlier, selecting⟩ := List.mem_filterMap.mp
    ((List.mem_cons.mp last).resolve_left Bool.false_ne_true.symm)
  have inOrder : [some select, some call.1].Sublist
      (client.sentASdus.map (Option.map (ASdu.received clientSettings))) := by
    have pair : [select, call.1].Sublist (told server) := by
      rw [order]
      exact (List.singleton_sublist.mpr earlier).append (List.singleton_sublist.mpr List.mem_cons_self)
    exact (((pair.map some).trans (map_some_sublist _)).trans hears.inOrder).trans
      (client.outgoingASdus_prefix.sublist.map _)
  obtain ⟨first, second, sublist, rfl, secondArrived⟩ := pair_of_sublist inOrder
  have mine := asks second (sublist.subset (by simp))
  refine ⟨first, second, sublist, ?_, ?_, ?_⟩
  · rw [← selects_received clientSettings, selecting]
  · rw [← selects_received clientSettings, secondArrived, executes]
  · exact (Session.isAnswerTo_of_answersTo same mine.1 mine.2 (secondArrived ▸ answers)).2 answering

private theorem SelectedFor.mono {client later : Connection} {answer : ASdu}
    (selected : SelectedFor clientSettings client answer) (more : client.frames <+: later.frames) :
    SelectedFor clientSettings later answer := by
  obtain ⟨select, execute, sublist, known⟩ := selected
  exact ⟨select, execute, sublist.trans (more.filterMap _).sublist, known⟩

/-- What the sample server has sent for executions. -/
private def Selected (clientSettings : ConnectionSettings) (session : Session) : Prop :=
  ∀ answer, some answer ∈ session.server.sentASdus → selects answer = some false →
    IsAnswering answer.causeOfTransmission → SelectedFor clientSettings session.client answer

private theorem selected_step (same : clientSettings.SameFields serverSettings)
    (originator : originatorAddress.toNat < 2 ^ 8)
    (linked : Linked clientSettings serverSettings session.client session.server session.clientTaken
      session.serverTaken) {inFlight : List Octet}
    (hears : Hears clientSettings session.client session.server inFlight)
    (requested : Session.Requested clientSettings session.client session.server)
    (selected : Selected clientSettings session) {action : Side × Session.StationAction}
    (taken : Run.Guarded (Serves clientSettings serverSettings originatorAddress clock)
      (Session.Step clientSettings serverSettings) session action next) :
    Session.Responds clientSettings serverSettings session action ∧ Selected clientSettings next := by
  obtain ⟨serves, taken⟩ := taken
  have asks (request : ASdu) (asked : some request ∈ session.client.sentASdus) :
      request.WellShaped clientSettings ∧ ¬ IsAnswering request.causeOfTransmission :=
    ⟨(linked.mine.sends_of_mem asked).1, requested.asks request asked⟩
  match action with
  | (.near, action) =>
    obtain ⟨⟨d, more⟩, acted, rfl⟩ := Option.map_eq_some_iff.mp taken
    have shaped (aSdu : ASdu) (sent : action = .own (.send aSdu)) : aSdu.WellShaped clientSettings := by
      subst sent
      exact serves.1
    obtain ⟨_, moves⟩ := linked.moves same shaped acted
    obtain ⟨_, traced⟩ := moves.traced
    refine ⟨?_, fun answer member execute answering => ?_⟩
    · rcases action with _ | own
      · trivial
      · cases own <;> trivial
    · exact (selected answer member execute answering).mono traced.before
  | (.far, action) =>
    obtain ⟨⟨d, more⟩, acted, rfl⟩ := Option.map_eq_some_iff.mp taken
    have responds (aSdu : ASdu) (sent : action = .own (.send aSdu)) :
        Session.Responds clientSettings serverSettings session (.far, action) ∧ aSdu.WellShaped serverSettings := by
      subst sent
      obtain ⟨call, called, sent⟩ := serves
      obtain ⟨isHeard, request, asked, received⟩ := request_of_call hears called
      obtain ⟨shaped, other⟩ := asks request asked
      obtain ⟨time, sends⟩ := serve_sends _ _ _ call called aSdu sent
      rcases responds_of_sends (received ▸ same.wellShaped shaped.received) originator sends with plain | answers
      · exact ⟨.inl plain, plain.1⟩
      · exact ⟨.inr ⟨call.1, isHeard, answers⟩,
          (Session.isAnswerTo_of_answersTo same shaped other (received ▸ answers)).1⟩
    obtain ⟨_, moves⟩ := linked.flip.moves same.symm (fun aSdu sent => (responds aSdu sent).2) acted
    obtain ⟨_, traced⟩ := moves.traced
    refine ⟨?_, fun answer member execute answering => ?_⟩
    · rcases action with _ | own
      · trivial
      · cases own <;> first | trivial | exact (responds _ rfl).1
    · rcases (traced.sends_of_mem member).2 with before | rfl
      · exact selected answer before execute answering
      · obtain ⟨call, called, sent⟩ := serves
        exact selectedFor_of_call same hears asks called sent execute answering

/-- Whatever happens between a client and the sample server: a client that hears an execution confirmed
has sent a command that selects the object, and behind it the one that is executed. -/
theorem executes_selected {clientFails serverFails : Nat → Bool} {now : Nat}
    {actions : List (Side × Session.StationAction)} (same : clientSettings.SameFields serverSettings)
    (originator : originatorAddress.toNat < 2 ^ 8)
    (run : Run (Run.Guarded (Serves clientSettings serverSettings originatorAddress clock)
      (Session.Step clientSettings serverSettings))
      (Session.opened clientSettings serverSettings clientFails serverFails now) actions session)
    {answer : ASdu} (isHeard : some answer ∈ heard session.client) (execute : selects answer = some false)
    (answering : IsAnswering answer.causeOfTransmission) :
    SelectedFor clientSettings session.client answer := by
  have none : ∀ aSdu, some aSdu ∉ (Connection.started serverSettings serverFails now).sentASdus :=
    fun _ => List.not_mem_nil
  obtain ⟨responds, selected⟩ := run.reguarded (I := Selected clientSettings)
    (fun answer sent => absurd sent (none answer)) fun _ _ _ _ before selected taken => by
      obtain ⟨shaped, requested⟩ := Session.requested_of_run same before
      have linked := Session.linked_of_run same shaped
      have hears := (linked.arrives same).hears (Session.server_run shaped.unguarded)
      exact selected_step same originator linked hears requested selected taken
  obtain ⟨shaped, -⟩ := Session.requested_of_run same responds
  have linked := Session.linked_of_run same shaped
  have hears := (linked.flip.arrives same.symm).hears (Session.client_run shaped.unguarded)
  obtain ⟨sent, member, rfl⟩ := hears.of_heard isHeard
  rw [selects_received] at execute
  have found := selected sent member execute answering
  obtain ⟨select, command, sublist, selecting, executing, isAnswer⟩ := found
  have shapedCommand := (linked.mine.sends_of_mem (sublist.subset (List.mem_cons_of_mem _
    List.mem_cons_self))).1
  rw [isAnswer.received same shapedCommand]
  exact ⟨select, command, sublist, selecting, executing, isAnswer⟩

section Samples

def sampleFor (select : Bool) : ASdu :=
  (Command.singleCommand 1 (some .activation) 5000 ⟨.ieSingleCommand (if select then 0x81 else 0x01), rfl⟩).aSdu 0

/-- The client selects and executes. -/
def sampleExecution : List (Side × Session.StationAction) :=
  Session.sampleHandshake ++ [(.near, .own (.send (sampleFor true))), (.near, .own (.send (sampleFor false))),
    (.far, .read), (.far, .own .runTask), (.far, .read), (.far, .own .runTask)]

variable (settings : ConnectionSettings)

def sampleConfirmation : ASdu := Connection.answered settings (sampleFor false) 0 .activationCon false

def sampleExecuted : Session :=
  (Session.step settings settings (Session.sampleSession settings sampleExecution)
    (.far, .own (.send (sampleConfirmation settings)))).getD (Session.sampleSession settings sampleExecution)

def sampleConfirmed : Session :=
  (Run.perform (Session.step settings settings) (sampleExecuted settings)
    [(.near, .read), (.near, .own .runTask)]).getD (sampleExecuted settings)

private theorem sampleFor_wellShaped (select : Bool) : (sampleFor select).WellShaped {} := by
  have inRange : (Command.singleCommand 1 (some .activation) 5000
      ⟨.ieSingleCommand (if select then 0x81 else 0x01), rfl⟩).InRange {} := by
    cases select
    · exact ⟨rfl, by decide, by decide, List.forall_mem_singleton.mpr (by decide)⟩
    · exact ⟨rfl, by decide, by decide, List.forall_mem_singleton.mpr (by decide)⟩
  rw [sampleFor, ← Command.standard_eq_aSdu (List.cons_ne_nil _ _)]
  exact inRange.wellShaped (by decide)

def sampleClock (i : Nat) : ElementClass.ieTime56.Element := ⟨.ieTime56 (Vector.replicate 7 (.ofNat 8 i)), rfl⟩

theorem executes_selected_sample :
    some (sampleConfirmation {}) ∈ heard (sampleConfirmed {}).client ∧
    SelectedFor {} (sampleConfirmed {}).client (sampleConfirmation {}) := by
  have first : Run (Run.Guarded (Serves {} {} 0 sampleClock) (Session.Step {} {})) (Session.sampleOpened {})
      sampleExecution (Session.sampleSession {} sampleExecution) := by
    refine (Run.of_perform_getD (by decide +kernel)).guarded_of_mem ?_
    simp only [sampleExecution, Session.sampleHandshake, List.cons_append, List.nil_append, List.forall_mem_cons]
    exact ⟨fun _ => trivial, fun _ => trivial, fun _ => trivial, fun _ => trivial, fun _ => trivial,
      fun _ => trivial, fun _ => trivial, fun _ => ⟨sampleFor_wellShaped true, fun answering => answering⟩,
      fun _ => ⟨sampleFor_wellShaped false, fun answering => answering⟩, fun _ => trivial, fun _ => trivial,
      fun _ => trivial, fun _ => trivial, fun _ none => by cases none⟩
  have serves : Serves {} {} 0 sampleClock (Session.sampleSession {} sampleExecution)
      (.far, .own (.send (sampleConfirmation {}))) := by
    show ∃ call ∈ serve {} 0 sampleClock 0 false (told (Session.sampleSession {} sampleExecution).server),
      sampleConfirmation {} ∈ call.2
    decide +kernel
  have sends : Session.Step {} {} (Session.sampleSession {} sampleExecution)
      (.far, .own (.send (sampleConfirmation {}))) (sampleExecuted {}) := by
    have able : (Session.step {} {} (Session.sampleSession {} sampleExecution)
        (.far, .own (.send (sampleConfirmation {})))).isSome = true := by decide +kernel
    obtain ⟨next, found⟩ := Option.isSome_iff_exists.mp able
    rw [Session.Step, sampleExecuted, found]
    rfl
  have second : Run (Run.Guarded (Serves {} {} 0 sampleClock) (Session.Step {} {})) (sampleExecuted {})
      [(.near, .read), (.near, .own .runTask)] (sampleConfirmed {}) := by
    refine (Run.of_perform_getD (by decide +kernel)).guarded_of_mem ?_
    simp only [List.forall_mem_cons]
    exact ⟨fun _ => trivial, fun _ => trivial, fun _ none => by cases none⟩
  have isHeard : some (sampleConfirmation {}) ∈ heard (sampleConfirmed {}).client := by decide +kernel
  exact ⟨isHeard, executes_selected ⟨rfl, rfl, rfl⟩ (by decide) ((first.next ⟨serves, sends⟩).append second)
    isHeard (by decide +kernel) trivial⟩

end Samples

end Session

end SampleServer

end J60870
