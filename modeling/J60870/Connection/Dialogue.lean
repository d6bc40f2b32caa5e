import J60870.Connection.Mirroring
import J60870.Connection.Session

namespace J60870

open Lib Method

open SlidingWindow (Side)

section Received

theorem InformationElement.getClass_received (e : InformationElement) : e.received.getClass = e.getClass := by
  cases e <;> rfl

theorem InformationElement.InRange.received {e : InformationElement} (inRange : e.InRange) :
    e.received.InRange ∧ e.received.received = e.received := by
  cases e with
  | ieFileSegment segment offset length =>
    obtain ⟨inside, small⟩ := inRange
    have size : (window segment offset length).length = length.toNat := by
      rw [window_length inside, BitVec.toInt_eq_toNat_of_lt (by omega)]
      rfl
    obtain ⟨whole, same⟩ := whole_segment small size
    exact ⟨⟨whole, small⟩, congrArg (fun segment => InformationElement.ieFileSegment segment 0 length) same⟩
  | _ => exact ⟨inRange, rfl⟩

namespace InformationObject

theorem SetFits.received {set : List ElementClass} {row : List InformationElement} (fits : SetFits set row) :
    SetFits set (receivedSet row) := by
  obtain ⟨classes, inRange⟩ := fits
  refine ⟨?_, List.forall_mem_map.mpr fun e member => (inRange e member).received.1⟩
  rw [← classes, receivedSet, List.map_map]
  exact List.map_congr_left fun e _ => e.getClass_received

theorem SetsFit.received {count : Nat} {sets : List (List InformationElement)} {layout : SetLayout}
    (fits : SetsFit count sets layout) : SetsFit count (sets.map receivedSet) layout := by
  cases layout with
  | looped set =>
    obtain ⟨rfl, rows⟩ := fits
    exact ⟨List.length_map _, List.forall_mem_map.mpr fun row member => (rows row member).received⟩
  | single set =>
    obtain ⟨row, rfl, fits⟩ := fits
    exact ⟨_, rfl, fits.received⟩
  | empty =>
    obtain rfl := fits
    rfl

theorem Fits.received {settings : ConnectionSettings} {count : Nat} {layout : SetLayout}
    {object : InformationObject} (fits : object.Fits settings count layout) :
    object.received.Fits settings count layout ∧ object.received.received = object.received := by
  obtain ⟨address, sets⟩ := fits
  refine ⟨⟨address, sets.received⟩, ?_⟩
  simp only [InformationObject.received, List.map_map, InformationObject.mk.injEq, true_and]
  refine List.map_congr_left fun row present => ?_
  rw [Function.comp_apply, receivedSet, receivedSet, List.map_map]
  exact List.map_congr_left fun e member => (sets.inRange row present e member).received.2

end InformationObject

namespace ASdu

variable {settings : ConnectionSettings} {aSdu : ASdu}

theorem WellShaped.received (shaped : aSdu.WellShaped settings) : (aSdu.received settings).WellShaped settings := by
  obtain ⟨cause, originatorAddress, commonAddress, contents⟩ := shaped
  refine ⟨cause, fun two => ?_, commonAddress, ?_⟩
  · rw [ASdu.received, if_pos two]
    exact originatorAddress two
  · cases contents with
    | objects layout objects found single contents count few fit =>
      refine .objects layout (objects.map InformationObject.received) found single ?_ ?_ ?_ ?_
      · simp [ASdu.received, contents]
      · rw [List.length_map]
        exact count
      · rwa [List.length_map]
      · exact List.forall_mem_map.mpr fun object member => (fit object member).received.1
    | sequence set object found sequence contents count few fit =>
      have length : object.received.informationElements.length = object.informationElements.length :=
        List.length_map _
      refine .sequence set object.received found sequence ?_ ?_ ?_ ?_
      · simp [ASdu.received, contents]
      · rw [length]
        exact count
      · rwa [length]
      · rw [length]
        exact fit.received.1
    | privateInformation id bytes type contents few =>
      refine .privateInformation id bytes type ?_ few
      simp [ASdu.received, contents]

theorem WellShaped.received_received (shaped : aSdu.WellShaped settings) :
    (aSdu.received settings).informationObjects.map (List.map InformationObject.received) =
      (aSdu.received settings).informationObjects := by
  cases shaped.contents with
  | objects layout objects found single contents count few fit =>
    simp only [ASdu.received, contents, Option.map_some, List.map_map, Option.some.injEq]
    exact List.map_congr_left fun object member => (fit object member).received.2
  | sequence set object found sequence contents count few fit =>
    simp only [ASdu.received, contents, Option.map_some, List.map_cons, List.map_nil, fit.received.2]
  | privateInformation id bytes type contents few => simp [ASdu.received, contents]

end ASdu

end Received

namespace Session

open Connection

variable {clientSettings serverSettings : ConnectionSettings} {session next : Session}

/-- The causes of confirmations and terminations. -/
def IsAnswering : Option CauseOfTransmission → Prop
  | some .activationCon | some .deactivationCon | some .activationTermination => True
  | _ => False

def heard (c : Connection) : List (Option ASdu) := c.events.filterMap passedOn

/-- `sendConfirmation` or `sendActivationTermination` sends the answer for an ASDU. -/
inductive AnswersTo (settings : ConnectionSettings) (aSdu answer : ASdu) : Prop
  | confirmation (stationAddress : JInt) (isNegativeConfirm : Bool) (cot : CauseOfTransmission)
      (station : stationAddress.toNat < 2 ^ (8 * settings.commonAddressFieldLength))
      (found : cotFrom aSdu = .ok cot)
      (built : mirrorOf settings aSdu stationAddress cot isNegativeConfirm = .ok answer)
  | termination (stationAddress : JInt)
      (station : stationAddress.toNat < 2 ^ (8 * settings.commonAddressFieldLength))
      (built : mirrorOf settings aSdu stationAddress .activationTermination aSdu.negativeConfirm = .ok answer)

/-- What the client sends answers nothing. The server answers what its listener is given; all else that
it sends answers nothing. -/
def Responds (clientSettings serverSettings : ConnectionSettings) (session : Session) :
    Side × StationAction → Prop
  | (.near, .own (.send aSdu)) => aSdu.WellShaped clientSettings ∧ ¬ IsAnswering aSdu.causeOfTransmission
  | (.far, .own (.send aSdu)) =>
    aSdu.WellShaped serverSettings ∧ ¬ IsAnswering aSdu.causeOfTransmission ∨
      ∃ request, some request ∈ heard session.server ∧ AnswersTo serverSettings request aSdu
  | _ => True

/-- The answer, as the client sees it, is that of this request. -/
def IsAnswerTo (settings : ConnectionSettings) (request answer : ASdu) : Prop :=
  ∃ stationAddress cot isNegativeConfirm,
    stationAddress.toNat < 2 ^ (8 * settings.commonAddressFieldLength) ∧
    answer = answered settings (request.received settings) stationAddress cot isNegativeConfirm ∧
    (cot = .activationCon → request.causeOfTransmission = some .activation) ∧
    (cot = .deactivationCon → request.causeOfTransmission = some .deactivation)

section Answers

variable {settings other : ConnectionSettings} {aSdu answer : ASdu} {stationAddress : JInt}
  {cot : CauseOfTransmission} {isNegativeConfirm : Bool}

/-- The answer to a well-shaped ASDU. -/
theorem eq_answered (shaped : aSdu.WellShaped settings)
    (built : mirrorOf settings aSdu stationAddress cot isNegativeConfirm = .ok answer) :
    answer = answered settings aSdu stationAddress cot isNegativeConfirm := by
  cases shaped.contents with
  | objects layout objects found single contents count few fit =>
    obtain ⟨held, none⟩ := contents
    simp only [mirrorOf, held, ASdu.standardized, single] at built
    obtain rfl := Except.ok.inj built
    simp [answered, held, none, single, count]
  | sequence set object found sequence contents count few fit =>
    obtain ⟨held, none⟩ := contents
    simp only [mirrorOf, held, ASdu.standardized, sequence] at built
    obtain rfl := Except.ok.inj built
    simp [answered, held, none, sequence, count]
  | privateInformation id bytes type contents few =>
    rw [mirrorOf, contents.1] at built
    cases built

/-- It is well shaped as well. -/
theorem wellShaped_answered (shaped : aSdu.WellShaped settings)
    (station : stationAddress.toNat < 2 ^ (8 * settings.commonAddressFieldLength)) :
    (answered settings aSdu stationAddress cot isNegativeConfirm).WellShaped settings := by
  obtain ⟨cause, originatorAddress, commonAddress, contents⟩ := shaped
  refine ⟨rfl, originatorAddress, ?_, ?_⟩
  · simp only [answered, setCommonAddress]
    split
    · exact station
    · exact commonAddress
  · cases contents with
    | objects layout objects found single contents count few fit =>
      exact .objects layout objects found single contents count few fit
    | sequence set object found sequence contents count few fit =>
      exact .sequence set object found sequence contents count few fit
    | privateInformation id bytes type contents few => exact .privateInformation id bytes type contents few

theorem received_answered (shaped : aSdu.WellShaped settings) :
    (answered settings (aSdu.received settings) stationAddress cot isNegativeConfirm).received settings =
      answered settings (aSdu.received settings) stationAddress cot isNegativeConfirm := by
  have objects := shaped.received_received
  have originator : (if settings.cotFieldLength = 2 then (aSdu.received settings).originatorAddress else -1) =
      (aSdu.received settings).originatorAddress := by
    rw [ASdu.received]
    split <;> rfl
  generalize aSdu.received settings = received at objects originator ⊢
  simp only [ASdu.received, answered, objects, originator]

theorem answered_congr (same : settings.SameFields other) :
    answered other aSdu stationAddress cot isNegativeConfirm =
      answered settings aSdu stationAddress cot isNegativeConfirm := by
  rw [answered, answered, setCommonAddress, setCommonAddress, broadcastAddress, broadcastAddress,
    same.commonAddress]

end Answers

/-- The client answers nothing, and the server only what the client has sent. -/
structure Requested (clientSettings : ConnectionSettings) (client server : Connection) : Prop where
  asks : ∀ request, some request ∈ client.sentASdus → ¬ IsAnswering request.causeOfTransmission
  answers : ∀ answer, some answer ∈ server.sentASdus → IsAnswering answer.causeOfTransmission →
    ∃ request, some request ∈ client.sentASdus ∧ IsAnswerTo clientSettings request answer

theorem Hears.of_heard {settings : ConnectionSettings} {sender receiver : Connection} {inFlight : List Octet}
    (hears : Hears settings sender receiver inFlight) {aSdu : ASdu} (told : some aSdu ∈ heard receiver) :
    ∃ sent, some sent ∈ sender.sentASdus ∧ sent.received settings = aSdu := by
  obtain ⟨_, member, arrived⟩ := List.mem_map.mp (hears.inOrder.subset told)
  obtain ⟨sent, rfl, same⟩ := Option.map_eq_some_iff.mp arrived
  exact ⟨sent, sender.outgoingASdus_prefix.subset member, same⟩

/-- An answer that the server sends is one for a request of the client, and keeps its cause. -/
theorem isAnswerTo_of_answersTo {request answer : ASdu} (same : clientSettings.SameFields serverSettings)
    (shaped : request.WellShaped clientSettings) (asks : ¬ IsAnswering request.causeOfTransmission)
    (answers : AnswersTo serverSettings (request.received clientSettings) answer) :
    answer.WellShaped serverSettings ∧
      (IsAnswering answer.causeOfTransmission → IsAnswerTo clientSettings request answer) := by
  have received := same.wellShaped shaped.received
  cases answers with
  | confirmation stationAddress isNegativeConfirm cot station found built =>
    obtain rfl := eq_answered received built
    refine ⟨wellShaped_answered received station, fun answering => ?_⟩
    rw [same.commonAddress] at station
    refine ⟨stationAddress, cot, isNegativeConfirm, station, answered_congr same, ?_⟩
    have cause : (request.received clientSettings).causeOfTransmission = request.causeOfTransmission := rfl
    rw [cotFrom, cause] at found
    rcases sent : request.causeOfTransmission with _ | cause
    · rw [sent] at found
      cases found
    · rw [sent] at found asks
      cases cause <;> cases found <;> simp_all [IsAnswering, answered]
  | termination stationAddress station built =>
    obtain rfl := eq_answered received built
    refine ⟨wellShaped_answered received station, fun _ => ?_⟩
    rw [same.commonAddress] at station
    exact ⟨stationAddress, _, _, station, answered_congr same, by simp, by simp⟩

private theorem requested_step (same : clientSettings.SameFields serverSettings)
    (linked : Linked clientSettings serverSettings session.client session.server session.clientTaken
      session.serverTaken)
    (told : ∀ aSdu, some aSdu ∈ heard session.server →
      ∃ sent, some sent ∈ session.client.sentASdus ∧ sent.received clientSettings = aSdu)
    (requested : Requested clientSettings session.client session.server) {action : Side × StationAction}
    (taken : Run.Guarded (Responds clientSettings serverSettings) (Step clientSettings serverSettings)
      session action next) :
    SendsShaped clientSettings serverSettings session action ∧
      Requested clientSettings next.client next.server := by
  obtain ⟨asks, answers⟩ := requested
  obtain ⟨responds, taken⟩ := taken
  match action with
  | (.near, action) =>
    obtain ⟨⟨d, more⟩, acted, rfl⟩ := Option.map_eq_some_iff.mp taken
    have shaped (aSdu : ASdu) (sent : action = .own (.send aSdu)) : aSdu.WellShaped clientSettings ∧
        ¬ IsAnswering aSdu.causeOfTransmission := by
      subst sent
      exact responds
    obtain ⟨_, moves⟩ := linked.moves same (fun aSdu sent => (shaped aSdu sent).1) acted
    obtain ⟨_, traced⟩ := moves.traced
    refine ⟨?_, fun request member => ?_, fun answer member answering => ?_⟩
    · rcases action with _ | own
      · trivial
      · cases own <;> first | trivial | exact responds.1
    · rcases (traced.sends_of_mem member).2 with before | now
      · exact asks request before
      · exact (shaped request now).2
    · obtain ⟨request, sent, isAnswer⟩ := answers answer member answering
      exact ⟨request, (traced.before.filterMap _).subset sent, isAnswer⟩
  | (.far, action) =>
    obtain ⟨⟨d, more⟩, acted, rfl⟩ := Option.map_eq_some_iff.mp taken
    have shaped (aSdu : ASdu) (sent : action = .own (.send aSdu)) : aSdu.WellShaped serverSettings ∧
        (IsAnswering aSdu.causeOfTransmission →
          ∃ request, some request ∈ session.client.sentASdus ∧ IsAnswerTo clientSettings request aSdu) := by
      subst sent
      rcases responds with ⟨shaped, other⟩ | ⟨_, isHeard, answersTo⟩
      · exact ⟨shaped, fun answering => absurd answering other⟩
      · obtain ⟨request, sent, rfl⟩ := told _ isHeard
        obtain ⟨shaped, isAnswer⟩ := isAnswerTo_of_answersTo same
          (linked.mine.sends_of_mem sent).1 (asks request sent) answersTo
        exact ⟨shaped, fun answering => ⟨request, sent, isAnswer answering⟩⟩
    obtain ⟨_, moves⟩ := linked.flip.moves same.symm (fun aSdu sent => (shaped aSdu sent).1) acted
    obtain ⟨_, traced⟩ := moves.traced
    refine ⟨?_, asks, fun answer member answering => ?_⟩
    · rcases action with _ | own
      · trivial
      · cases own <;> first | trivial | exact (shaped _ rfl).1
    · rcases (traced.sends_of_mem member).2 with before | now
      · exact answers answer before answering
      · exact (shaped answer now).2 answering

/-- Such a session sends well-shaped ASDUs only. -/
theorem requested_of_run {clientFails serverFails : Nat → Bool} {now : Nat}
    {actions : List (Side × StationAction)} (same : clientSettings.SameFields serverSettings)
    (run : Run (Run.Guarded (Responds clientSettings serverSettings) (Step clientSettings serverSettings))
      (opened clientSettings serverSettings clientFails serverFails now) actions session) :
    Run (Run.Guarded (SendsShaped clientSettings serverSettings) (Step clientSettings serverSettings))
        (opened clientSettings serverSettings clientFails serverFails now) actions session ∧
      Requested clientSettings session.client session.server := by
  have none (settings : ConnectionSettings) (ioFails : Nat → Bool) (aSdu : ASdu) :
      some aSdu ∉ (started settings ioFails now).sentASdus := List.not_mem_nil
  have begun : Requested clientSettings (started clientSettings clientFails now)
      (started serverSettings serverFails now) :=
    ⟨fun _ sent => absurd sent (none _ _ _), fun _ sent => absurd sent (none _ _ _)⟩
  refine run.reguarded (I := fun session => Requested clientSettings session.client session.server) begun ?_
  intro _ _ _ _ before requested taken
  have linked := linked_of_run same before
  have hears := (linked.arrives same).hears (server_run before.unguarded)
  exact requested_step same linked (fun _ told => hears.of_heard told) requested taken

theorem IsAnswerTo.received {request answer : ASdu} (same : clientSettings.SameFields serverSettings)
    (shaped : request.WellShaped clientSettings) (isAnswer : IsAnswerTo clientSettings request answer) :
    answer.received serverSettings = answer := by
  obtain ⟨_, _, _, _, rfl, _⟩ := isAnswer
  rw [same.received, received_answered shaped]

/-- Every confirmation and every termination that a client hears is the answer to a request it has
sent: to that type and those objects, with the cause that belongs to its cause. -/
theorem answers_requested {clientFails serverFails : Nat → Bool} {now : Nat}
    {actions : List (Side × StationAction)} (same : clientSettings.SameFields serverSettings)
    (run : Run (Run.Guarded (Responds clientSettings serverSettings) (Step clientSettings serverSettings))
      (opened clientSettings serverSettings clientFails serverFails now) actions session) {answer : ASdu}
    (told : some answer ∈ heard session.client) (answering : IsAnswering answer.causeOfTransmission) :
    ∃ request, some request ∈ session.client.sentASdus ∧ IsAnswerTo clientSettings request answer := by
  obtain ⟨shaped, -, answers⟩ := requested_of_run same run
  have linked := linked_of_run same shaped
  have hears := (linked.flip.arrives same.symm).hears (client_run shaped.unguarded)
  obtain ⟨sent, member, rfl⟩ := hears.of_heard told
  obtain ⟨request, asked, isAnswer⟩ := answers sent member answering
  rw [isAnswer.received same (linked.mine.sends_of_mem asked).1]
  exact ⟨request, asked, isAnswer⟩

section Samples

variable (settings : ConnectionSettings)

def sampleAnswer : ASdu := answered settings (sampleCommand.received settings) 0 .activationCon false

def sampleAnswered : Session :=
  (step settings settings (sampleSession settings sampleActions)
    (.far, .own (.send (sampleAnswer settings)))).getD (sampleSession settings sampleActions)

def sampleTold : Session :=
  (Run.perform (step settings settings) (sampleAnswered settings)
    [(.near, .read), (.near, .own .runTask)]).getD (sampleAnswered settings)

theorem answers_requested_sample :
    some (sampleAnswer {}) ∈ heard (sampleTold {}).client ∧
    ∃ request, some request ∈ (sampleTold {}).client.sentASdus ∧ IsAnswerTo {} request (sampleAnswer {}) := by
  have first : Run (Run.Guarded (Responds {} {}) (Step {} {})) (sampleOpened {}) sampleActions
      (sampleSession {} sampleActions) := by
    refine (Run.of_perform_getD sample_performs).guarded_of_mem ?_
    simp only [sampleActions, sampleHandshake, List.cons_append, List.nil_append, List.forall_mem_cons]
    exact ⟨fun _ => trivial, fun _ => trivial, fun _ => trivial, fun _ => trivial, fun _ => trivial,
      fun _ => trivial, fun _ => trivial,
      fun _ => ⟨sampleCommand_wellShaped, fun answering => answering⟩, fun _ => trivial,
      fun _ => trivial, fun _ none => by cases none⟩
  have isHeard : some sampleCommand ∈ heard (sampleSession {} sampleActions).server := by decide +kernel
  have answers : AnswersTo {} sampleCommand (sampleAnswer {}) :=
    .confirmation 0 false .activationCon (by decide) rfl rfl
  have responds : Responds {} {} (sampleSession {} sampleActions) (.far, .own (.send (sampleAnswer {}))) :=
    Or.inr ⟨_, isHeard, answers⟩
  have sends : Step {} {} (sampleSession {} sampleActions) (.far, .own (.send (sampleAnswer {})))
      (sampleAnswered {}) := by
    have able : (step {} {} (sampleSession {} sampleActions)
        (.far, .own (.send (sampleAnswer {})))).isSome = true := by decide +kernel
    obtain ⟨t, found⟩ := Option.isSome_iff_exists.mp able
    rw [Step, sampleAnswered, found]
    rfl
  have second : Run (Run.Guarded (Responds {} {}) (Step {} {})) (sampleAnswered {})
      [(.near, .read), (.near, .own .runTask)] (sampleTold {}) := by
    refine (Run.of_perform_getD (by decide +kernel)).guarded_of_mem ?_
    simp only [List.forall_mem_cons]
    exact ⟨fun _ => trivial, fun _ => trivial, fun _ none => by cases none⟩
  have told : some (sampleAnswer {}) ∈ heard (sampleTold {}).client := by decide +kernel
  exact ⟨told, answers_requested ⟨rfl, rfl, rfl⟩ ((first.next ⟨responds, sends⟩).append second) told trivial⟩

end Samples

end Session

end J60870
