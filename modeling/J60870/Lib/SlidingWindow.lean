import J60870.Lib.Run

/-! A sliding window protocol: two endpoints number what they send, and each frame tells
how much was received so far. The numbers are unbounded here; an implementation that
counts modulo a power of two refines this. -/

namespace Lib

namespace SlidingWindow

structure Endpoint (α : Type) where
  /-- how many frames may be outstanding -/
  window : Nat
  sent : List α := []
  accepted : List α := []
  /-- how many of the sent frames are acknowledged -/
  acknowledged : Nat := 0

inductive Frame (α : Type)
  | information (number received : Nat) (content : α)
  | supervisory (received : Nat)

/-- Two endpoints and the frames on their way, the oldest first. -/
structure Link (α : Type) where
  near : Endpoint α
  far : Endpoint α
  toFar : List (Frame α) := []
  toNear : List (Frame α) := []

/-- What an endpoint can do. -/
inductive Move (α : Type)
  | send (content : α)
  | supervise
  | deliver

inductive Side
  | near | far

def Side.other : Side → Side
  | .near => .far
  | .far => .near

@[simp] theorem Side.other_other (side : Side) : side.other.other = side := by cases side <;> rfl

theorem Side.eq_other {side another : Side} (different : another ≠ side) : another = side.other := by
  cases side <;> cases another <;> first | rfl | exact absurd rfl different

variable {α : Type}

namespace Frame

def received : Frame α → Nat
  | information _ received _ => received
  | supervisory received => received

def number : Frame α → Option Nat
  | information number _ _ => some number
  | supervisory _ => none

def content : Frame α → Option α
  | information _ _ content => some content
  | supervisory _ => none

end Frame

namespace Endpoint

def send (endpoint : Endpoint α) (content : α) : Endpoint α :=
  { endpoint with sent := endpoint.sent ++ [content] }

/-- A frame is taken for the next one, whatever its number is. -/
def deliver (endpoint : Endpoint α) : Frame α → Endpoint α
  | .information _ received content =>
    { endpoint with accepted := endpoint.accepted ++ [content], acknowledged := received }
  | .supervisory received => { endpoint with acknowledged := received }

/-- The frame is the next one, and acknowledges no less than before and no more than was sent. -/
structure Expects (endpoint : Endpoint α) (frame : Frame α) : Prop where
  number : ∀ number, frame.number = some number → number = endpoint.accepted.length
  more : endpoint.acknowledged ≤ frame.received
  received_le : frame.received ≤ endpoint.sent.length
  window : endpoint.sent.length ≤ endpoint.acknowledged + endpoint.window

end Endpoint

namespace Link

def flip (link : Link α) : Link α := ⟨link.far, link.near, link.toNear, link.toFar⟩

/-- A move of the near endpoint. -/
def move (link : Link α) : Move α → Option (Link α)
  | .send content =>
    if link.near.sent.length < link.near.acknowledged + link.near.window then
      some { link with
        near := link.near.send content
        toFar := link.toFar ++
          [.information link.near.sent.length link.near.accepted.length content] }
    else none
  | .supervise => some { link with toFar := link.toFar ++ [.supervisory link.near.accepted.length] }
  | .deliver =>
    match link.toNear with
    | frame :: rest => some { link with near := link.near.deliver frame, toNear := rest }
    | [] => none

def Step (link : Link α) (action : Side × Move α) (next : Link α) : Prop :=
  match action.1 with
  | .near => link.move action.2 = some next
  | .far => link.flip.move action.2 = some next.flip

end Link

namespace Link

variable {link next : Link α}

/-- The endpoints may change places. -/
theorem run_flip {actions : List (Side × Move α)} (run : Run Step link actions next) :
    Run Step link.flip (actions.map fun action => (Side.other action.1, action.2)) next.flip := by
  induction run with
  | start => exact .start
  | @next _ _ _ action before last ih =>
    rw [List.map_append]
    refine ih.next ?_
    obtain ⟨side, move⟩ := action
    cases side <;> exact last

/-- Any number of supervisory frames may be sent at once. -/
theorem run_supervise (link : Link α) (n : Nat) :
    Run Step link (List.replicate n (.near, .supervise))
      { link with
        toFar := link.toFar ++ List.replicate n (.supervisory link.near.accepted.length) } := by
  induction n with
  | zero => simpa using Run.start
  | succ n ih =>
    rw [List.replicate_succ', List.replicate_succ', ← List.append_assoc]
    exact ih.next rfl

/-- A frame may follow supervisory ones. -/
theorem run_send (link : Link α) (n : Nat) (content : α)
    (window : link.near.sent.length < link.near.acknowledged + link.near.window) :
    Run Step link (List.replicate n (.near, .supervise) ++ [(.near, .send content)])
      { link with
        near := link.near.send content
        toFar := link.toFar ++ (List.replicate n (.supervisory link.near.accepted.length) ++
          [.information link.near.sent.length link.near.accepted.length content]) } := by
  refine (link.run_supervise n).next ?_
  rw [← List.append_assoc]
  exact if_pos window

/-- A frame that is delivered may be answered with supervisory ones. -/
theorem run_deliver {frame : Frame α} {rest : List (Frame α)} (waiting : link.toNear = frame :: rest)
    (n : Nat) :
    Run Step link ([(.near, .deliver)] ++ List.replicate n (.near, .supervise))
      { link with
        near := link.near.deliver frame
        toFar := link.toFar ++
          List.replicate n (.supervisory (link.near.deliver frame).accepted.length)
        toNear := rest } := by
  have delivered : Step link (.near, .deliver)
      { link with near := link.near.deliver frame, toNear := rest } := by
    rw [Step, move, waiting]
  exact (Run.single delivered).append (run_supervise _ n)

end Link

/-- The frames on the way from one endpoint to the other continue what the other has
accepted, are numbered by their places, and acknowledge ever more. -/
structure Flow (sender receiver : Endpoint α) (channel : List (Frame α)) : Prop where
  inOrder : receiver.accepted ++ channel.filterMap Frame.content = sender.sent
  numbered : channel.filterMap Frame.number =
    List.range' receiver.accepted.length (channel.filterMap Frame.content).length
  ascending : (channel.map Frame.received).Pairwise (· ≤ ·)
  between : ∀ frame ∈ channel,
    receiver.acknowledged ≤ frame.received ∧ frame.received ≤ sender.accepted.length
  acknowledged_le : receiver.acknowledged ≤ sender.accepted.length

namespace Flow

variable {sender receiver : Endpoint α} {channel rest : List (Frame α)} {frame : Frame α}

theorem start {window window' : Nat} : Flow (α := α) ⟨window, [], [], 0⟩ ⟨window', [], [], 0⟩ [] := by
  constructor <;> simp

private theorem emit (flow : Flow sender receiver channel) (frame : Frame α)
    (latest : frame.received = sender.accepted.length) :
    ((channel ++ [frame]).map Frame.received).Pairwise (· ≤ ·) ∧
    ∀ other ∈ channel ++ [frame],
      receiver.acknowledged ≤ other.received ∧ other.received ≤ sender.accepted.length := by
  -- A frame that acknowledges all there is to acknowledge may follow.
  obtain ⟨-, -, ascending, between, acknowledged_le⟩ := flow
  constructor
  · rw [List.map_append, List.map_singleton, List.pairwise_append]
    refine ⟨ascending, List.pairwise_singleton _ _, fun number earlier last member => ?_⟩
    obtain ⟨other, inside, rfl⟩ := List.mem_map.mp earlier
    rw [List.mem_singleton.mp member, latest]
    exact (between other inside).2
  · intro other member
    rcases List.mem_append.mp member with inside | last
    · exact between other inside
    · rw [List.mem_singleton.mp last, latest]
      exact ⟨acknowledged_le, Nat.le_refl _⟩

theorem supervise (flow : Flow sender receiver channel) :
    Flow sender receiver (channel ++ [.supervisory sender.accepted.length]) := by
  obtain ⟨ascending, between⟩ := flow.emit (.supervisory sender.accepted.length) rfl
  constructor
  · simpa [Frame.content, List.filterMap_cons] using flow.inOrder
  · simpa [Frame.content, Frame.number, List.filterMap_cons] using flow.numbered
  · exact ascending
  · exact between
  · exact flow.acknowledged_le

theorem send (flow : Flow sender receiver channel) (content : α) :
    Flow (sender.send content) receiver
      (channel ++ [.information sender.sent.length sender.accepted.length content]) := by
  obtain ⟨ascending, between⟩ :=
    flow.emit (.information sender.sent.length sender.accepted.length content) rfl
  constructor
  · simp [Frame.content, Endpoint.send, ← flow.inOrder]
  · simp [Frame.content, Frame.number, flow.numbered, ← flow.inOrder, List.range'_concat]
  · exact ascending
  · exact between
  · exact flow.acknowledged_le

/-- The head of a channel carries the number its receiver expects. -/
theorem expected {number received : Nat} {content : α}
    (flow : Flow sender receiver (.information number received content :: rest)) :
    number = receiver.accepted.length := by
  have numbered := flow.numbered
  rw [List.filterMap_cons, List.filterMap_cons] at numbered
  exact (List.cons.inj numbered).1

theorem deliver (flow : Flow sender receiver (frame :: rest)) :
    Flow sender (receiver.deliver frame) rest := by
  obtain ⟨inOrder, numbered, ascending, between, -⟩ := flow
  rw [List.map_cons, List.pairwise_cons] at ascending
  obtain ⟨first, ascending⟩ := ascending
  have between' : ∀ other ∈ rest, frame.received ≤ other.received ∧
      other.received ≤ sender.accepted.length := fun other member =>
    ⟨first _ (List.mem_map_of_mem member), (between other (List.mem_cons_of_mem _ member)).2⟩
  have acknowledged_le := (between frame List.mem_cons_self).2
  cases frame with
  | information number received content =>
    rw [List.filterMap_cons] at inOrder numbered
    constructor
    · simpa [Endpoint.deliver, Frame.content] using inOrder
    · rw [List.filterMap_cons] at numbered
      simpa [Endpoint.deliver] using (List.cons.inj numbered).2
    · exact ascending
    · exact between'
    · exact acknowledged_le
  | supervisory received => exact ⟨inOrder, numbered, ascending, between', acknowledged_le⟩

/-- What the receiver sends goes the other way. -/
theorem answer (flow : Flow sender receiver channel) (content : α) :
    Flow sender (receiver.send content) channel :=
  ⟨flow.inOrder, flow.numbered, flow.ascending, flow.between, flow.acknowledged_le⟩

/-- What the sender receives can only add to what it acknowledges. -/
theorem received (flow : Flow sender receiver channel) (frame : Frame α) :
    Flow (sender.deliver frame) receiver channel := by
  obtain ⟨inOrder, numbered, ascending, between, acknowledged_le⟩ := flow
  have more : sender.accepted.length ≤ (sender.deliver frame).accepted.length := by
    cases frame <;> simp [Endpoint.deliver]
  constructor
  · cases frame <;> exact inOrder
  · exact numbered
  · exact ascending
  · exact fun other member => ⟨(between other member).1, Nat.le_trans (between other member).2 more⟩
  · exact Nat.le_trans acknowledged_le more

end Flow

/-- Both directions flow, and both windows are respected. -/
structure Link.Valid (link : Link α) : Prop where
  toFar : Flow link.near link.far link.toFar
  toNear : Flow link.far link.near link.toNear
  nearWindow : link.near.sent.length ≤ link.near.acknowledged + link.near.window
  farWindow : link.far.sent.length ≤ link.far.acknowledged + link.far.window

namespace Link.Valid

variable {link next : Link α}

theorem start (nearWindow farWindow : Nat) :
    Link.Valid (α := α) { near := { window := nearWindow }, far := { window := farWindow } } :=
  ⟨.start, .start, Nat.zero_le _, Nat.zero_le _⟩

theorem flip (valid : link.Valid) : link.flip.Valid :=
  ⟨valid.toNear, valid.toFar, valid.farWindow, valid.nearWindow⟩

/-- A frame that comes in acknowledges frames that were sent, and none that was not
accepted. -/
theorem acknowledges {frame : Frame α} (valid : link.Valid) (member : frame ∈ link.toNear) :
    link.near.acknowledged ≤ frame.received ∧ frame.received ≤ link.far.accepted.length :=
  valid.toNear.between frame member

theorem accepted_le (valid : link.Valid) : link.far.accepted.length ≤ link.near.sent.length := by
  rw [← valid.toFar.inOrder, List.length_append]
  exact Nat.le_add_right _ _

/-- What waits for an endpoint is what it expects. -/
theorem expects {frame : Frame α} {rest : List (Frame α)} (valid : link.Valid)
    (waiting : link.toNear = frame :: rest) : link.near.Expects frame := by
  have flow := valid.toNear
  rw [waiting] at flow
  have between := flow.between frame List.mem_cons_self
  refine ⟨fun number has => ?_, between.1, Nat.le_trans between.2 valid.accepted_le, valid.nearWindow⟩
  cases frame with
  | information _ received content =>
    cases has
    exact flow.expected
  | supervisory received => cases has

theorem move {move : Move α} (valid : link.Valid) (moved : link.move move = some next) :
    next.Valid := by
  cases move with
  | send content =>
    obtain ⟨window, ⟨⟩⟩ := Option.ite_none_right_eq_some.mp moved
    refine ⟨valid.toFar.send content, valid.toNear.answer content, ?_, valid.farWindow⟩
    simpa [Endpoint.send] using Nat.succ_le_of_lt window
  | supervise =>
    cases moved
    exact ⟨valid.toFar.supervise, valid.toNear, valid.nearWindow, valid.farWindow⟩
  | deliver =>
    cases waiting : link.toNear with
    | nil =>
      rw [Link.move, waiting] at moved
      cases moved
    | cons frame rest =>
      rw [Link.move, waiting] at moved
      cases moved
      have flow := valid.toNear
      rw [waiting] at flow
      refine ⟨valid.toFar.received frame, flow.deliver, ?_, valid.farWindow⟩
      have more := (flow.between frame List.mem_cons_self).1
      have window := valid.nearWindow
      cases frame with
      | information number received content => exact Nat.le_trans window (Nat.add_le_add_right more _)
      | supervisory received => exact Nat.le_trans window (Nat.add_le_add_right more _)

theorem step {action : Side × Move α} (valid : link.Valid) (taken : link.Step action next) :
    next.Valid := by
  obtain ⟨side, made⟩ := action
  cases side with
  | near => exact valid.move taken
  | far => exact (valid.flip.move taken).flip

theorem of_run {actions : List (Side × Move α)} (valid : link.Valid)
    (run : Run Step link actions next) : next.Valid :=
  run.invariant valid fun _ _ _ valid taken => valid.step taken

end Link.Valid

end SlidingWindow

end Lib
