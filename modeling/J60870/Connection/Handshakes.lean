import J60870.Connection.Delivery

/-! The calls of `startDataTransfer` and `stopDataTransfer` with the latches they wait
for, as a machine of their own. Every call makes a latch of its own, and a confirmation
counts down whatever latch the field holds then. -/

namespace J60870

open Lib Method

/-- What a call requests and the peer confirms. -/
inductive Request
  | start | stop
  deriving DecidableEq

def Request.confirmation : Request → ApciType
  | .start => .STARTDT_CON
  | .stop => .STOPDT_CON

namespace Call

/-- The request a call has written and waits for. -/
def waitsFor : Call → Option Request
  | .startWritten _ | .startAwaiting .. => some .start
  | .stopWritten | .stopAwaiting _ => some .stop
  | _ => none

def latch : Call → Option Nat
  | .startAwaiting _ latch | .stopAwaiting latch => some latch
  | _ => none

/-- The request a call is about to return from. -/
def returnsFrom : Call → Option Request
  | .startRegistering _ => some .start
  | .stopFinishing => some .stop
  | _ => none

theorem latch_of_not_waiting {call : Call} (waits : call.waitsFor = none) : call.latch = none := by
  cases call <;> first | rfl | cases waits

end Call

def Event.returnedBy : Event → Option Nat
  | .returned thread => some thread
  | _ => none

@[ext] structure Handshakes where
  calls : Nat → Call
  /-- the latch objects the fields hold -/
  signal : Request → Option Nat
  latches : Nat
  countedDown : List Nat
  /-- the threads whose calls have returned -/
  returned : List Nat

namespace Handshakes

inductive Change
  /-- a thread makes a latch and writes its request; `call` is how it goes on -/
  | requested (thread : Nat) (request : Request) (call : Call)
  | confirmed (request : Request)
  /-- a call goes on, or ends with an exception -/
  | moved (thread : Nat) (call : Call)
  | returned (thread : Nat)

def after (h : Handshakes) : Change → Handshakes
  | .requested thread request call =>
    { h with
      calls := Function.update h.calls thread call
      signal := Function.update h.signal request (some h.latches)
      latches := h.latches + 1 }
  | .confirmed request => { h with countedDown := (h.signal request).toList ++ h.countedDown }
  | .moved thread call => { h with calls := Function.update h.calls thread call }
  | .returned thread =>
    { h with
      calls := Function.update h.calls thread .idle
      returned := h.returned ++ [thread] }

def Change.confirms : Change → Option Request
  | .confirmed request => some request
  | _ => none

def Change.requests : Change → Option (Nat × Request)
  | .requested thread request _ => some (thread, request)
  | _ => none

/-- How a call may go on: it looks up its latch, it is woken by it, or it is on neither
side of the waiting. -/
inductive Moves (h : Handshakes) (before : Call) : Call → Prop
  | aside {call : Call} (waits : call.waitsFor = none) (returns : call.returnsFrom = none) :
    Moves h before call
  | looks {call : Call} {request : Request} {latch : Nat} (written : before.waitsFor = some request)
    (field : h.signal request = some latch) (waits : call.waitsFor = some request)
    (awaits : call.latch = some latch) (returns : call.returnsFrom = none) : Moves h before call
  | wakes {call : Call} {request : Request} {latch : Nat} (waited : before.waitsFor = some request)
    (awaited : before.latch = some latch) (down : latch ∈ h.countedDown) (waits : call.waitsFor = none)
    (returns : call.returnsFrom = some request) : Moves h before call

/-- The changes that can happen. -/
def Allows (h : Handshakes) : Change → Prop
  | .requested _ request call =>
    (call.waitsFor = none ∨ call.waitsFor = some request) ∧ call.latch = none ∧ call.returnsFrom = none
  | .confirmed _ => True
  | .moved thread call => h.Moves (h.calls thread) call
  | .returned thread => (h.calls thread).returnsFrom ≠ none

/-- The latches are told apart. -/
structure Numbered (h : Handshakes) : Prop where
  signal_lt : ∀ request latch, h.signal request = some latch → latch < h.latches
  countedDown_lt : ∀ latch ∈ h.countedDown, latch < h.latches
  signal_ne : ∀ request other latch, h.signal request = some latch → h.signal other = some latch → request = other
  awaited_lt : ∀ thread latch, (h.calls thread).latch = some latch → latch < h.latches
  awaited_ne : ∀ thread other latch, (h.calls thread).latch = some latch → h.signal other = some latch →
    (h.calls thread).waitsFor = some other

/-- Since the thread has written the request, nobody has confirmed it. -/
structure Unconfirmed (h : Handshakes) (request : Request) (thread : Nat) : Prop where
  returns : (h.calls thread).returnsFrom ≠ some request
  signal : (h.calls thread).waitsFor = some request →
    ∀ latch, h.signal request = some latch → latch ∉ h.countedDown
  awaited : (h.calls thread).waitsFor = some request →
    ∀ latch, (h.calls thread).latch = some latch → latch ∉ h.countedDown

variable {h : Handshakes}

namespace Numbered

private theorem requested (numbered : h.Numbered) {thread : Nat} {request : Request} {call : Call}
    (awaits : call.latch = none) : (h.after (.requested thread request call)).Numbered where
  signal_lt other latch field := by
    simp only [after, Function.update_apply] at field ⊢
    split at field
    · cases field
      exact Nat.lt_succ_self _
    · exact Nat.lt_succ_of_lt (numbered.signal_lt other latch field)
  countedDown_lt latch down := Nat.lt_succ_of_lt (numbered.countedDown_lt latch down)
  signal_ne first second latch one two := by
    simp only [after, Function.update_apply] at one two
    have fresh := numbered.signal_lt
    grind [numbered.signal_ne]
  awaited_lt other latch awaited := by
    simp only [after, Function.update_apply] at awaited ⊢
    split at awaited
    · simp [awaits] at awaited
    · exact Nat.lt_succ_of_lt (numbered.awaited_lt other latch awaited)
  awaited_ne other second latch awaited field := by
    simp only [after, Function.update_apply] at awaited field ⊢
    have fresh := numbered.awaited_lt other latch
    grind [numbered.awaited_ne]

private theorem moved (numbered : h.Numbered) {thread : Nat} {call : Call}
    (moves : h.Moves (h.calls thread) call) : (h.after (.moved thread call)).Numbered where
  signal_lt := numbered.signal_lt
  countedDown_lt := numbered.countedDown_lt
  signal_ne := numbered.signal_ne
  awaited_lt other latch awaited := by
    simp only [after, Function.update_apply] at awaited ⊢
    split at awaited
    · cases moves with
      | aside waits => simp [Call.latch_of_not_waiting waits] at awaited
      | looks _ field _ awaits => exact numbered.signal_lt _ _ (by rwa [← awaits, awaited] at field)
      | wakes _ _ _ waits => simp [Call.latch_of_not_waiting waits] at awaited
    · exact numbered.awaited_lt other latch awaited
  awaited_ne other second latch awaited field := by
    simp only [after, Function.update_apply] at awaited field ⊢
    split at awaited
    · rename_i same
      rw [if_pos same]
      cases moves with
      | aside waits => simp [Call.latch_of_not_waiting waits] at awaited
      | @looks request _ _ looked waits awaits =>
        have same := numbered.signal_ne request second latch (by rwa [← awaits, awaited] at looked) field
        rw [waits, same]
      | wakes _ _ _ waits => simp [Call.latch_of_not_waiting waits] at awaited
    · rename_i different
      rw [if_neg different]
      exact numbered.awaited_ne other second latch awaited field

theorem after (numbered : h.Numbered) {change : Change} (allowed : h.Allows change) :
    (h.after change).Numbered := by
  cases change with
  | requested thread request call => exact numbered.requested allowed.2.1
  | confirmed request =>
    refine { numbered with countedDown_lt := fun latch down => ?_ }
    rcases List.mem_append.mp down with now | before
    · exact numbered.signal_lt request latch (Option.mem_toList.mp now)
    · exact numbered.countedDown_lt latch before
  | moved thread call => exact numbered.moved allowed
  | returned thread => exact { numbered.moved (.aside rfl rfl) with }

end Numbered

namespace Unconfirmed

variable {request : Request} {thread : Nat}

theorem requested (numbered : h.Numbered) {call : Call} (allowed : h.Allows (.requested thread request call)) :
    (h.after (.requested thread request call)).Unconfirmed request thread := by
  obtain ⟨-, awaits, returns⟩ := allowed
  constructor
  · simp [after, returns]
  · intro _ latch field down
    simp only [after, Function.update_self, Option.some.injEq] at field
    subst field
    exact absurd (numbered.countedDown_lt _ down) (Nat.lt_irrefl _)
  · intro _ latch awaited
    simp [after, awaits] at awaited

private theorem requested_other (unconfirmed : h.Unconfirmed request thread) (numbered : h.Numbered)
    {other : Nat} {otherRequest : Request} {call : Call} (different : thread ≠ other) :
    (h.after (.requested other otherRequest call)).Unconfirmed request thread := by
  constructor
  · simpa [after, different] using unconfirmed.returns
  · intro waits latch field
    simp only [after, Function.update_of_ne different, Function.update_apply] at waits field ⊢
    split at field
    · cases field
      exact fun down => Nat.lt_irrefl _ (numbered.countedDown_lt _ down)
    · exact unconfirmed.signal waits latch field
  · intro waits latch awaited
    simp only [after, Function.update_of_ne different] at waits awaited
    exact unconfirmed.awaited waits latch awaited

private theorem requested_again (unconfirmed : h.Unconfirmed request thread) (numbered : h.Numbered)
    {other : Request} {call : Call} (allowed : h.Allows (.requested thread other call)) :
    (h.after (.requested thread other call)).Unconfirmed request thread := by
  by_cases same : other = request
  · subst same
    exact requested numbered allowed
  · obtain ⟨waits, awaits, returns⟩ := allowed
    have elsewhere : call.waitsFor ≠ some request := by
      rcases waits with waits | waits <;> simp [waits, same]
    constructor <;> simp [after, returns, elsewhere]

private theorem confirmed_other (unconfirmed : h.Unconfirmed request thread) (numbered : h.Numbered)
    {other : Request} (different : other ≠ request) :
    (h.after (.confirmed other)).Unconfirmed request thread := by
  constructor
  · exact unconfirmed.returns
  · intro waits latch field down
    rcases List.mem_append.mp down with now | before
    · exact different (numbered.signal_ne other request latch (Option.mem_toList.mp now) field)
    · exact unconfirmed.signal waits latch field before
  · intro waits latch awaited down
    rcases List.mem_append.mp down with now | before
    · have own := numbered.awaited_ne thread other latch awaited (Option.mem_toList.mp now)
      have waits : (h.calls thread).waitsFor = some request := waits
      rw [own, Option.some.injEq] at waits
      exact different waits
    · exact unconfirmed.awaited waits latch awaited before

private theorem moved (unconfirmed : h.Unconfirmed request thread) {call : Call}
    (moves : h.Moves (h.calls thread) call) : (h.after (.moved thread call)).Unconfirmed request thread := by
  cases moves with
  | aside waits returns => constructor <;> simp [after, waits, returns]
  | looks written field waits awaits returns =>
    constructor
    · simp [after, returns]
    · intro waiting latch found
      simp only [after, Function.update_self, waits] at waiting found
      exact unconfirmed.signal (written.trans waiting) latch found
    · intro waiting latch awaited
      simp only [after, Function.update_self, waits, awaits] at waiting awaited
      cases waiting
      exact unconfirmed.signal written latch (field.trans awaited)
  | wakes waited awaited down waits returns =>
    constructor
    · simp only [after, Function.update_self, returns]
      rintro ⟨⟩
      exact unconfirmed.awaited waited _ awaited down
    · simp [after, waits]
    · simp [after, waits]

private theorem moved_other (unconfirmed : h.Unconfirmed request thread) {other : Nat} {call : Call}
    (different : thread ≠ other) : (h.after (.moved other call)).Unconfirmed request thread := by
  constructor
  · simpa [after, different] using unconfirmed.returns
  · simpa [after, different] using unconfirmed.signal
  · simpa [after, different] using unconfirmed.awaited

/-- A request stays unconfirmed as long as its confirmation does not come. -/
theorem after (unconfirmed : h.Unconfirmed request thread) (numbered : h.Numbered) {change : Change}
    (allowed : h.Allows change) (silent : change ≠ .confirmed request) :
    (h.after change).Unconfirmed request thread := by
  cases change with
  | requested other otherRequest call =>
    by_cases same : thread = other
    · subst same
      exact unconfirmed.requested_again numbered allowed
    · exact unconfirmed.requested_other numbered same
  | confirmed other => exact unconfirmed.confirmed_other numbered fun same => silent (by rw [same])
  | moved other call =>
    by_cases same : thread = other
    · subst same
      exact unconfirmed.moved allowed
    · exact unconfirmed.moved_other same
  | returned other =>
    by_cases same : thread = other
    · subst same
      exact { unconfirmed.moved (.aside rfl rfl) with }
    · have moved : (h.after (.moved other .idle)).Unconfirmed request thread := unconfirmed.moved_other same
      exact { moved with }

end Unconfirmed

/-- Whether the last request a thread has written was confirmed, behind a step. -/
def noted (confirms : Option Request) (requests : Option (Nat × Request))
    (confirmed : Request → Nat → Bool) (request : Request) (thread : Nat) : Bool :=
  if confirms = some request then true
  else if requests = some (thread, request) then false
  else confirmed request thread

/-- A call that is not noted as confirmed has not been woken. -/
structure Sound (h : Handshakes) (confirmed : Request → Nat → Bool) : Prop where
  numbered : h.Numbered
  unconfirmed : ∀ request thread, confirmed request thread = false → h.Unconfirmed request thread

namespace Sound

variable {confirmed : Request → Nat → Bool}

theorem after (sound : h.Sound confirmed) {change : Change} (allowed : h.Allows change) :
    (h.after change).Sound (noted change.confirms change.requests confirmed) where
  numbered := sound.numbered.after allowed
  unconfirmed request thread noted := by
    simp only [Handshakes.noted] at noted
    split at noted
    · cases noted
    rename_i silent
    split at noted
    · rename_i requested
      cases change <;> simp only [Change.requests, reduceCtorEq, Option.some.injEq, Prod.mk.injEq] at requested
      obtain ⟨rfl, rfl⟩ := requested
      exact .requested sound.numbered allowed
    · refine (sound.unconfirmed request thread noted).after sound.numbered allowed ?_
      rintro rfl
      exact silent rfl

/-- A call that is about to return is confirmed. -/
theorem confirmed_of_returns (sound : h.Sound confirmed) {request : Request} {thread : Nat}
    (returns : (h.calls thread).returnsFrom = some request) : confirmed request thread = true := by
  by_contra unconfirmed
  exact (sound.unconfirmed request thread (Bool.eq_false_iff.mpr unconfirmed)).returns returns

end Sound

end Handshakes

end J60870
