import Mathlib.Logic.Function.Basic

/-! Threads that wait in a loop on an object, each until it sees a condition gone, and are
woken all at once. -/

namespace Lib

/-- Where a thread is in a method that waits in a loop: outside, in `wait()`, or out of
it again and not yet back at the condition. -/
inductive Waiter (τ : Type)
  | outside
  | waiting (job : τ)
  | woken (job : τ)
  deriving DecidableEq

/-- A `notifyAll` ends every wait. -/
def Waiter.notified {τ : Type} : Waiter τ → Waiter τ
  | .waiting job => .woken job
  | waiter => waiter

/-- An object and the threads at it. -/
structure Monitor (σ τ : Type) where
  object : σ
  waiters : Nat → Waiter τ := fun _ => .outside

namespace Monitor

variable {σ τ : Type} {monitor : Monitor σ τ} {notifications : σ → Nat} {full : σ → Prop}

/-- The object has changed. If it has called `notifyAll` doing so, no thread is left in
`wait()`. -/
def moved (monitor : Monitor σ τ) (notifications : σ → Nat) (object : σ) : Monitor σ τ where
  object := object
  waiters :=
    if notifications object = notifications monitor.object then monitor.waiters
    else fun thread => (monitor.waiters thread).notified

def place (monitor : Monitor σ τ) (thread : Nat) (waiter : Waiter τ) : Monitor σ τ :=
  { monitor with waiters := Function.update monitor.waiters thread waiter }

/-- A thread is in `wait()` only where it would have to wait. -/
def Justified (full : σ → Prop) (monitor : Monitor σ τ) : Prop :=
  ∀ thread job, monitor.waiters thread = .waiting job → full monitor.object

namespace Justified

/-- No wakeup is lost if whoever ends the condition notifies. -/
theorem moved (justified : Justified full monitor) {object : σ}
    (notifies : notifications object = notifications monitor.object → full monitor.object → full object) :
    Justified full (monitor.moved notifications object) := by
  intro thread job waiting
  rw [Monitor.moved] at waiting
  split at waiting
  case isTrue silent => exact notifies silent (justified thread job waiting)
  case isFalse =>
    cases before : monitor.waiters thread <;> simp [before, Waiter.notified] at waiting

theorem place (justified : Justified full monitor) {thread : Nat} {waiter : Waiter τ}
    (waits : ∀ job, waiter = .waiting job → full monitor.object) :
    Justified full (monitor.place thread waiter) := by
  intro other job waiting
  by_cases same : other = thread
  · subst same
    exact waits job (by simpa [Monitor.place] using waiting)
  · exact justified other job (by simpa [Monitor.place, same] using waiting)

end Justified

end Monitor

end Lib
