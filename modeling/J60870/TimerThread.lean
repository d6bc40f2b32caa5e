import J60870.Timeout
import J60870.Lib.Run

/-! The thread of a `TimeoutManager`, statement by statement, beside the threads that call
`addTimerTask`. -/

namespace J60870

open Lib

/-- How far `TimeoutManager.run` is. -/
inductive RunPoint (ι : Type)
  | looping
  /-- at one of the two calls of `queue.take()`, behind both of which the time is read -/
  | taking
  | taken (id : ι)
  | puttingBack (id : ι) (sleepMillis : Int)
  /-- the task is back in the queue, and `guardedLock` is not locked yet -/
  | entering (sleepMillis : Int)
  /-- in `guardedLock.wait`, and the time at which the wait ends -/
  | waiting (wakeTime : Int)
  | executing (id : ι)
  | ended
  deriving DecidableEq

/-- How far a thread is in `addTimerTask`. -/
inductive AddCall (ι : Type)
  | idle
  | dueTimeSet (id : ι)
  | duplicatesRemoved (id : ι)
  | added (id : ι)
  deriving DecidableEq

/-- The manager, its thread, and the threads that arm tasks. -/
structure TimerThread (ι : Type) where
  manager : TimeoutManager ι
  canceled : Bool := false
  currentTimeMillis : Nat
  point : RunPoint ι := .looping
  calls : Nat → AddCall ι := fun _ => .idle
  /-- for the statements: how often the thread has found a task due since it was armed last -/
  runs : ι → Nat := fun _ => 0

namespace TimeoutManager

variable {ι : Type} [DecidableEq ι] (manager : TimeoutManager ι)

section Parts

def updateDueTime (currentTimeMillis : Nat) (id : ι) : TimeoutManager ι :=
  { manager.set id ((manager.task id).updateDueTime currentTimeMillis) with
    armings := manager.armings ++ [manager.arming currentTimeMillis id] }

/-- Every queued task that equals this one, by value, is removed. -/
def removeDuplicates (id : ι) : TimeoutManager ι :=
  { manager with queue := manager.queue.filter fun other => manager.task other ≠ manager.task id }

omit [DecidableEq ι] in
def add (id : ι) : TimeoutManager ι := { manager with queue := manager.queue ++ [id] }

def take (id : ι) : TimeoutManager ι := { manager with queue := manager.queue.erase id }

/-- A call of `addTimerTask` is its parts. -/
theorem addTimerTask_eq_parts (currentTimeMillis : Nat) (id : ι) :
    manager.addTimerTask currentTimeMillis id =
      ((manager.updateDueTime currentTimeMillis id).removeDuplicates id).add id :=
  rfl

end Parts

end TimeoutManager

namespace TimerThread

variable {ι : Type}

def notifyLock (s : TimerThread ι) : TimerThread ι :=
  match s.point with
  | .waiting _ => { s with point := .taking }
  | _ => s

@[simp] theorem notifyLock_manager (s : TimerThread ι) : s.notifyLock.manager = s.manager := by
  cases point : s.point <;> simp [notifyLock, point]

@[simp] theorem notifyLock_runs (s : TimerThread ι) : s.notifyLock.runs = s.runs := by
  cases point : s.point <;> simp [notifyLock, point]

@[simp] theorem notifyLock_calls (s : TimerThread ι) : s.notifyLock.calls = s.calls := by
  cases point : s.point <;> simp [notifyLock, point]

variable [DecidableEq ι]

/-- `executeManually`, as far as the manager sees it. What the task does to other tasks
are steps of their own. -/
def executed (s : TimerThread ι) (id : ι) : TimeoutManager ι :=
  if (s.manager.task id).canceled then s.manager
  else s.manager.set id { s.manager.task id with done := true }

inductive RunAction (ι : Type)
  /-- the condition of the outer loop -/
  | loop
  /-- the queue hands out a task. Due times of queued tasks change in place, so it need
  not be the one due first. -/
  | take (id : ι)
  | readTime
  | putBack
  /-- `guardedLock` is locked, and the thread waits -/
  | enterWait
  /-- the wait is over, by time or for no reason -/
  | wake
  | execute
  | interrupt
  /-- others: the clock goes on, a task is cancelled, the manager is cancelled -/
  | tick (milliseconds : Nat)
  | cancelTask (id : ι)
  | cancel

/-- The steps of the thread, and what others do besides arming. -/
def runStep (s : TimerThread ι) : RunAction ι → Option (TimerThread ι)
  | .loop =>
    if s.point = .looping then some { s with point := if s.canceled then .ended else .taking } else none
  | .take id =>
    if s.point = .taking ∧ id ∈ s.manager.queue then
      some { s with manager := s.manager.take id, point := .taken id }
    else none
  | .readTime =>
    match s.point with
    | .taken id =>
      let sleepMillis := (s.manager.task id).sleepTimeFromDueTime s.currentTimeMillis
      if 0 < sleepMillis then some { s with point := .puttingBack id sleepMillis }
      else some { s with point := .executing id, runs := Function.update s.runs id (s.runs id + 1) }
    | _ => none
  | .putBack =>
    match s.point with
    | .puttingBack id sleepMillis => some { s with manager := s.manager.add id, point := .entering sleepMillis }
    | _ => none
  | .enterWait =>
    match s.point with
    | .entering sleepMillis => some { s with point := .waiting (s.currentTimeMillis + sleepMillis) }
    | _ => none
  | .wake =>
    match s.point with
    | .waiting _ => some { s with point := .taking }
    | _ => none
  | .execute =>
    match s.point with
    | .executing id => some { s with manager := s.executed id, point := .looping }
    | _ => none
  | .interrupt =>
    match s.point with
    | .taking | .entering _ | .waiting _ => some { s with point := .ended }
    | _ => none
  | .tick milliseconds => some { s with currentTimeMillis := s.currentTimeMillis + milliseconds }
  | .cancelTask id => some { s with manager := s.manager.cancel id }
  | .cancel => some { s with canceled := true }

section CompleteCalls

inductive CallAction (ι : Type)
  | run (action : RunAction ι)
  | addTimerTask (id : ι)

def arm (s : TimerThread ι) (id : ι) : TimerThread ι :=
  { s with
    manager := s.manager.updateDueTime s.currentTimeMillis id
    runs := Function.update s.runs id 0 }

def addTimerTask (s : TimerThread ι) (id : ι) : TimerThread ι :=
  { s with
    manager := s.manager.addTimerTask s.currentTimeMillis id
    runs := Function.update s.runs id 0 }.notifyLock

/-- The thread, with calls of `addTimerTask` that are one step. -/
def callStep (s : TimerThread ι) : CallAction ι → Option (TimerThread ι)
  | .run action => runStep s action
  | .addTimerTask id => some (s.addTimerTask id)

end CompleteCalls

section PartsOfCalls

inductive PartAction (ι : Type)
  | run (action : RunAction ι)
  | updateDueTime (thread : Nat) (id : ι)
  | removeDuplicates (thread : Nat)
  | add (thread : Nat)
  | notifyLock (thread : Nat)

def setCall (s : TimerThread ι) (thread : Nat) (call : AddCall ι) : TimerThread ι :=
  { s with calls := Function.update s.calls thread call }

/-- The thread, with calls of `addTimerTask` that take a step for each statement. -/
def partStep (s : TimerThread ι) : PartAction ι → Option (TimerThread ι)
  | .run action => runStep s action
  | .updateDueTime thread id =>
    match s.calls thread with
    | .idle => some ((s.arm id).setCall thread (.dueTimeSet id))
    | _ => none
  | .removeDuplicates thread =>
    match s.calls thread with
    | .dueTimeSet id =>
      some ({ s with manager := s.manager.removeDuplicates id }.setCall thread (.duplicatesRemoved id))
    | _ => none
  | .add thread =>
    match s.calls thread with
    | .duplicatesRemoved id => some ({ s with manager := s.manager.add id }.setCall thread (.added id))
    | _ => none
  | .notifyLock thread =>
    match s.calls thread with
    | .added _ => some (s.notifyLock.setCall thread .idle)
    | _ => none

def Quiet (s : TimerThread ι) : Prop := ∀ thread, s.calls thread = .idle

/-- A call whose parts nothing comes between is a complete call. -/
theorem addTimerTask_of_parts (s : TimerThread ι) (thread : Nat) (id : ι) (idle : s.calls thread = .idle) :
    Run.perform partStep s
        [.updateDueTime thread id, .removeDuplicates thread, .add thread, .notifyLock thread] =
      some (s.addTimerTask id) := by
  have calls : Function.update s.calls thread .idle = s.calls := by rw [← idle, Function.update_eq_self]
  cases point : s.point <;>
    simp [Run.perform, partStep, idle, arm, setCall, addTimerTask, notifyLock, point, calls,
      TimeoutManager.addTimerTask_eq_parts]

end PartsOfCalls

/-- A manager for some tasks, before any of them is armed. -/
def new (task : ι → TimeoutTask) (currentTimeMillis : Nat) : TimerThread ι where
  manager := { task := task }
  currentTimeMillis := currentTimeMillis

end TimerThread

end J60870
