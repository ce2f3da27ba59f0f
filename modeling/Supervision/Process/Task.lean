import Supervision.Process.Run

/-!
# Restart loops

The task of one process runs it again and again.  After each run it looks whether a stop was asked
for, asks the restart policy what follows, and waits out the delay unless a stop ends the wait.
Every way out of the loop leaves the process terminal.
-/

namespace Supervision

inductive TaskPhase
  | running (phase : RunPhase)
  | checking
  | deciding
  | delaying (delay : Span)
  | returned (result : Except Failure Unit)
  deriving Repr

structure Task where
  managed : Managed
  tracker : RestartTracker
  started : Bool
  phase : TaskPhase
  deriving Repr

inductive TaskMove
  | run (move : RunMove)
  | settle
  | check
  | decide
  | wake
  | cancel
  | read (run : Nat) (result : Output.ReadResult)
  deriving Repr

/-- A task after a move, and what it did. -/
structure TaskStep where
  task : Task
  events : List Event
  deriving Repr

namespace Task

def ofManaged (managed : Managed) : Task :=
  ⟨managed, .start managed.spec.restart, false, .running .opening⟩

def holdsLock (task : Task) : Bool :=
  match task.phase with
  | .running phase => phase.holdsLock
  | _ => false

def result? (task : Task) : Option (Except Failure Unit) :=
  match task.phase with
  | .returned result => some result
  | _ => none

/-- Leaves the loop: the process will not be started again. -/
def leave (task : Task) (result : Except Failure Unit) (notices : List Notice) : TaskStep :=
  ⟨{ task with managed := { task.managed with state := .terminal }, phase := .returned result },
  notices.map .wrote ++ [.published .terminal]⟩

/-- Takes the result of a run.  The first failure ends the task, as does any fault of the
configuration; other failures count as one more run. -/
def settle (task : Task) (result : RunResult) : TaskStep :=
  match result with
  | .ok _ => ⟨{ task with started := true, phase := .checking }, []⟩
  | .error failure =>
    if !task.started || failure.isConfiguration then
      task.leave (.error failure) [.failed failure]
    else ⟨{ task with started := true, phase := .checking }, [.wrote (.failed failure)]⟩

/-- Asks the restart policy what follows. -/
def decide (task : Task) : TaskStep :=
  let (decision, tracker) := task.tracker.next
  let task := { task with tracker }
  match decision with
  | .done => task.leave (.ok ()) [.done]
  | .exhausted _ => task.leave (.error (.restartsExhausted task.managed.name)) [.exhausted]
  | .retry attempt delay =>
    ⟨{ task with
        managed := { task.managed with restarts := attempt, state := .restarting }
        phase := .delaying delay },
    [.published .restarting, .wrote (.restarting attempt delay)]⟩

def advance (task : Task) (stopping : Bool) : TaskMove → Option TaskStep
  | .read run result =>
    (task.managed.read run result).map fun (managed, events) => ⟨{ task with managed }, events⟩
  | .run move =>
    match task.phase with
    | .running phase =>
      (task.managed.advance stopping phase move).map fun step =>
        ⟨{ task with managed := step.managed, phase := .running step.phase }, step.events⟩
    | _ => none
  | .settle =>
    match task.phase with
    | .running (.returned result) => some (task.settle result)
    | _ => none
  | .check =>
    match task.phase with
    | .checking =>
      if stopping then some (task.leave (.ok ()) []) else some ⟨{ task with phase := .deciding }, []⟩
    | _ => none
  | .decide =>
    match task.phase with
    | .deciding => some task.decide
    | _ => none
  | .wake =>
    match task.phase with
    | .delaying _ => some ⟨{ task with phase := .running .opening }, []⟩
    | _ => none
  | .cancel =>
    match task.phase with
    | .delaying _ => if stopping then some (task.leave (.ok ()) []) else none
    | _ => none

end Task

end Supervision
