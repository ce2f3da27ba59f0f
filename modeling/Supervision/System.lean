import Supervision.Process.Task
import Supervision.Supervisor

/-!
# Supervision in progress

All tasks of a supervisor together with its shutdown.  The shutdown begins when a stop is asked for:
it interrupts every process in order, waits until all have stopped or the grace period is over, and
then kills what is left.  The first failure of a task is kept and asks for a stop itself.  Any task
and the shutdown may move next, and signals wait for the lock of the process they are sent to.
-/

namespace Supervision

/-- How far the shutdown has come; a number is that of the process it comes to next. -/
inductive ShutdownPhase
  | idle
  | interrupting (next : Nat)
  | awaiting (next : Nat)
  | killing (next : Nat)
  | finished
  | abandoned
  deriving DecidableEq, Repr

/-- A supervisor at work. -/
structure System where
  name : String
  gracefulTimeout : Span
  tasks : List Task
  stopping : Bool
  shutdown : ShutdownPhase
  joined : List Nat
  failure : Option Failure
  result : Option (Except Failure Unit)
  deriving Repr

inductive Move
  | task (index : Nat) (move : TaskMove)
  | stop
  | beginShutdown
  | interrupt (sent : Except Failure Unit)
  | interrupted
  | stopped
  | expire
  | kill (sent : Except Failure Unit)
  | killed
  | join (index : Nat)
  | finish
  deriving Repr

/-- What happened in a move: to a process, or as a message in the log. -/
inductive Occurrence
  | process (index : Nat) (event : Event)
  | logged (message : String)
  deriving DecidableEq, Repr

structure SystemStep where
  system : System
  occurrences : List Occurrence
  deriving Repr

namespace System

def ofSupervisor (supervisor : Supervisor) : System :=
  { name := supervisor.name
    gracefulTimeout := supervisor.gracefulTimeout
    tasks := supervisor.processes.map Task.ofManaged
    stopping := supervisor.stopping
    shutdown := .idle
    joined := []
    failure := none
    result := none }

def statuses (system : System) : List ProcessStatus :=
  system.tasks.map fun task => task.managed.status

/-- What an admin surface sees of the whole. -/
def control (system : System) : Admin.Control :=
  ⟨system.name, system.statuses, system.stopping, 0⟩

def expiredWarning (system : System) : String :=
  "Graceful timeout of " ++ system.gracefulTimeout.text ++ " elapsed, killing"

/-- The process the shutdown comes to next, if its lock is free. -/
def unlocked? (system : System) (index : Nat) : Option Task :=
  system.tasks[index]?.filter fun task => !task.holdsLock

def ofProcess (index : Nat) (events : List Event) : List Occurrence :=
  events.map (.process index)

/-- What the whole comes to: the failure that was kept, if there is one. -/
def outcome (system : System) : Except Failure Unit :=
  match system.failure with
  | some failure => .error failure
  | none => .ok ()

/-- Makes one move, if it can be made now. -/
def advance (system : System) : Move → Option SystemStep
  | .task index move => do
    let task ← system.tasks[index]?
    let step ← task.advance system.stopping move
    some ⟨{ system with tasks := system.tasks.set index step.task }, ofProcess index step.events⟩
  | .stop => some ⟨{ system with stopping := true }, []⟩
  | .beginShutdown =>
    if system.stopping && system.shutdown == .idle then
      some ⟨{ system with shutdown := .interrupting 0 }, []⟩
    else none
  | .interrupt sent =>
    match system.shutdown with
    | .interrupting index => do
      let task ← system.unlocked? index
      some
        ⟨{ system with shutdown := .interrupting (index + 1) },
        ofProcess index (task.managed.interrupt sent)⟩
    | _ => none
  | .interrupted =>
    match system.shutdown with
    | .interrupting index =>
      if index = system.tasks.length then some ⟨{ system with shutdown := .awaiting 0 }, []⟩
      else none
    | _ => none
  | .stopped =>
    match system.shutdown with
    | .awaiting index =>
      match system.tasks[index]? with
      | some task =>
        if task.managed.state = .running then none
        else some ⟨{ system with shutdown := .awaiting (index + 1) }, []⟩
      | none => some ⟨{ system with shutdown := .killing 0 }, []⟩
    | _ => none
  | .expire =>
    match system.shutdown with
    | .awaiting _ =>
      some ⟨{ system with shutdown := .killing 0 }, [.logged system.expiredWarning]⟩
    | _ => none
  | .kill sent =>
    match system.shutdown with
    | .killing index => do
      let task ← system.unlocked? index
      some
        ⟨{ system with shutdown := .killing (index + 1) },
        ofProcess index (task.managed.kill sent)⟩
    | _ => none
  | .killed =>
    match system.shutdown with
    | .killing index =>
      if index = system.tasks.length then some ⟨{ system with shutdown := .finished }, []⟩
      else none
    | _ => none
  | .join index => do
    let task ← system.tasks[index]?
    let result ← task.result?
    if system.joined.contains index then none
    else
      let system := { system with joined := system.joined ++ [index] }
      match result with
      | .ok () => some ⟨system, []⟩
      | .error failure =>
        some
          ⟨{ system with failure := some (system.failure.getD failure), stopping := true },
          [.logged failure.message]⟩
  | .finish =>
    if system.joined.length = system.tasks.length && system.result.isNone then
      let system := { system with result := some system.outcome }
      if !system.stopping then some ⟨{ system with shutdown := .abandoned }, []⟩
      else if system.shutdown == .finished then some ⟨system, []⟩
      else none
    else none

end System

end Supervision
