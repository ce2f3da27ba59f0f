import Supervision.Output.Pipe
import Supervision.Process.Managed

/-!
# Runs

One run of a managed process: its output channel is opened, the child is started unless a stop was
asked for, it is waited for, and its output is written before its exit is.  From the look at the
stop until it has said that the child runs, the run holds the lock that signals are sent under.
Between any two moves of a run others may move, so each move is a step of its own.
-/

namespace Supervision

/-- What waiting for a child gives. -/
abbrev Waited := Except IoCause ExitStatus

/-- What a run comes to: the status of the child, or nothing if none was started or it was lost. -/
abbrev RunResult := Except Failure (Option ExitStatus)

inductive RunPhase
  | opening
  | atGate
  | checking
  | launching
  | recorded (pid : UInt32)
  | waiting (pid : UInt32)
  | reaped (waited : Waited)
  | cleared (waited : Waited)
  | draining (waited : Waited)
  | reporting (waited : Waited)
  | returned (result : RunResult)
  deriving Repr

def RunPhase.holdsLock : RunPhase → Bool
  | checking | launching | recorded _ => true
  | _ => false

/-- One move of a run, with what the system answers. -/
inductive RunMove
  | openChannel (opened : Except Failure Unit)
  | lock
  | check (prepared : Except Failure Unit)
  | launch (launched : Except Failure UInt32)
  | announce
  | reap (waited : Waited)
  | clear
  | publish
  | drained
  | drainExpired
  | report
  deriving Repr

/-- How long a run waits for the rest of the output once its child has exited. -/
def drainTimeout : Span := .ofMillis 250

/-- A child that could not be started. -/
def launchFailure (program : String) (cause : IoCause) : Failure :=
  .spawnFailed (program ++ ": " ++ cause.message)

structure RunStep where
  managed : Managed
  phase : RunPhase
  events : List Event
  deriving Repr

namespace Managed

/-- What becomes of a child when the wait for it ends. -/
def endOfWait (pid : UInt32) : Waited → Event
  | .ok _ => .reaped pid
  | .error _ => .lost pid

/-- Makes one move of a run, if it can be made now.  The child's ends of the channel are made ready
under the lock, before anything is said. -/
def advance (managed : Managed) (stopping : Bool) : RunPhase → RunMove → Option RunStep
  | .opening, .openChannel (.ok ()) =>
    some ⟨{ managed with readers := managed.readers ++ [.start] }, .atGate, []⟩
  | .opening, .openChannel (.error failure) => some ⟨managed, .returned (.error failure), []⟩
  | .atGate, .lock => some ⟨managed, .checking, []⟩
  | .checking, .check prepared =>
    if stopping then some ⟨managed, .returned (.ok none), []⟩
    else
      match prepared with
      | .ok () => some ⟨managed, .launching, [.wrote .running]⟩
      | .error failure => some ⟨managed, .returned (.error failure), []⟩
  | .launching, .launch (.ok pid) =>
    some ⟨{ managed with pid := some pid }, .recorded pid, [.spawned pid]⟩
  | .launching, .launch (.error failure) => some ⟨managed, .returned (.error failure), []⟩
  | .recorded pid, .announce =>
    some ⟨{ managed with state := .running }, .waiting pid, [.published .running]⟩
  | .waiting pid, .reap waited => some ⟨managed, .reaped waited, [endOfWait pid waited]⟩
  | .reaped waited, .clear => some ⟨{ managed with pid := none }, .cleared waited, []⟩
  | .cleared waited, .publish =>
    some ⟨{ managed with state := .exited }, .draining waited, [.published .exited]⟩
  | .draining waited, .drained =>
    (Output.Pipe.start.drain? managed.isDrained false).map fun _ =>
      ⟨managed, .reporting waited, []⟩
  | .draining waited, .drainExpired =>
    (Output.Pipe.start.drain? managed.isDrained true).map fun _ =>
      ⟨managed, .reporting waited, []⟩
  | .reporting (.ok status), .report =>
    some
      ⟨{ managed with lastExit := some status }, .returned (.ok (some status)),
      [.wrote (.exited status)]⟩
  | .reporting (.error cause), .report =>
    some ⟨managed, .returned (.ok none), [.wrote (.waitFailed cause)]⟩
  | _, _ => none

end Managed

end Supervision
