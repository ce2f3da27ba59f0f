import Supervision.Process.Task

/-!
# Threads of a process

The reader of every run is a thread of its own.  It takes what one read gives, writes the lines of
it one at a time, and is done with the read only after the last of them; once it is done with a read
that has ended the stream, it has told so and reads no more.  Between any two of these moves the
task of the process may move, signals may be sent, and the pipe to a reader may be drained.
-/

namespace Supervision

/-- What a thread still has to write of one read, and the reader that it has then. -/
structure Copying where
  unwritten : List Output.Copied
  reader : Output.Reader
  deriving DecidableEq, Repr

/-- A process with its threads: the task, and what the reader of each run is at, if it is at
anything. -/
structure Threads where
  task : Task
  copying : Nat → Option Copying

/-- One move of one of the threads, or a signal. -/
inductive ThreadMove
  | task (stopping : Bool) (move : TaskMove)
  | interrupt (sent : Except Failure Unit)
  | kill (sent : Except Failure Unit)
  | read (run : Nat) (result : Output.ReadResult)
  | write (run : Nat)
  | settle (run : Nat)

structure ThreadStep where
  threads : Threads
  events : List Event

namespace Threads

def start (managed : Managed) : Threads := ⟨.ofManaged managed, fun _ => none⟩

/-- Has the reader of a run something else to do. -/
def turn (threads : Threads) (run : Nat) (copying : Option Copying) : Threads :=
  { threads with copying := fun other => if other = run then copying else threads.copying other }

/-- Puts the reader of a run where the task sees it. -/
def handBack (threads : Threads) (run : Nat) (reader : Output.Reader) : Threads :=
  let managed := threads.task.managed
  { threads with
    task := { threads.task with
      managed := { managed with readers := managed.readers.set run reader } } }

def advance (threads : Threads) : ThreadMove → Option ThreadStep
  | .task _ (.read ..) => none
  | .task stopping move =>
    (threads.task.advance stopping move).map fun step =>
      ⟨{ threads with task := step.task }, step.events⟩
  | .interrupt sent =>
    if threads.task.holdsLock then none
    else some ⟨threads, threads.task.managed.interrupt sent⟩
  | .kill sent =>
    if threads.task.holdsLock then none
    else some ⟨threads, threads.task.managed.kill sent⟩
  | .read run result =>
    match threads.copying run, threads.task.managed.readers[run]? with
    | none, some reader =>
      if reader.finished then none
      else
        let (content, reader) := reader.step result
        some ⟨threads.turn run (some ⟨content, reader⟩), []⟩
    | _, _ => none
  | .write run =>
    match threads.copying run with
    | some ⟨content :: rest, reader⟩ =>
      some ⟨threads.turn run (some ⟨rest, reader⟩), [.copied run content]⟩
    | _ => none
  | .settle run =>
    match threads.copying run with
    | some ⟨[], reader⟩ => some ⟨(threads.turn run none).handBack run reader, []⟩
    | _ => none

/-- Has the reader of a run said that it is done? -/
def hasTold (threads : Threads) (run : Nat) : Bool :=
  threads.task.managed.readers[run]?.any Output.Reader.finished

end Threads

/-! ## Drains -/

/-- A process with its threads, and the pipe to the reader of one of its runs. -/
structure Piped where
  threads : Threads
  pipe : Output.Pipe

/-- A thread moves, or the pipe is drained, with the time of the drain up or not. -/
inductive PipedMove
  | thread (move : ThreadMove)
  | drain (expired : Bool)

/-- All of it after a move, and the answer to the drain. -/
structure PipedStep where
  piped : Piped
  answer : Option Bool

/-- Makes one move, if it can be made now.  The pipe is that of the run of this number. -/
def Piped.advance (run : Nat) (piped : Piped) : PipedMove → Option PipedStep
  | .thread move =>
    (piped.threads.advance move).map fun step =>
      ⟨{ piped with threads := step.threads }, none⟩
  | .drain expired =>
    (piped.pipe.drain? (piped.threads.hasTold run) expired).map fun (answer, pipe) =>
      ⟨{ piped with pipe }, some answer⟩

end Supervision
