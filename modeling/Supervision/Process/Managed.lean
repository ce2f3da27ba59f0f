import Supervision.Admin.Message
import Supervision.Output.Channel
import Supervision.Process.Notice
import Supervision.ProcessSpec

/-!
# Managed processes

A managed process keeps one description through all of its runs.  What it does is told as a list of
events, and what others may ask about it at any moment is its status.
-/

namespace Supervision

/-- What a managed process does, as far as others can tell.  A child is lost when waiting for it
fails: it may be there still, but nothing more will be heard of it. -/
inductive Event
  | wrote (notice : Notice)
  | copied (run : Nat) (content : Output.Copied)
  | spawned (pid : UInt32)
  | reaped (pid : UInt32)
  | lost (pid : UInt32)
  | signalled (pid : UInt32) (signal : Signal)
  | published (state : ProcessState)
  deriving DecidableEq, Repr

/-- Writes what an event shows; most show nothing. -/
def Event.write (event : Event) (output : Output.Multiplexer) (source : Output.Source) :
    Output.Multiplexer :=
  match event with
  | wrote notice => notice.write output source
  | copied _ content => content.write output source
  | _ => output

/-- A supervised process: its description, what is recorded of its present run and of the last one,
and one reader for the output of every run, in the order of the runs. -/
structure Managed where
  spec : ProcessSpec
  color : UInt8
  kind : Output.ChannelKind
  pid : Option UInt32
  state : ProcessState
  restarts : UInt32
  lastExit : Option ExitStatus
  readers : List Output.Reader
  deriving DecidableEq, Repr

namespace Managed

def ofSpec (spec : ProcessSpec) (color : UInt8) (kind : Output.ChannelKind) : Managed :=
  ⟨spec, color, kind, none, .idle, 0, none, []⟩

def name (managed : Managed) : String := managed.spec.name

def source (managed : Managed) : Output.Source := ⟨managed.name, managed.color⟩

def isRunning (managed : Managed) : Bool := managed.pid.isSome

def status (managed : Managed) : ProcessStatus :=
  { name := managed.name
    state := managed.state
    pid := managed.pid
    restarts := managed.restarts
    restartPolicy := managed.spec.restart.text
    lastExitCode := managed.lastExit.bind ExitStatus.code }

/-- The process as a diagnostic shows it. -/
def describe (managed : Managed) : String :=
  "ManagedProcess \x7b name: " ++ Text.quoted managed.name ++ ", state: " ++ managed.state.label
    ++ ", pid: " ++ Admin.Response.describeOption (managed.pid.map fun pid => toString pid.toNat)
    ++ " \x7d"

/-- Sends a signal to the group of the child, if there is one, and says so first.  Whether the
system took the signal is for the caller to tell. -/
def signal (managed : Managed) (notice : Notice) (signal : Signal) (sent : Except Failure Unit) :
    List Event :=
  match managed.pid with
  | none => []
  | some pid =>
    let failures := match sent with
      | .ok () => []
      | .error failure => [.wrote (.signalFailed failure)]
    .wrote notice :: .signalled pid signal :: failures

def interrupt (managed : Managed) (sent : Except Failure Unit) : List Event :=
  managed.signal (.stopping managed.spec.stopSignal) managed.spec.stopSignal sent

def kill (managed : Managed) (sent : Except Failure Unit) : List Event :=
  managed.signal .killing .kill sent

def read (managed : Managed) (run : Nat) (result : Output.ReadResult) :
    Option (Managed × List Event) :=
  managed.readers[run]?.map fun reader =>
    let (content, reader) := reader.step result
    ({ managed with readers := managed.readers.set run reader }, content.map (.copied run))

/-- Has all output of the present run been written? -/
def isDrained (managed : Managed) : Bool :=
  match managed.readers.getLast? with
  | some reader => reader.finished
  | none => true

end Managed

end Supervision
