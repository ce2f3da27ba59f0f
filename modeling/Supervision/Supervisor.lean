import Supervision.Process.Managed

/-!
# Supervisors

A supervisor is put together before anything runs: processes are registered one after another, each
with the next colour and a name column wide enough for its name.  A registration that fails leaves
the supervisor as it was.
-/

namespace Supervision

/-- A set of processes to be supervised together. -/
structure Supervisor where
  name : String
  gracefulTimeout : Span
  kind : Output.ChannelKind
  output : Output.Multiplexer
  processes : List Managed
  stopping : Bool
  subscribed : List Signal
  warnings : List String
  deriving Repr

namespace Supervisor

def start (name : String) (gracefulTimeout : Span) (kind : Output.ChannelKind)
    (output : Output.Multiplexer) : Supervisor :=
  ⟨name, gracefulTimeout, kind, output, [], false, [], []⟩

def withKind (supervisor : Supervisor) (kind : Output.ChannelKind) : Supervisor :=
  { supervisor with kind }

def nextColor (supervisor : Supervisor) : UInt8 :=
  Output.paletteColor supervisor.processes.length

/-- Warns about a name that is registered already. -/
def duplicateWarnings (supervisor : Supervisor) (name : String) : List String :=
  if supervisor.processes.any fun managed => managed.name == name then
    ["Process name " ++ name ++ " registered more than once"]
  else []

def addSpec (supervisor : Supervisor) (spec : ProcessSpec) : Supervisor :=
  let managed := Managed.ofSpec spec supervisor.nextColor supervisor.kind
  { supervisor with
    output := supervisor.output.connect managed.source
    processes := supervisor.processes ++ [managed]
    warnings := supervisor.warnings ++ supervisor.duplicateWarnings spec.name }

/-- Describes a process and registers it. -/
def addProcess (supervisor : Supervisor) (name command : String) (options : List ProcessOption) :
    Except Failure Unit × Supervisor :=
  match ProcessSpec.build name command options with
  | .ok spec => (.ok (), supervisor.addSpec spec)
  | .error failure => (.error failure, supervisor)

/-- Lets a signal to the supervisor itself be a request to stop. -/
def subscribe (supervisor : Supervisor) (signal : Signal) : Except Failure Supervisor :=
  if signal = .kill then
    .error (.signal ("cannot subscribe to " ++ signal.name ++ ": Refusing to register signal "
      ++ toString signal.number))
  else .ok { supervisor with subscribed := supervisor.subscribed ++ [signal] }

/-- Asks for a stop; asking again changes nothing. -/
def stop (supervisor : Supervisor) : Supervisor := { supervisor with stopping := true }

/-- The supervisor as a diagnostic shows it. -/
def describe (supervisor : Supervisor) : String :=
  "Supervisor \x7b name: " ++ Text.quoted supervisor.name ++ ", graceful_timeout: "
    ++ supervisor.gracefulTimeout.text ++ ", channel_kind: " ++ supervisor.kind.name
    ++ ", processes: " ++ Admin.Response.describeList (supervisor.processes.map Managed.describe)
    ++ ", stopping: " ++ toString supervisor.stopping ++ " \x7d"

end Supervisor

end Supervision
