import Supervision.CommandLine
import Supervision.Restart
import Supervision.Signal
import Supervision.Text.Blank

/-!
# Process descriptions

The immutable description of one supervised process, built from a name and a command by options
applied in order.  Variables accumulate; of the other options the last of its kind counts.
-/

namespace Supervision

structure ProcessSpec where
  name : String
  command : CommandLine
  stopSignal : Signal
  restart : RestartPolicy
  deriving DecidableEq, Repr

/-- One step in describing a process. -/
inductive ProcessOption
  | environment (pairs : List (String × String))
  | stopSignal (signal : Signal)
  | directory (path : String)
  | restart (policy : RestartPolicy)
  deriving DecidableEq, Repr

/-- Reads the name of a signal; the failure shows the text as it was given. -/
def Signal.parse (text : String) : Except Failure Signal :=
  match ofText? text with
  | some signal => .ok signal
  | none => .error (.signal ("unknown signal " ++ Text.quoted text))

theorem Signal.parse_name (signal : Signal) : Signal.parse signal.name = .ok signal := by
  cases signal <;> rfl

namespace ProcessSpec

/-- A description with nothing but a name and a command.  The name is checked first. -/
def ofCommand (name command : String) : Except Failure ProcessSpec :=
  if Text.isAllBlank name then .error (.invalidProcessName name)
  else (CommandLine.parse name command).map fun line => ⟨name, line, .interrupt, .never⟩

def apply (spec : ProcessSpec) : ProcessOption → ProcessSpec
  | .environment pairs => { spec with command := spec.command.extendEnvironment pairs }
  | .stopSignal signal => { spec with stopSignal := signal }
  | .directory path => { spec with command := { spec.command with directory := some path } }
  | .restart policy => { spec with restart := policy }

/-- A description with every option applied in turn. -/
def build (name command : String) (options : List ProcessOption) : Except Failure ProcessSpec :=
  (ofCommand name command).map fun spec => options.foldl apply spec

end ProcessSpec

end Supervision
