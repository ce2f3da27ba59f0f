import Supervision.Cli.Paint
import Supervision.Cli.Table
import Supervision.Config.Document
import Supervision.ProcessStatus

/-!
# Views

What the program shows about a configuration and about the processes of a running supervisor.
-/

namespace Supervision.Cli

def checkHeader : List String := ["NAME", "COMMAND", "STOP SIGNAL", "RESTART", "DIR"]

def checkRow (spec : ProcessSpec) : List String :=
  [spec.name, spec.command.text, spec.stopSignal.name, spec.restart.text,
    spec.command.directory.getD "-"]

/-- A mark that something went well. -/
def tick (colored : Bool) : String := Paint.green.apply colored "✓"

/-- A valid configuration: a table of its processes and one line about the whole. -/
def checkView (colored : Bool) (config : Config.Launcher) (specs : List ProcessSpec) : String :=
  table checkHeader (specs.map checkRow) ++ "\n"
    ++ tick colored ++ " " ++ Paint.bold.apply colored config.name ++ " is valid: "
    ++ toString specs.length ++ " processes, " ++ config.output.name ++ " output, "
    ++ config.gracefulTimeout.text ++ " grace period\n"

def statusHeader : List String :=
  ["", "NAME", "STATE", "PID", "RESTARTS", "LAST EXIT", "POLICY"]

/-- The symbol of a state and the style it is shown in. -/
def stateMark : ProcessState → String × Paint
  | .running => ("●", .green)
  | .restarting => ("●", .yellow)
  | .terminal => ("○", .red)
  | .idle | .exited => ("○", .dimmed)

def orDash (value : Option String) : String := value.getD "-"

def statusRow (colored : Bool) (status : ProcessStatus) : List String :=
  let (symbol, paint) := stateMark status.state
  [paint.apply colored symbol, status.name, paint.apply colored status.state.name,
    orDash (status.pid.map fun pid => toString pid.toNat), toString status.restarts.toNat,
    orDash (status.lastExitCode.map toString), status.restartPolicy]

/-- The processes of a supervisor as a table. -/
def statusView (colored : Bool) (supervisor : String) (processes : List ProcessStatus) : String :=
  "Supervisor: " ++ Paint.bold.apply colored supervisor ++ "\n"
    ++ table statusHeader (processes.map (statusRow colored)) ++ "\n"

/-- The processes of a supervisor as a document, members in the order of their names. -/
def statusDocument (supervisor : String) (processes : List ProcessStatus) : Json :=
  (Json.object
    [("supervisor", .text supervisor),
    ("processes", .list (processes.map ProcessStatus.toJson))]).sorted

def stopView (colored : Bool) (message : String) : String := tick colored ++ " " ++ message ++ "\n"

end Supervision.Cli
