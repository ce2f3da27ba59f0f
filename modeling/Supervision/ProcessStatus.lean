import Supervision.Json.Typed
import Supervision.Json.Value

/-!
# Process statuses

What a supervisor reports about one process at one moment, and how that is written and read.
-/

namespace Supervision

/-- Where a supervised process is in its life. -/
inductive ProcessState
  | idle
  | running
  | exited
  | restarting
  | terminal
  deriving DecidableEq, Repr, Inhabited

namespace ProcessState

def name : ProcessState → String
  | idle => "idle"
  | running => "running"
  | exited => "exited"
  | restarting => "restarting"
  | terminal => "terminal"

/-- The state as a diagnostic shows it. -/
def label : ProcessState → String
  | idle => "Idle"
  | running => "Running"
  | exited => "Exited"
  | restarting => "Restarting"
  | terminal => "Terminal"

def all : List ProcessState := [idle, running, exited, restarting, terminal]

end ProcessState

structure ProcessStatus where
  name : String
  state : ProcessState
  pid : Option UInt32
  restarts : UInt32
  restartPolicy : String
  lastExitCode : Option Int
  deriving DecidableEq, Repr

namespace ProcessStatus

open Json

/-- The members of a status read so far. -/
structure Draft where
  name : Option String
  state : Option ProcessState
  pid : Option (Option UInt32)
  restarts : Option UInt32
  restartPolicy : Option String
  lastExitCode : Option (Option Int)

def readState : Reader ProcessState :=
  Reader.variant (ProcessState.all.map fun state => (state.name, .plain state))

def read : Reader ProcessStatus := do
  let draft ← Reader.record "struct ProcessStatus"
    [.required "name" Draft.name (fun value draft => { draft with name := some value }) Reader.text,
    .required "state" Draft.state (fun value draft => { draft with state := some value }) readState,
    .nullable "pid" Draft.pid (fun value draft => { draft with pid := some value })
      Reader.word32,
    .required "restarts" Draft.restarts (fun value draft => { draft with restarts := some value })
      Reader.word32,
    .required "restart_policy" Draft.restartPolicy
      (fun value draft => { draft with restartPolicy := some value }) Reader.text,
    .nullable "last_exit_code" Draft.lastExitCode
      (fun value draft => { draft with lastExitCode := some value }) Reader.integer32]
    ⟨none, none, none, none, none, none⟩
  pure
    { name := draft.name.getD ""
      state := draft.state.getD .idle
      pid := draft.pid.join
      restarts := draft.restarts.getD 0
      restartPolicy := draft.restartPolicy.getD ""
      lastExitCode := draft.lastExitCode.join }

/-- A value, or `null` for none. -/
def orNull {α : Type} (value : Option α) (write : α → Json) : Json :=
  match value with
  | none => .null
  | some value => write value

def toJson (status : ProcessStatus) : Json :=
  .object
    [("name", .text status.name),
    ("state", .text status.state.name),
    ("pid", orNull status.pid fun pid => .number pid.toNat),
    ("restarts", .number status.restarts.toNat),
    ("restart_policy", .text status.restartPolicy),
    ("last_exit_code", orNull status.lastExitCode .number)]

end ProcessStatus

end Supervision
