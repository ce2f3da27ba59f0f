import Supervision.ProcessStatus

/-!
# Admin messages

What a client may ask of a running supervisor and what it is answered.  A request is handled in one
step against the supervisor, which it may tell to stop.
-/

namespace Supervision.Admin

inductive Request
  | ping
  | status
  | stop
  deriving DecidableEq, Repr

inductive Response
  | pong
  | status (supervisor : String) (processes : List ProcessStatus)
  | success (message : String)
  | failure (message : String)
  deriving DecidableEq, Repr

/-- What can be asked of whatever stands behind a socket, with states of some kind.  Every question
may change the state, since what answers it goes on running meanwhile. -/
structure Surface (σ : Type) where
  name : StateM σ String
  snapshot : StateM σ (List ProcessStatus)
  isStopping : StateM σ Bool
  requestStop : StateM σ Unit

def Surface.handle {σ : Type} (surface : Surface σ) : Request → StateM σ Response
  | .ping => pure .pong
  | .status => do
    let name ← surface.name
    let processes ← surface.snapshot
    pure (.status name processes)
  | .stop => do
    let message ← do
      if ← surface.isStopping then pure "already stopping"
      else pure ("stopping " ++ (← surface.name))
    surface.requestStop
    pure (.success message)

/-- What an admin surface sees of a supervisor. -/
structure Control where
  name : String
  processes : List ProcessStatus
  stopping : Bool
  stopRequests : Nat
  deriving DecidableEq, Repr

namespace Control

/-- Begins the shutdown; asking again changes nothing but the count of requests. -/
def requestStop (control : Control) : Control :=
  { control with stopping := true, stopRequests := control.stopRequests + 1 }

/-- A supervisor that stands still between two requests. -/
def surface : Surface Control where
  name := do return (← get).name
  snapshot := do return (← get).processes
  isStopping := do return (← get).stopping
  requestStop := modify requestStop

def handle (control : Control) (request : Request) : Response × Control :=
  surface.handle request control

end Control

open Json

namespace Request

def name : Request → String
  | ping => "Ping"
  | status => "Status"
  | stop => "Stop"

def toJson (request : Request) : Json := .text request.name

def read : Reader Request :=
  Reader.variant [("Ping", .plain ping), ("Status", .plain status), ("Stop", .plain stop)]

end Request

namespace Response

def toJson : Response → Json
  | pong => .text "Pong"
  | status supervisor processes =>
    .object [("Status", .object
      [("supervisor", .text supervisor),
      ("processes", .list (processes.map ProcessStatus.toJson))])]
  | success message => .object [("Success", .object [("message", .text message)])]
  | failure message => .object [("Error", .object [("message", .text message)])]

/-- The members of a status response read so far. -/
structure StatusDraft where
  supervisor : Option String
  processes : Option (List ProcessStatus)

def readStatus : Reader Response := do
  let draft ← Reader.record "struct variant AdminResponse::Status"
    [.required "supervisor" StatusDraft.supervisor
      (fun value draft => { draft with supervisor := some value }) Reader.text,
    .required "processes" StatusDraft.processes
      (fun value draft => { draft with processes := some value }) (Reader.list ProcessStatus.read)]
    ⟨none, none⟩
  pure (.status (draft.supervisor.getD "") (draft.processes.getD []))

/-- A record with nothing but a message. -/
def readMessage (expected : String) : Reader String := do
  let draft ← Reader.record expected
    [.required "message" id (fun value _ => some value) Reader.text] none
  pure (draft.getD "")

def read : Reader Response :=
  Reader.variant
    [("Pong", .plain pong),
    ("Status", .record readStatus),
    ("Success", .record (success <$> readMessage "struct variant AdminResponse::Success")),
    ("Error", .record (failure <$> readMessage "struct variant AdminResponse::Error"))]

def describeList (items : List String) : String := "[" ++ ", ".intercalate items ++ "]"

def describeOption : Option String → String
  | none => "None"
  | some content => "Some(" ++ content ++ ")"

def describeStatus (status : ProcessStatus) : String :=
  "ProcessStatus \x7b name: " ++ Text.quoted status.name ++ ", state: " ++ status.state.label
    ++ ", pid: " ++ describeOption (status.pid.map fun pid => toString pid.toNat)
    ++ ", restarts: " ++ toString status.restarts.toNat
    ++ ", restart_policy: " ++ Text.quoted status.restartPolicy
    ++ ", last_exit_code: " ++ describeOption (status.lastExitCode.map toString) ++ " \x7d"

/-- A response as a diagnostic shows it. -/
def describe : Response → String
  | pong => "Pong"
  | status supervisor processes =>
    "Status \x7b supervisor: " ++ Text.quoted supervisor ++ ", processes: "
      ++ describeList (processes.map describeStatus) ++ " \x7d"
  | success message => "Success \x7b message: " ++ Text.quoted message ++ " \x7d"
  | failure message => "Error \x7b message: " ++ Text.quoted message ++ " \x7d"

end Response

end Supervision.Admin
