import Supervision.Admin.Connection

/-!
# Admin listeners

A listener takes on clients at any time and serves every connection by itself.  A connection receives
a request, has it handled in one step by the supervisor that all connections share, and sends the
response.  Between any two of these moves the other connections may move, and so may the supervisor.
-/

namespace Supervision.Admin

inductive ConnectionPhase
  | receiving
  | handling (request : Request)
  | sending (response : Response)
  | ended (failure : Option Failure)
  deriving Repr

/-- A connection: what is still to arrive before the client hangs up, and the frames that were
written. -/
structure Connection where
  pieces : List Bytes
  phase : ConnectionPhase
  frames : List Bytes
  deriving Repr

namespace Connection

def accepted (pieces : List Bytes) : Connection := ⟨pieces, .receiving, []⟩

/-- The connection once the next request is received, or once there is none. -/
def afterReceive (connection : Connection) : Connection :=
  match receive Request.read connection.pieces with
  | .message request rest => { connection with pieces := rest, phase := .handling request }
  | .ended => { connection with phase := .ended none }
  | .failed failure => { connection with phase := .ended (some failure) }

/-- The connection once a response is sent, or once that failed. -/
def afterSend (connection : Connection) (response : Response) : Connection :=
  match response.send with
  | .ok frame => { connection with phase := .receiving, frames := connection.frames ++ [frame] }
  | .error failure => { connection with phase := .ended (some failure) }

end Connection

/-- A supervisor goes on by itself: its processes change, and it may begin to stop. -/
def Control.goOn (control : Control) (processes : List ProcessStatus) (stops : Bool) : Control :=
  { control with processes, stopping := control.stopping || stops }

/-- A supervisor and the connections to it, in the order in which they were taken on. -/
structure Listener where
  control : Control
  connections : List Connection
  deriving Repr

/-- One move: a client is taken on that will send these pieces, the connection of a number goes on,
or the supervisor does. -/
inductive ListenerMove
  | accept (pieces : List Bytes)
  | receive (index : Nat)
  | handle (index : Nat)
  | send (index : Nat)
  | goOn (processes : List ProcessStatus) (stops : Bool)
  deriving Repr

namespace Listener

def start (control : Control) : Listener := ⟨control, []⟩

def setConnection (listener : Listener) (index : Nat) (connection : Connection) : Listener :=
  { listener with connections := listener.connections.set index connection }

def advance (listener : Listener) : ListenerMove → Option Listener
  | .accept pieces =>
    some { listener with connections := listener.connections ++ [.accepted pieces] }
  | .receive index => do
    let connection ← listener.connections[index]?
    match connection.phase with
    | .receiving => some (listener.setConnection index connection.afterReceive)
    | _ => none
  | .handle index => do
    let connection ← listener.connections[index]?
    match connection.phase with
    | .handling request =>
      let (response, control) := listener.control.handle request
      some
        ({ listener with control }.setConnection index { connection with phase := .sending response })
    | _ => none
  | .send index => do
    let connection ← listener.connections[index]?
    match connection.phase with
    | .sending response => some (listener.setConnection index (connection.afterSend response))
    | _ => none
  | .goOn processes stops => some { listener with control := listener.control.goOn processes stops }

end Listener

end Supervision.Admin
