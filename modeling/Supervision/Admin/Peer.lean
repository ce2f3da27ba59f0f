import Supervision.Admin.Connection
import Supervision.Admin.Socket

/-!
# Admin clients

A client connects to a socket, sends one request and waits for the response.  What answers it is a
supervisor, or a peer that has one response for whatever it is sent.
-/

namespace Supervision.Admin

/-- What listens at a socket. -/
inductive Peer
  | supervisor (control : Control)
  | scripted (response : Response)
  deriving Repr

/-- The frames that a peer answers a stream with. -/
def Peer.frames (peer : Peer) (stream : Bytes) : List Bytes :=
  match peer with
  | supervisor control => (serve control stream).frames
  | scripted response =>
    match response.send with
    | .ok frame => [frame]
    | .error _ => []

def Peer.exchange (peer : Peer) (request : Request) : Except Failure Response := do
  match receive Response.read (peer.frames (← request.send)) with
  | .message response _ => .ok response
  | .ended => .error socketClosed
  | .failed failure => .error failure

/-- The peer that a client reaches at a path. -/
def reach (files : Files.Tree) (peers : List (Nat × Peer)) (path : String) :
    Except Failure Peer := do
  let server ← connect files (peers.map (·.1)) path
  match peers.lookup server with
  | some peer => .ok peer
  | none => .error (.ofErrno .connectionRefused)

end Supervision.Admin
