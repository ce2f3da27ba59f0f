import Supervision.Admin.Frame

/-!
# Admin connections

A connection answers the requests of one client in order until the client hangs up or something is
wrong.  What was answered before a fault stays answered, and what follows it is not looked at.
-/

namespace Supervision.Admin

/-- What serving a connection came to: the frames written, the failure that ended it, if one did,
and what stands behind the socket as the requests left it. -/
structure Conversation (σ : Type) where
  frames : List Bytes
  failure : Option Failure
  control : σ
  deriving Repr

/-- Serves the requests that arrive before the client hangs up, each handled in one step. -/
def serveWith {σ : Type} (handle : Request → StateM σ Response) (control : σ)
    (pieces : List Bytes) : Conversation σ :=
  match _h : receive Request.read pieces with
  | .ended => ⟨[], none, control⟩
  | .failed failure => ⟨[], some failure, control⟩
  | .message request rest =>
    let (response, control) := handle request control
    match response.send with
    | .error failure => ⟨[], some failure, control⟩
    | .ok frame =>
      let served := serveWith handle control rest
      { served with frames := frame :: served.frames }
termination_by pieces.flatten.length
decreasing_by exact length_rest_lt _h

def Surface.serve {σ : Type} (surface : Surface σ) (control : σ) (pieces : List Bytes) :
    Conversation σ :=
  serveWith surface.handle control pieces

abbrev Served := Conversation Control

/-- Serves the requests in the bytes that a client sends before it hangs up. -/
def serve (control : Control) (stream : Bytes) : Served := Control.surface.serve control [stream]

def connectionWarning (failure : Failure) : String :=
  "Admin connection failed: " ++ failure.message

def listenerWarning (failure : Failure) : String :=
  "Admin listener failed: " ++ failure.message

def serveAll (control : Control) : List Bytes → List Served × Control
  | [] => ([], control)
  | stream :: rest =>
    let served := serve control stream
    let (more, control) := serveAll served.control rest
    (served :: more, control)

end Supervision.Admin
