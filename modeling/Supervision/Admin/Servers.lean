import Supervision.Admin.Socket

/-!
# Admin servers over time

Servers are bound one after another and dropped in any order, so that several of them may be live at
once, at different paths or at the same.  They are numbered in the order in which they are bound.
-/

namespace Supervision.Admin

/-- A server that was bound and has not been dropped. -/
structure Server where
  number : Nat
  path : String
  deriving DecidableEq, Repr

/-- The files and the live servers, and how many servers have been bound. -/
structure Servers where
  files : Files.Tree
  live : List Server
  bound : Nat
  deriving Repr

/-- A server is bound to a path, or the server of a number is dropped. -/
inductive ServerMove
  | bind (path : String)
  | drop (number : Nat)
  deriving DecidableEq, Repr

namespace Servers

def start (files : Files.Tree) : Servers := ⟨files, [], 0⟩

/-- Binds a server, if that succeeds, or drops one that is live. -/
def advance (servers : Servers) : ServerMove → Option Servers
  | .bind path =>
    match bind servers.files path servers.bound with
    | .ok files => some ⟨files, servers.live ++ [⟨servers.bound, path⟩], servers.bound + 1⟩
    | .error _ => none
  | .drop number =>
    (servers.live.find? fun server => server.number == number).map fun server =>
      { servers with
        files := release servers.files server.path
        live := servers.live.filter fun other => other.number != number }

def follow (servers : Servers) (moves : List ServerMove) : Option Servers :=
  moves.foldlM advance servers

/-- The server that a client reaches at a path. -/
def reach (servers : Servers) (path : String) : Except Failure Nat :=
  connect servers.files (servers.live.map Server.number) path

end Servers

end Supervision.Admin
