import Supervision.Environment
import Supervision.Files.Tree

/-!
# Admin sockets

A server binds a path, replacing what was there, and removes what is at the path when it goes.
Every server has a number of its own, by which its socket is told from any other.
-/

namespace Supervision.Admin

def socketName : String := "pgvisor.sock"

/-- The socket in the user's runtime directory, or in the directory for temporary files. -/
def defaultSocketPath (env : Environment) : String :=
  let directory := match env.find? "XDG_RUNTIME_DIR" with
    | some directory => if directory.isEmpty then "/tmp" else directory
    | none => "/tmp"
  Files.join directory socketName

/-- The longest address a socket can have is shorter than this, with a zero at its end. -/
def maxAddress : Nat := 108

/-- What a socket is bound to: a path, a name outside the file system, or nothing. -/
inductive Address
  | path (path : String)
  | name (name : String)
  | unnamed
  deriving DecidableEq, Repr

/-- The address that a path stands for.  A path that begins with the character zero stands for the
name after it. -/
def Address.ofPath (path : String) : Except Failure Address :=
  match path.toList with
  | [] => .ok .unnamed
  | first :: rest =>
    if first.toNat = 0 then
      if maxAddress < path.utf8ByteSize then
        .error (.described "abstract socket name must be shorter than SUN_LEN")
      else if rest.isEmpty then .ok .unnamed
      else .ok (.name (String.ofList rest))
    else if Files.Tree.hasNul path then
      .error (.described "paths must not contain interior null bytes")
    else if maxAddress ≤ path.utf8ByteSize then
      .error (.described "path must be shorter than SUN_LEN")
    else .ok (.path path)

/-- Makes the directory that a path is in, if need be. -/
def prepare (files : Files.Tree) (path : String) : Except Failure Files.Tree :=
  match Files.parent path with
  | none => .ok files
  | some directory => (files.makeDirectories directory).mapError .io

/-- Binds an address for a server, if nothing is bound there. -/
def Address.bind (files : Files.Tree) (server : Nat) : Address → Except Failure Files.Tree
  | .unnamed => .ok files
  | .name free =>
    if (files.outside.lookup free).isSome then .error (.ofErrno .addressInUse)
    else .ok { files with outside := (free, server) :: files.outside }
  | .path text =>
    match files.vacant text false with
    | .ok place => .ok (files.put place (.socket server))
    | .error errno =>
      .error (.ofErrno (if errno = .fileExists then .addressInUse else errno))

/-- Binds a path for a server.  The directory is made if need be, and whatever is at the path is
removed unless it is a directory. -/
def bind (files : Files.Tree) (path : String) (server : Nat) : Except Failure Files.Tree :=
  match prepare files path, Address.ofPath path with
  | .ok files, .ok address => address.bind (files.discard path) server
  | .error failure, _ | .ok _, .error failure => .error failure

/-- Frees the name that a server has outside the file system, if it has one. -/
def forget (files : Files.Tree) (path : String) : Files.Tree :=
  match Address.ofPath path with
  | .ok (.name name) =>
    { files with outside := files.outside.filter fun entry => entry.1 != name }
  | _ => files

/-- Removes what is at a server's path when the server goes. -/
def release (files : Files.Tree) (path : String) : Files.Tree := (forget files path).discard path

/-- The server that a client reaches at a path, if one of those that are listening. -/
def connect (files : Files.Tree) (listening : List Nat) (path : String) : Except Failure Nat :=
  let reached := fun server =>
    if listening.contains server then .ok server else .error (.ofErrno .connectionRefused)
  match Address.ofPath path with
  | .error failure => .error failure
  | .ok .unnamed => .error (.ofErrno .invalidArgument)
  | .ok (.name name) =>
    match files.outside.lookup name with
    | some server => reached server
    | none => .error (.ofErrno .connectionRefused)
  | .ok (.path path) =>
    match files.find path with
    | .error errno => .error (.ofErrno errno)
    | .ok (.socket server) => reached server
    | .ok _ => .error (.ofErrno .connectionRefused)

end Supervision.Admin
