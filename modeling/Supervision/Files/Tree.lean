import Supervision.Failure
import Supervision.Files.Path
import Supervision.Text.Utf8

/-!
# File trees

The files that a supervisor and its children see: directories, files, programs, sockets and the
null device, under absolute names, and the directory that relative paths start from.
-/

namespace Supervision.Files

/-- What a name stands for. -/
inductive Node
  | directory
  | file (content : Bytes) (executable : Bool)
  | program (name : String)
  | socket (server : Nat)
  | nullDevice
  deriving DecidableEq, Repr, Inhabited

/-- Nodes under their absolute names, the working directory, and the servers of sockets that have
names outside the tree. -/
structure Tree where
  nodes : List (List String × Node)
  working : List String
  outside : List (String × Nat)
  deriving Repr, Inhabited

namespace Tree

/-- The node under an absolute name; the root is always a directory. -/
def node? (tree : Tree) (name : List String) : Option Node :=
  if name.isEmpty then some .directory
  else (tree.nodes.find? fun entry => entry.1 == name).map (·.2)

def put (tree : Tree) (name : List String) (node : Node) : Tree :=
  { tree with nodes := (name, node) :: tree.nodes.filter fun entry => entry.1 != name }

def drop (tree : Tree) (name : List String) : Tree :=
  { tree with nodes := tree.nodes.filter fun entry => entry.1 != name }

def children (tree : Tree) (name : List String) : List String :=
  let inside := tree.nodes.filterMap fun entry =>
    if entry.1.dropLast == name then entry.1.getLast? else none
  inside.mergeSort fun first second => decide (first ≤ second)

/-- Follows parts of a path from a directory. -/
def walk (tree : Tree) (reached : List String) : List String → Except Errno (List String)
  | [] => .ok reached
  | part :: rest =>
    match tree.node? reached with
    | none => .error .noSuchFile
    | some .directory =>
      if part == "." then tree.walk reached rest
      else if part == ".." then tree.walk reached.dropLast rest
      else if 255 < part.utf8ByteSize then .error .nameTooLong
      else tree.walk (reached ++ [part]) rest
    | some _ => .error .notADirectory

/-- Where a path starts from. -/
def origin (tree : Tree) (path : String) : List String :=
  if isAbsolute path then [] else tree.working

/-- The absolute name of a path.  Everything on the way must be a directory; the end need not be
there. -/
def resolve (tree : Tree) (path : String) : Except Errno (List String) :=
  if path.isEmpty then .error .noSuchFile
  else if 4096 ≤ path.utf8ByteSize then .error .nameTooLong
  else tree.walk (tree.origin path) (parts path)

/-- The node at the end of a path. -/
def find (tree : Tree) (path : String) : Except Errno Node := do
  let name ← tree.resolve path
  match tree.node? name with
  | some node => .ok node
  | none => .error .noSuchFile

/-- Names given to the system hold no character zero. -/
def hasNul (path : String) : Bool := path.toList.any fun char => char.toNat == 0

def nulInName : IoCause := .described "file name contained an unexpected NUL byte"

def «exists» (tree : Tree) (path : String) : Bool :=
  !hasNul path && (tree.find path).toBool

def isDirectory (tree : Tree) (path : String) : Bool :=
  match tree.find path with
  | .ok .directory => true
  | _ => false

def read (tree : Tree) (path : String) : Except IoCause Bytes :=
  if hasNul path then .error nulInName
  else match tree.find path with
  | .error errno => .error (.system errno)
  | .ok .directory => .error (.system .isADirectory)
  | .ok (.file content _) => .ok content
  | .ok (.program _) => .ok []
  | .ok (.socket _) => .error (.system .noSuchDevice)
  | .ok .nullDevice => .ok []

/-- The content of a file that must be text. -/
def readText (tree : Tree) (path : String) : Except IoCause String := do
  match Text.Utf8.decode? (← tree.read path) with
  | some text => .ok text
  | none => .error (.described "stream did not contain valid UTF-8")

/-- The absolute name of something that a path is to name from now on.  The directory it is in must
be there, and it must not; a slash at the end is allowed for a directory only. -/
def vacant (tree : Tree) (path : String) (forDirectory : Bool) :
    Except Errno (List String) :=
  if path.isEmpty then .error .noSuchFile
  else if 4096 ≤ path.utf8ByteSize then .error .nameTooLong
  else match tree.walk (tree.origin path) ((splitEnd path).1 ++ ["."]) with
  | .error errno => .error errno
  | .ok reached =>
    match (splitEnd path).2 with
    | .place => .error .fileExists
    | .name part slash =>
      if 255 < part.utf8ByteSize then .error .nameTooLong
      else if (tree.node? (reached ++ [part])).isSome then .error .fileExists
      else if slash && !forDirectory then .error .noSuchFile
      else .ok (reached ++ [part])

/-- Does a path end in a slash after a name that is not there, in a directory that is? -/
def wouldBeDirectory (tree : Tree) (path : String) : Bool :=
  match tree.vacant path true with
  | .ok _ => endsInSlash path
  | .error _ => false

def makeDirectory (tree : Tree) (path : String) : Except Errno Tree := do
  return tree.put (← tree.vacant path true) .directory

/-- Makes a directory and, if need be, those it is in; `steps` bounds how many. -/
def makeDirectoriesWithin (tree : Tree) (path : String) : Nat → Except Errno Tree
  | 0 => .error .noSuchFile
  | steps + 1 =>
    if path.isEmpty then .ok tree
    else match tree.makeDirectory path with
    | .ok tree => .ok tree
    | .error errno =>
      if errno = .noSuchFile then
        match parent path with
        | none => .error errno
        | some above =>
          match tree.makeDirectoriesWithin above steps with
          | .error errno => .error errno
          | .ok tree =>
            match tree.makeDirectory path with
            | .ok tree => .ok tree
            | .error errno => if tree.isDirectory path then .ok tree else .error errno
      else if tree.isDirectory path then .ok tree
      else .error errno

/-- Makes a directory with all those it is in. -/
def makeDirectories (tree : Tree) (path : String) : Except IoCause Tree :=
  if hasNul path then .error nulInName
  else match tree.makeDirectoriesWithin path (path.length + 1) with
  | .ok tree => .ok tree
  | .error errno => .error (.system errno)

/-- Puts a node at a path, making the directories that it is in. -/
def place (tree : Tree) (path : String) (node : Node) : Except IoCause Tree := do
  let tree ← match parent path with
    | some above => tree.makeDirectories above
    | none => .ok tree
  match tree.resolve path with
  | .ok name => .ok (tree.put name node)
  | .error errno => .error (.system errno)

/-- A tree that holds nothing but a working directory and those it is in. -/
def around (working : List String) : Tree :=
  ⟨(List.range working.length).map fun count => (working.take (count + 1), .directory), working,
    []⟩

/-- Removes a name that is no directory. -/
def remove (tree : Tree) (path : String) : Except Errno Tree :=
  if hasNul path then .error .invalidArgument
  else match tree.resolve path with
  | .error errno => .error errno
  | .ok name =>
    match tree.node? name with
    | none => .error .noSuchFile
    | some .directory => .error .isADirectory
    | some _ => .ok (tree.drop name)

def discard (tree : Tree) (path : String) : Tree :=
  match tree.remove path with
  | .ok tree => tree
  | .error _ => tree

/-- Moves a name, with all that is in it, to another, in the place of what was there. -/
def relocate (tree : Tree) (source target : List String) : Tree :=
  let isInside (name : List String) (entry : List String × Node) : Bool := name.isPrefixOf entry.1
  let moved := (tree.nodes.filter (isInside source)).map fun entry =>
    (target ++ entry.1.drop source.length, entry.2)
  let kept := tree.nodes.filter fun entry => !isInside source entry && !isInside target entry
  { tree with nodes := moved ++ kept }

end Tree

end Supervision.Files
