import Supervision.CommandLine
import Supervision.ExitStatus
import Supervision.Host.Copy
import Supervision.Host.TerminalModes
import Supervision.Output.Channel
import Supervision.Shell.Machine

/-!
# The host

The processes that run under a supervisor, the files they share, and what their descriptors are
connected to.  Time is counted in nanoseconds and goes on only when every process has something to
wait for.
-/

namespace Supervision.Host

/-- What a descriptor is connected to. -/
inductive Resource
  | null
  | file (name : List String)
  | directory (name : List String)
  | wire (number : Nat)
  | pipeOut (number : Nat)
  | pipeIn (number : Nat)
  deriving DecidableEq, Repr

/-- An open file with the position that all its descriptors share. -/
structure Description where
  resource : Resource
  position : Nat
  appends : Bool
  deriving DecidableEq, Repr

/-- A wire carries what children write to the supervisor.  A terminal changes it as its modes say,
and it is hung up when the leader of its session exits. -/
structure Wire where
  channel : Output.Channel
  pending : Bytes
  modes : TerminalModes
  hungUp : Bool
  foreground : Option Nat
  deriving Repr

/-- A copy under way: the word that called it, its style and place, the paths still to be copied,
the descriptor of the first of them if it is open, and the status at the end. -/
structure Copying where
  called : String
  style : CopyStyle
  place : CopyPlace
  paths : List String
  current : Option Nat
  status : Nat
  deriving Repr

inductive Image
  | shell (machine : Shell.Machine)
  | utility (name called : String) (arguments : List String)
  | complaining (name message : String) (status : Nat)
  | sleeping (wake : Nat)
  | copying (task : Copying)
  | finishing (status : Nat)
  deriving Repr

structure Process where
  number : Nat
  parent : Nat
  group : Nat
  terminal : Option Nat
  directory : List String
  environment : Environment
  descriptors : List (Nat × Nat)
  ignored : List Nat
  caught : List Nat
  pending : List Nat
  stopped : Bool
  image : Image
  ready : Nat
  ended : Option ExitStatus
  deriving Repr

end Host

/-- The processes under a supervisor and what they share. -/
structure Host where
  files : Files.Tree
  environment : Environment
  processes : List Host.Process
  descriptions : List (Nat × Host.Description)
  wires : List (Nat × Host.Wire)
  pipes : List (Nat × Bytes)
  clock : Nat
  nextProcess : Nat
  nextNumber : Nat
  received : List Nat
  deriving Repr

namespace Host

def supervisorNumber : Nat := 100

/-- The directories that programs are looked up in unless the environment names others. -/
def defaultSearch : String := "/usr/local/sbin:/usr/local/bin:/usr/sbin:/usr/bin:/sbin:/bin"

def shellNames : List String := ["sh", "dash", "bash"]

def utilityNames : List String :=
  ["true", "false", "sleep", "cat", "printf", "rm", "mv", "ls", "touch", "stty", "echo", "pwd", "env",
    "printenv", "test", "[", "mkdir", "rmdir", "basename", "dirname", "seq"]

/-- Files with the programs and devices that every host has. -/
def withPrograms (files : Files.Tree) : Files.Tree :=
  let directories := [["usr"], ["usr", "bin"], ["bin"], ["dev"]]
  let files := directories.foldl (fun files name => files.put name .directory) files
  let files := (shellNames ++ utilityNames).foldl
    (fun files name =>
      (files.put ["usr", "bin", name] (.program name)).put ["bin", name] (.program name)) files
  files.put ["dev", "null"] .nullDevice

def start (files : Files.Tree) (environment : Environment) : Host :=
  let environment := match environment.find? "PATH" with
    | some _ => environment
    | none => environment.insert "PATH" defaultSearch
  { files := withPrograms files
    environment
    processes := []
    descriptions := []
    wires := []
    pipes := []
    clock := 0
    nextProcess := supervisorNumber + 1
    nextNumber := 1
    received := [] }

def process? (host : Host) (number : Nat) : Option Process :=
  host.processes.find? fun process => process.number == number

def modify (host : Host) (number : Nat) (change : Process → Process) : Host :=
  { host with
    processes := host.processes.map fun process =>
      if process.number = number then change process else process }

def description? (host : Host) (number : Nat) : Option Description :=
  host.descriptions.lookup number

def put {α : Type} (entries : List (Nat × α)) (key : Nat) (value : α) : List (Nat × α) :=
  (key, value) :: entries.filter fun entry => entry.1 != key

def setDescription (host : Host) (number : Nat) (description : Description) : Host :=
  { host with descriptions := put host.descriptions number description }

def wire? (host : Host) (number : Nat) : Option Wire := host.wires.lookup number

def setWire (host : Host) (number : Nat) (wire : Wire) : Host :=
  { host with wires := put host.wires number wire }

def filesFor (host : Host) (process : Process) : Files.Tree :=
  { host.files with working := process.directory }

/-- Do any processes that have not ended hold something open? -/
def isHeld (host : Host) (resource : Resource) : Bool :=
  host.processes.any fun process =>
    process.ended.isNone && process.descriptors.any fun entry =>
      match host.description? entry.2 with
      | some description => description.resource == resource
      | none => false

end Host

end Supervision
