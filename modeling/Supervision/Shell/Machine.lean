import Supervision.ExitStatus
import Supervision.Shell.Fields
import Supervision.Shell.Token

/-!
# The state of a shell

A shell at work is a machine with a control, which says what it does now, and a stack of frames,
which say what it does afterwards.  So it can stop at any point to wait for a child, be copied into
a child of its own, or turn to the action of a trap between two commands.
-/

namespace Supervision.Shell

/-- What a variable was before it was changed for a while. -/
structure Former where
  name : String
  value : Option String
  isExported : Bool
  deriving Repr

/-- What a variable is now. -/
def Former.of (scope : Variables) (name : String) : Former :=
  ⟨name, scope.values.find? name, scope.exported.contains name⟩

/-- Variables as they were before. -/
def Former.restore (former : Former) (scope : Variables) : Variables :=
  let others := scope.exported.filter (· != former.name)
  { scope with
    values := former.value.elim (scope.values.erase former.name) (scope.values.insert former.name)
    exported := if former.isExported then former.name :: others else others }

/-- The text that commands are read from: what is left of it, whether the shell may give way to the
last of them, and the command or file that it came from, if that is not the script itself. -/
structure Reader where
  source : Source
  mayReplace : Bool
  within : Option String
  deriving Repr

/-- What is left to do when a command is over. -/
inductive Frame
  | script
  | evaluated (reader : Reader) (isFile : Bool)
  | trapped (reader : Reader) (status : Nat)
  | next (second : Command)
  | andThen (second : Command)
  | orElse (second : Command)
  | negate
  | branch (yes no : Command)
  | tested (untilTrue : Bool) (test body : Command) (status : Nat)
  | looped (untilTrue : Bool) (test body : Command)
  | eachWord (name : String) (words : List String) (body : Command)
  | restore (saved : List (Nat × Option Nat))
  | called (parameters : Parameters) (locals : List Former)
  | assigned (formers : List Former)
  deriving Repr

/-- What the shell does now. -/
inductive Control
  | nextLine
  | listening (taken : List UInt8)
  | run (command : Command)
  | detach (command : Command)
  | done (status : Nat)
  | awaiting (children : List Nat) (last status : Nat)
  | capturing (child : Nat) (descriptor : Nat) (output : List UInt8) (resume : Command)
  | waitingFor (children : List Nat) (all : Bool) (last : Nat)
  | reading (names : List String) (raw : Bool) (taken : List UInt8)
  | replace (words : List String) (environment : Environment) (line : Nat) (asked : Bool)
  | leave (status : Nat)
  | failing
  deriving Repr

/-- A shell at work.  Its jobs are children that it has not waited for yet; of some of them it knows
how they ended. -/
structure Machine where
  scope : Variables
  functions : List (String × Command)
  traps : List (Nat × String)
  reader : Reader
  control : Control
  stack : List Frame
  jobs : List Nat
  ended : List (Nat × ExitStatus)
  waited : List (Nat × Nat)
  aliases : List (String × String)
  mask : Nat
  line : Nat
  substituted : Option Nat
  leaving : Bool
  deriving Repr

namespace Machine

def start (scope : Variables) (script : String) (mayReplace : Bool) : Machine :=
  { scope
    functions := []
    traps := []
    reader := ⟨.ofText script.toList 1, mayReplace, none⟩
    control := .nextLine
    stack := []
    jobs := []
    ended := []
    waited := []
    aliases := []
    mask := 18
    line := 1
    substituted := none
    leaving := false }

/-- The machine before a script that still has to come in as input. -/
def listen (machine : Machine) : Machine := { machine with control := .listening [] }

/-- The signals that have an action of their own. -/
def caught (machine : Machine) : List Nat :=
  (machine.traps.filter fun trap => trap.1 != 0 && !trap.2.isEmpty).map (·.1)

def hasOption (machine : Machine) (letter : Char) : Bool :=
  machine.scope.letters.contains letter

/-- Is the result of the command under way looked at by another command? -/
def isTested (stack : List Frame) : Bool :=
  stack.any fun frame =>
    match frame with
    | .andThen _ | .orElse _ | .negate | .branch .. | .tested .. => true
    | _ => false

/-- The machine a child begins with: it runs one command and is then through.  Actions of traps
stay behind, but what was ignored is ignored still. -/
def child (machine : Machine) (command : Command) : Machine :=
  { machine with
    traps := machine.traps.filter fun trap => trap.2.isEmpty
    reader := { machine.reader with
      source := .ofText [] machine.reader.source.line, mayReplace := true }
    control := .run command
    stack := []
    jobs := []
    ended := []
    waited := []
    leaving := false }

/-- A message about a line, with the command that it is from if it is one of the shell's own. -/
def complaint (machine : Machine) (line : Nat) (command : Option String) (message : String) :
    String :=
  machine.scope.name ++ ": " ++ toString line ++ ": " ++ command.elim "" (· ++ ": ") ++ message
    ++ "\n"

end Machine

end Supervision.Shell
