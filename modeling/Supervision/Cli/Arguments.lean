import Supervision.Cli.Switches
import Supervision.Environment

/-!
# Commands

What the program is called to do.  A configuration that is not named among the arguments may be named
in the environment; an empty name is refused in either place.
-/

namespace Supervision.Cli

/-- The options of a run; what is left out is taken from the configuration. -/
structure RunOptions where
  config : Option String
  adminSocket : Option String
  pipe : Bool
  gracefulMillis : Option UInt64
  deriving DecidableEq, Repr

inductive Command
  | run (options : RunOptions)
  | check (config : Option String)
  | status (socket : Option String) (asJson : Bool)
  | stop (socket : Option String)
  deriving DecidableEq, Repr

/-- What a list of arguments asks for. -/
inductive Invocation
  | command (command : Command)
  | version
  | help
  | misused
  deriving DecidableEq, Repr

/-- Sets what was not set before. -/
def setOnce {α : Type} (value : α) : Option α → Option (Option α)
  | none => some (some value)
  | some _ => none

/-- Sets a path; the empty path is refused. -/
def setPath (text : String) (path : Option String) : Option (Option String) :=
  if text.isEmpty then none else setOnce text path

def setFlag : Bool → Option Bool
  | false => some true
  | true => none

/-- Reads a number of 64 bits in decimal digits, with or without a plus sign. -/
def readWord (text : String) : Option UInt64 :=
  let digits := match text.toList with
    | '+' :: rest => rest
    | all => all
  if digits.isEmpty || !digits.all Char.isDigit then none
  else
    let value : Nat := digits.foldl (fun value digit => value * 10 + (digit.toNat - 0x30)) 0
    if value < 0x10000000000000000 then some value.toUInt64 else none

def configSwitch {α : Type} (set : String → α → Option α) : Switch α :=
  ⟨"config", some 'c', .takes set⟩

def socketSwitch {α : Type} (set : String → α → Option α) : Switch α :=
  ⟨"socket", some 's', .takes set⟩

def runSwitches : List (Switch RunOptions) :=
  [configSwitch fun text options =>
      (setPath text options.config).map fun config => { options with config },
    ⟨"admin-socket", none, .takes fun text options =>
      (setPath text options.adminSocket).map fun adminSocket => { options with adminSocket }⟩,
    ⟨"pipe", none, .flag fun options =>
      (setFlag options.pipe).map fun pipe => { options with pipe }⟩,
    ⟨"graceful-timeout", none, .takes fun text options => do
      let gracefulMillis ← setOnce (← readWord text) options.gracefulMillis
      some { options with gracefulMillis }⟩]

def checkSwitches : List (Switch (Option String)) := [configSwitch setPath]

def statusSwitches : List (Switch (Option String × Bool)) :=
  [socketSwitch fun text (socket, asJson) =>
      (setPath text socket).map fun socket => (socket, asJson),
    ⟨"json", some 'j', .flag fun (socket, asJson) =>
      (setFlag asJson).map fun asJson => (socket, asJson)⟩]

def stopSwitches : List (Switch (Option String)) := [socketSwitch setPath]

/-- The variable that may name a configuration. -/
def configVariable : String := "PGVISOR_CONFIG"

/-- The configuration named by the arguments or else by the environment. -/
def namedConfig (env : Environment) (given : Option String) : Option (Option String) :=
  match given, env.find? configVariable with
  | some path, _ => some (some path)
  | none, none => some none
  | none, some path => setPath path none

def Invocation.ofReading {α : Type} (reading : Reading α) (finish : α → Option Command) :
    Invocation :=
  match reading with
  | .read value =>
    match finish value with
    | some wanted => .command wanted
    | none => .misused
  | .help => .help
  | .misused => .misused

def commandNames : List String := ["run", "check", "status", "stop", "help"]

def Invocation.ofArguments (env : Environment) : List String → Invocation
  | [] => .misused
  | name :: rest =>
    if name == "run" then
      ofReading (Switch.readAll runSwitches ⟨none, none, false, none⟩ rest) fun options =>
        (namedConfig env options.config).map fun config => .run { options with config }
    else if name == "check" then
      ofReading (Switch.readAll checkSwitches none rest) fun given =>
        (namedConfig env given).map .check
    else if name == "status" then
      ofReading (Switch.readAll statusSwitches (none, false) rest) fun (socket, asJson) =>
        some (.status socket asJson)
    else if name == "stop" then
      ofReading (Switch.readAll stopSwitches none rest) fun socket => some (.stop socket)
    else if name == "help" then
      match rest with
      | [] => .help
      | [topic] => if commandNames.contains topic then .help else .misused
      | _ => .misused
    else if name == "--version" then .version
    else if name == "--help" then .help
    else match name.toList with
    | '-' :: 'V' :: _ => .version
    | '-' :: 'h' :: _ => .help
    | _ => .misused

end Supervision.Cli
