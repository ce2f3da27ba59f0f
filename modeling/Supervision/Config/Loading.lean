import Supervision.Config.Document
import Supervision.Expansion
import Supervision.Files.Tree

/-!
# Loading of configurations

A configuration is read from the first place that has one, or from a given file, and checked
before anything is started: every process must have a name and a command that can be read.  A name
used twice is only warned about.
-/

namespace Supervision.Config

/-- The options that a process entry stands for; variables are expanded in the environment. -/
def ProcessEntry.options (entry : ProcessEntry) (env : Environment) : List ProcessOption :=
  let pairs := (entry.environment.mapValues (Expansion.expand env.lookup)).entries
  (if pairs.isEmpty then [] else [.environment pairs])
    ++ entry.stopSignal.toList.map .stopSignal
    ++ entry.directory.toList.map .directory
    ++ entry.restart.toList.map fun restart =>
      .restart (.ofLimit restart.limit (.ofMillis restart.delayMillis.toNat))

def ProcessEntry.toSpec (entry : ProcessEntry) (env : Environment) : Except Failure ProcessSpec :=
  ProcessSpec.build entry.name entry.command (entry.options env)

/-- The descriptions of all processes, or what is wrong with the first bad one. -/
def Launcher.specs (config : Launcher) (env : Environment) : Except Failure (List ProcessSpec) :=
  config.processes.mapM (·.toSpec env)

/-- A warning for every entry whose name was used before. -/
def repeatedNames : List String → List String → List String
  | _, [] => []
  | seen, name :: rest =>
    if seen.contains name then
      ("Process name " ++ Text.quoted name
        ++ " is used more than once; output prefixes will be ambiguous")
        :: repeatedNames seen rest
    else repeatedNames (name :: seen) rest

/-- A configuration that was accepted, with the warnings about it. -/
structure Loaded where
  config : Launcher
  warnings : List String
  deriving DecidableEq, Repr

def check (config : Launcher) (env : Environment) : Except Failure Loaded := do
  if config.processes.isEmpty then .error (.config "no processes configured")
  let _ ← config.specs env
  .ok ⟨config, repeatedNames [] (config.processes.map (·.name))⟩

/-- Reads and checks a document. -/
def parse (env : Environment) (document : String) : Except Failure Loaded :=
  match readLauncher.read (Text.Utf8.encode document) with
  | .error fault => .error (.config ("Failed to parse config: " ++ fault.message))
  | .ok config => check config env

def loadFile (files : Files.Tree) (env : Environment) (path : String) : Except Failure Loaded :=
  match files.readText path with
  | .error cause => .error (.io cause)
  | .ok document =>
    match parse env document with
    | .ok loaded => .ok loaded
    | .error failure => .error (.config (path ++ ": " ++ failure.message))

def fileName : String := "pgvisor.json"

/-- The directories that are searched before any that are added. -/
def searchPaths : List String := [".", "./config"]

/-- Loads the first configuration found in some directories. -/
def load (files : Files.Tree) (env : Environment) (directories : List String) :
    Except Failure Loaded :=
  let candidates := directories.map fun directory => Files.join directory fileName
  match candidates.find? files.exists with
  | some path => loadFile files env path
  | none =>
    .error (.config ("no " ++ fileName ++ " found in ["
      ++ ", ".intercalate (directories.map Text.quotedPath) ++ "]"))

end Supervision.Config
