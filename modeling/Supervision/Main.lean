import Supervision.Cli.Program

/-!
# The command line

Takes the arguments, the environment and the configuration files that may be asked for from the
system, and prints what the call comes to.
-/

namespace Supervision

def readEnvironment : IO Environment := do
  let listing ← IO.FS.readBinFile "/proc/self/environ"
  let text := Text.Utf8.decodeLenient listing.toList
  let pairs := (text.splitOn "\x00").filterMap fun entry =>
    match entry.splitOn "=" with
    | name :: value :: more => some (name, "=".intercalate (value :: more))
    | _ => none
  return .ofList pairs

/-- The configuration files that a call may look at. -/
def candidateFiles (env : Environment) (arguments : List String) : List String :=
  let found := Config.searchPaths.map fun directory => Files.join directory Config.fileName
  match Cli.Invocation.ofArguments env arguments with
  | .command (.run options) => options.config.elim found fun path => [path]
  | .command (.check path) => path.elim found fun path => [path]
  | _ => []

/-- Puts a file into a tree if it can be read. -/
def copyFile (files : Files.Tree) (path : String) : IO Files.Tree := do
  try
    let content ← IO.FS.readBinFile path
    match files.place path (.file content.toList false) with
    | .ok files => return files
    | .error _ => return files
  catch _ => return files

/-- The files that a call may look at. -/
def readFiles (env : Environment) (arguments : List String) : IO Files.Tree := do
  let working ← IO.currentDir
  (candidateFiles env arguments).foldlM copyFile (.around (Files.names working.toString))

end Supervision

open Supervision in
def main (arguments : List String) : IO UInt32 := do
  let environment ← readEnvironment
  let files ← readFiles environment arguments
  let outcome := Cli.call ⟨files, environment, []⟩ arguments
  let output ← IO.getStdout
  output.write (ByteArray.mk outcome.output.toArray)
  output.flush
  match outcome with
  | .succeeded _ => return 0
  | .failed _ report =>
    IO.eprint report.text
    return 1
  | .misused =>
    IO.eprint Cli.helpText
    return 2
