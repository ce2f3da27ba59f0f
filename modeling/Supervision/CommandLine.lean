import Supervision.Command.Words
import Supervision.Environment
import Supervision.Failure

/-!
# Command lines

A program with its arguments, the variables laid over the inherited environment, and the directory
it starts in.
-/

namespace Supervision

/-- A program to start and how. -/
structure CommandLine where
  program : String
  arguments : List String
  environment : Environment
  directory : Option String
  deriving DecidableEq, Repr

namespace CommandLine

/-- Reads the words of a command; the name says whose command it is if it cannot be read. -/
def parse (name command : String) : Except Failure CommandLine :=
  match Command.split command with
  | none => .error (.invalidCommand name "missing closing quote")
  | some [] => .error (.invalidCommand name "empty command")
  | some (program :: arguments) => .ok ⟨program, arguments, .empty, none⟩

/-- The words of a command line as one command. -/
def text (line : CommandLine) : String := Command.join (line.program :: line.arguments)

def extendEnvironment (line : CommandLine) (pairs : List (String × String)) : CommandLine :=
  { line with environment := line.environment.extend pairs }

end CommandLine

end Supervision
