import Supervision.Host.FileChanges
import Supervision.Host.Listing
import Supervision.Host.Printing
import Supervision.Host.TerminalSettings

/-!
# Utilities

Which utilities a host has, the options each of them knows, and how long those that wait do so.
-/

namespace Supervision.Host

/-- The letters that the options of a utility may have; none if it takes its words as they are. -/
def knownLetters? (name : String) : Option String :=
  match name with
  | "rm" => some "dfiIrRv"
  | "mv" => some "bfinSTtuvZ"
  | "touch" => some "acdfhmrt"
  | "ls" => some "aAbBcCdDfFgGhHiIklLmnNopqQrRsStTuUvwxXZ1"
  | "cat" => some "AbeEnstTuv"
  | "sleep" => some ""
  | "mkdir" => some "pv"
  | "rmdir" => some "pv"
  | _ => none

/-- What is wrong with the options of a utility. -/
def misuse? (name : String) (arguments : List String) : Option String :=
  (knownLetters? name).bind fun known => optionFault? known arguments

/-- Runs a utility that does not wait. -/
def Call.run (call : Call) : Outcome :=
  match misuse? call.name call.arguments with
  | some message => call.misused message
  | none =>
  match call.name with
  | "true" => call.finish 0
  | "false" => call.finish 1
  | "printf" => print call
  | "rm" => remove call
  | "mv" => move call
  | "ls" => list call
  | "touch" => touch call
  | "mkdir" => makeDirectories call
  | "rmdir" => removeDirectories call
  | "echo" => echoAloud call
  | "pwd" => printWorking call
  | "printenv" => printEnvironment call
  | "test" | "[" => answer call
  | "basename" => printBaseName call
  | "dirname" => printDirectoryName call
  | "seq" => printNumbers call
  | "stty" => terminalSettings call
  | _ => call.finish 0

/-- The nanoseconds that one duration of a sleep names: a number with a fraction and a unit. -/
def duration? (text : String) : Option Nat :=
  let chars := text.toList
  let whole := chars.takeWhile Char.isDigit
  let rest := chars.drop whole.length
  let (fraction, rest) := match rest with
    | '.' :: more =>
      let digits := more.takeWhile Char.isDigit
      (digits, more.drop digits.length)
    | _ => ([], rest)
  let unit? : Option Nat := match rest with
    | [] | ['s'] => some 1
    | ['m'] => some 60
    | ['h'] => some 3600
    | ['d'] => some 86400
    | _ => none
  if whole.isEmpty && fraction.isEmpty then none
  else
    let nanos := fraction.take 9
    let value := (String.ofList (whole ++ nanos ++ List.replicate (9 - nanos.length) '0')).toNat?
    unit?.bind fun unit => value.map (· * unit)

/-- How long a sleep lasts, or what is wrong with its words: each of them that is no duration. -/
def sleepLength (arguments : List String) : Except (List String) Nat :=
  let length? (text : String) : Option Nat :=
    if text == "infinity" || text == "inf" then some 100000000000000000000 else duration? text
  let words := if arguments.head? = some "--" then arguments.tail else arguments
  match words.filter fun text => (length? text).isNone with
  | [] => if words.isEmpty then .error ["missing operand"] else .ok ((words.filterMap length?).foldl Nat.add 0)
  | wrong => .error (wrong.map fun text => "invalid time interval " ++ escaped text)

end Supervision.Host
