import Supervision.Host.Process
import Supervision.Host.ShownName

/-!
# Calls of utilities

The small programs that every host has.  Except for those that wait, each looks at its words and at
the files, and at once says what it writes, how the files are afterwards, and its exit status.
-/

namespace Supervision.Host

/-- What a utility is given: which it is, the word it was called by and those after it, and what it
finds around it. -/
structure Call where
  name : String
  called : String
  arguments : List String
  environment : Environment
  files : Files.Tree
  terminal : Option Wire
  isTerminal : Nat → Bool

/-- What a utility does: writes to descriptors, in order, and changes to files and terminal. -/
structure Outcome where
  writes : List (Nat × Bytes)
  files : Files.Tree
  terminal : Option Wire
  status : Nat

namespace Call

def finish (call : Call) (status : Nat) : Outcome := ⟨[], call.files, call.terminal, status⟩

def prints (call : Call) (bytes : Bytes) (status : Nat) : Outcome :=
  { call.finish status with writes := [(1, bytes)] }

def complaint (call : Call) (message : String) : Nat × Bytes :=
  (2, Text.Utf8.encode (call.called ++ ": " ++ message ++ "\n"))

def complain (call : Call) (message : String) (status : Nat) : Outcome :=
  { call.finish status with writes := [call.complaint message] }

/-- How many columns a list may have, on a terminal that has so many, or none of its own. -/
def width (call : Call) (columns : Nat) : Nat :=
  if call.isTerminal 1 && columns != 0 then columns
  else
    let asked := ((call.environment.find? "COLUMNS").bind String.toNat?).getD 0
    if asked = 0 then 80 else asked

/-- A complaint with the advice to ask for help. -/
def misused (call : Call) (message : String) : Outcome :=
  call.complain (message ++ "\nTry '" ++ call.called ++ " --help' for more information.")
    (if call.name == "ls" then 2 else if call.name == "env" then 125 else 1)

end Call

/-- Words of a utility: the letters of its options and its operands. -/
structure Options where
  letters : List Char
  operands : List String

/-- Tells options from operands; after two dashes all words are operands. -/
def readOptions : List String → Options
  | [] => ⟨[], []⟩
  | word :: rest =>
    if word == "--" then ⟨[], rest⟩
    else
      let read := readOptions rest
      match word.toList with
      | '-' :: letters =>
        if letters.isEmpty then { read with operands := word :: read.operands }
        else { read with letters := letters ++ read.letters }
      | _ => { read with operands := word :: read.operands }

/-- What is wrong with the options among some words, given the letters that are known. -/
def optionFault? (known : String) : List String → Option String
  | [] => none
  | word :: rest =>
    if word == "--" then none
    else match word.toList with
    | '-' :: '-' :: _ => some ("unrecognized option '" ++ word ++ "'")
    | '-' :: letters =>
      match letters.find? fun letter => !known.toList.contains letter with
      | some letter => some ("invalid option -- '" ++ String.ofList [letter] ++ "'")
      | none => optionFault? known rest
    | _ => optionFault? known rest

/-- The files after an action on each operand, with what the actions tell and what they complain
about. -/
def eachOperand (call : Call) (operands : List String)
    (act : Files.Tree → String → Except String (String × Files.Tree)) : Outcome :=
  let (files, writes, status) := operands.foldl
    (fun (files, writes, status) operand =>
      match act files operand with
      | .ok (note, files) => (files, writes ++ [(1, Text.Utf8.encode note)], status)
      | .error message => (files, writes ++ [call.complaint message], 1)) (call.files, [], 0)
  ⟨writes, files, call.terminal, status⟩

def note (options : Options) (line : String) : String :=
  if options.letters.contains 'v' then line ++ "\n" else ""

end Supervision.Host
