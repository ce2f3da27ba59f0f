import Supervision.Host.Jobs
import Supervision.Host.Limits
import Supervision.Host.WorkingDirectory
import Supervision.Shell.Options
import Supervision.Shell.Reading

/-!
# Commands of the shell itself

The commands that a shell carries out without starting a program.  Some of them change what the
shell does next: they leave loops, functions or the shell, wait, or turn to another text.
-/

namespace Supervision.Host.Builtin

open Shell (Machine Control Frame)

def formatMessage : FormatFault → String
  | .notNumeric operand => operand ++ ": expected numeric value"
  | .partlyNumeric operand => operand ++ ": not completely converted"
  | .outOfRange operand => operand ++ ": Numerical result out of range"
  | .unknownDirective text => text ++ ": invalid directive"
  | .unfinishedDirective _ => "missing format character"
  | .moreCharacters text | .moreOperands text => text

def printFormat (work : Working) (line : Nat) (arguments : List String) : Working :=
  match leadingLetters [] [] arguments with
  | .error message => abort work line "printf" message
  | .ok (_, []) => fault work line "printf" "usage: printf format [arg ...]" 2
  | .ok (_, text :: operands) =>
    let segments := format .shell text operands
    let faults := segmentFaults segments
    let work := faults.foldl
      (fun work fault => work.complainBy line "printf" (formatMessage fault)) work
    let (_, work) := work.say 1 (segmentBytes segments)
    work.complete (if faults.isEmpty then 0 else if faults.any FormatFault.isOfFormat then 2 else 1)

def test (work : Working) (line : Nat) (name : String) (arguments : List String) : Working :=
  let around : Conditions.Surroundings :=
    ⟨work.files, fun descriptor => work.host.isTerminal work.number descriptor⟩
  let answer :=
    if name == "[" then Conditions.holdsInBrackets around arguments
    else Conditions.holds around arguments
  match answer with
  | .ok holds => work.complete (if holds then 0 else 1)
  | .error reason => fault work line name reason.message 2

def leave (work : Working) (line : Nat) (arguments : List String) : Working :=
  match count? arguments work.machine.scope.status with
  | .ok status => work.withControl (.leave status)
  | .error text => abort work line "exit" ("Illegal number: " ++ text)

def returns (work : Working) (line : Nat) (arguments : List String) : Working :=
  match count? arguments work.machine.scope.status with
  | .error text => abort work line "return" ("Illegal number: " ++ text)
  | .ok status =>
    match unwindCall work work.machine.stack with
    | some work => work.withControl (.done status)
    | none => work.withControl (.leave status)

def leaveLoop (work : Working) (line : Nat) (goesOn : Bool) (arguments : List String) : Working :=
  match count? arguments 1 with
  | .error text =>
    abort work line (if goesOn then "continue" else "break") ("Illegal number: " ++ text)
  | .ok count =>
    match unwindLoop work (min count (loopDepth work.machine.stack)) work.machine.stack with
    | none => work.withControl (.done 0)
    | some (frame, work) =>
      if !goesOn then work.withControl (.done 0)
      else match frame with
      | .tested untilTrue test body _ => work.push (.tested untilTrue test body 0) test
      | frame =>
        { work with
          machine := { work.machine with
            stack := frame :: work.machine.stack, control := .done 0 } }

/-- A name with the value that may follow it after an equals sign. -/
def nameAndValue (argument : String) : String × Option String :=
  let chars := argument.toList
  (String.ofList (chars.takeWhile (· != '=')),
    (chars.dropWhile (· != '=')).tail?.map String.ofList)

/-- Changes variables for each argument in turn; the first fault ends the shell. -/
def changeEach (work : Working) (line : Nat) (command : String) (arguments : List String)
    (change : Shell.Variables → String → Option String → Except String Shell.Variables) :
    Working :=
  let changed := arguments.foldlM
    (fun scope argument =>
      let (name, value) := nameAndValue argument
      if Shell.isName name then change scope name value
      else .error (name ++ ": bad variable name")) work.machine.scope
  match changed with
  | .ok scope => (work.withVariables scope).complete 0
  | .error message => abort work line command message

/-- Sets a variable if a value is given for it. -/
def assignGiven (scope : Shell.Variables) (name : String) (value : Option String) :
    Except String Shell.Variables :=
  match value with
  | some value => scope.assign name value
  | none => .ok scope

def exports (work : Working) (line : Nat) (arguments : List String) : Working :=
  changeEach work line "export" (arguments.filter (· != "-p")) fun scope name value =>
    (assignGiven scope name value).map fun scope =>
      { scope with exported := name :: scope.exported }

def protects (work : Working) (line : Nat) (arguments : List String) : Working :=
  changeEach work line "readonly" (arguments.filter (· != "-p")) fun scope name value =>
    (assignGiven scope name value).map fun scope =>
      { scope with readOnly := name :: scope.readOnly }

/-- Notes what a variable was before it became local to the call of a function. -/
def noteLocal (scope : Shell.Variables) (name : String) : List Frame → Option (List Frame)
  | [] => none
  | .called parameters locals :: rest =>
    let known := locals.any fun former => former.name == name
    let locals := if known then locals else .of scope name :: locals
    some (.called parameters locals :: rest)
  | frame :: rest => (noteLocal scope name rest).map fun stack => frame :: stack

/-- Makes variables local to the call of a function. -/
def locals (work : Working) (line : Nat) : List String → Working
  | [] => work.complete 0
  | argument :: rest =>
    let (name, value) := nameAndValue argument
    match noteLocal work.machine.scope name work.machine.stack with
    | none => abort work line "local" "not in a function"
    | some stack =>
      match assignGiven work.machine.scope name value with
      | .error message => abort work line "local" message
      | .ok scope =>
        locals { work with machine := { work.machine with stack, scope } } line rest

def unsets (work : Working) (line : Nat) (arguments : List String) : Working :=
  let names := arguments.filter fun argument => argument != "-v" && argument != "-f"
  if arguments.contains "-f" then
    ({ work with
      machine := { work.machine with
        functions := work.machine.functions.filter fun entry => !names.contains entry.1 } }
    : Working).complete 0
  else
    changeEach work line "unset" names fun scope name _ =>
      if scope.readOnly.contains name then .error (name ++ ": is read only")
      else
        .ok
          { scope with
            values := scope.values.erase name
            exported := scope.exported.filter (· != name) }

/-- The variables as commands that would set them. -/
def variableList (scope : Shell.Variables) : String :=
  let sorted := scope.values.entries.mergeSort fun first second => decide (first.1 ≤ second.1)
  String.join (sorted.map fun (name, value) => name ++ "=" ++ Shell.quoted value ++ "\n")

def sets (work : Working) (line : Nat) (arguments : List String) : Working :=
  let scope := work.machine.scope
  if arguments.isEmpty then prints work (Text.Utf8.encode (variableList scope)) 0
  else
    let before : Shell.SettingWords := ⟨scope.letters, false, [], none⟩
    match Shell.readSettings false (arguments.length + 1) before arguments with
    | .error message => abort work line "set" message
    | .ok read =>
      let scope := { scope with letters := read.letters }
      let scope := read.operands.elim scope scope.setPositional
      let lists := read.shows.map fun asTable => Shell.settingList asTable read.letters
      prints (work.withVariables scope) (Text.Utf8.encode (String.join lists)) 0

def shifts (work : Working) (line : Nat) (arguments : List String) : Working :=
  let scope := work.machine.scope
  match count? arguments 1 with
  | .error text => abort work line "shift" ("Illegal number: " ++ text)
  | .ok count =>
    if scope.positional.length < count then abort work line "shift" "can't shift that many"
    else
      (work.withVariables (scope.setPositional (scope.positional.drop count))).complete 0

def reads (work : Working) (line : Nat) (arguments : List String) : Working :=
  match Shell.Reading.words false "" arguments with
  | .error message => abort work line "read" message
  | .ok (_, _, []) => abort work line "read" "arg count"
  | .ok (raw, prompt, names) =>
    let asks := work.host.isTerminal work.number 0
    let work := if asks then (work.say 2 (Text.Utf8.encode prompt)).2 else work
    work.withControl (.reading names raw [])

def executes (work : Working) (line : Nat) (arguments : List String) : Working :=
  if arguments.isEmpty then work.complete 0
  else work.withControl (.replace arguments work.machine.scope.environment line true)

/-- Turns to a text, and comes back to the script after it.  Complaints then name the command or the
file that the text came from. -/
def turnTo (work : Working) (text within : String) (isFile : Bool) : Working :=
  let machine := work.machine
  let reader := machine.reader
  { work with
    machine := { machine with
      reader := ⟨.ofText text.toList 1, false, some within⟩
      control := .nextLine
      stack := .evaluated reader isFile :: machine.stack } }

/-- The path of a file that is looked for in the directories of the search path, unless its name
holds a slash. -/
def sourcePath? (work : Working) (name : String) : Option String :=
  if name.toList.contains '/' then some name
  else
    let search := (work.machine.scope.values.find? "PATH").getD ""
    ((search.splitOn ":").map fun directory => searchCandidate directory name).find? fun path =>
      match work.files.find path with
      | .ok (.file ..) => true
      | _ => false

def sources (work : Working) (line : Nat) (arguments : List String) : Working :=
  match arguments with
  | [] => work.complete 0
  | name :: _ =>
    match sourcePath? work name with
    | none => abort work line "." (name ++ ": not found")
    | some path =>
      match scriptAt? work.files path with
      | some text => turnTo work text path true
      | none => abort work line "." ("cannot open " ++ path ++ ": No such file")

/-- The names of the commands that a shell carries out itself. -/
def names : List String :=
  [":", ".", "[", "alias", "bg", "break", "cd", "command", "continue", "echo", "eval", "exec",
  "exit", "export", "false", "fg", "getopts", "hash", "jobs", "kill", "local", "printf", "pwd",
  "read", "readonly", "return", "set", "shift", "test", "times", "trap", "true", "type", "ulimit",
  "umask", "unalias", "unset", "wait"]

/-- What a name stands for as a command: the word that calls it and what it is, if anything. -/
def meaning? (work : Working) (name : String) : Option (String × String) :=
  if Shell.Scanner.keywords.contains name then some (name, "a shell keyword")
  else if (work.machine.functions.lookup name).isSome then some (name, "a shell function")
  else if Shell.isSpecialCommand name then some (name, "a special shell builtin")
  else if names.contains name then some (name, "a shell builtin")
  else if name.toList.contains '/' then
    if work.files.exists name then some (name, name) else none
  else
    match findExecutable work.files (work.machine.scope.values.find? "PATH") name with
    | .ok (path, _) => some (path, path)
    | .error _ => none

/-- Says what names stand for as commands, in one word or in a sentence each. -/
def describes (work : Working) (short : Bool) (names : List String) : Working :=
  let found := names.map fun name => (name, meaning? work name)
  let line (name : String) : Option (String × String) → String
    | some (word, what) => (if short then word else name ++ " is " ++ what) ++ "\n"
    | none => if short then "" else name ++ ": not found\n"
  let text := String.join (found.map fun (name, meaning) => line name meaning)
  prints work (Text.Utf8.encode text) (if found.all fun entry => entry.2.isSome then 0 else 127)

def aliasLine (name text : String) : String := name ++ "=" ++ Shell.quoted text ++ "\n"

/-- Defines aliases and shows those that are only named; without words, shows all. -/
def namesAliases (work : Working) (arguments : List String) : Working :=
  if arguments.isEmpty then
    let sorted := work.machine.aliases.mergeSort fun first second => decide (first.1 ≤ second.1)
    prints work (Text.Utf8.encode (String.join (sorted.map fun entry => aliasLine entry.1 entry.2))) 0
  else
    let (work, status) := arguments.foldl
      (fun (work, status) argument =>
        let aliases := work.machine.aliases
        match nameAndValue argument with
        | (name, some text) =>
          let others := aliases.filter fun entry => entry.1 != name
          ({ work with machine := { work.machine with aliases := (name, text) :: others } }, status)
        | (name, none) =>
          match aliases.lookup name with
          | some text => ((work.say 1 (Text.Utf8.encode (aliasLine name text))).2, status)
          | none =>
            let complaint := "alias: " ++ name ++ " not found\n"
            ((work.say 2 (Text.Utf8.encode complaint)).2, 1)) (work, 0)
    work.complete status

def forgetsAliases (work : Working) (arguments : List String) : Working :=
  let (work, status) := arguments.foldl
    (fun (work, status) argument =>
      let aliases := work.machine.aliases
      if argument == "-a" then ({ work with machine := { work.machine with aliases := [] } }, status)
      else if (aliases.lookup argument).isSome then
        let aliases := aliases.filter fun entry => entry.1 != argument
        ({ work with machine := { work.machine with aliases } }, status)
      else
        ((work.say 2 (Text.Utf8.encode ("unalias: " ++ argument ++ " not found\n"))).2, 1)) (work, 0)
  work.complete status

/-- Says what a name stands for, if the options of the word that comes before it ask for that. -/
def describesOne (work : Working) (line : Nat) (arguments : List String) : Working :=
  match leadingLetters ['p', 'v', 'V'] [] arguments with
  | .error message => abort work line "command" message
  | .ok (letters, name :: _) =>
    if letters.any (· != 'p') then describes work (!letters.contains 'V') [name]
    else work.complete 0
  | .ok (_, []) => work.complete 0

def readsOption (work : Working) (line : Nat) (arguments : List String) : Working :=
  let arguments := if arguments.head? = some "--" then arguments.tail else arguments
  match arguments with
  | known :: name :: words =>
    let scope := work.machine.scope
    let words := if words.isEmpty then scope.positional else words
    let place := scope.parameters
    let read := Shell.readOption known.toList words place.optionWord place.optionOffset
    let (_, work) := work.say 2 (Text.Utf8.encode read.complaint)
    let values := match read.value with
      | .kept => scope.values
      | .unset => scope.values.erase "OPTARG"
      | .given text => scope.values.insert "OPTARG" text
    let values := values.insert "OPTIND" (toString read.word)
    let parameters := { place with optionWord := read.word, optionOffset := read.offset }
    match ({ scope with values, parameters } : Shell.Variables).assign name
        (String.ofList [read.letter]) with
    | .ok scope => (work.withVariables scope).complete (if read.isOver then 1 else 0)
    | .error message => abort work line "getopts" message
  | _ => abort work line "getopts" "Usage: getopts optstring var [arg...]"

/-- Carries a command out, if it is one of the shell's own. -/
def run? (work : Working) (line : Nat) (name : String) (arguments : List String) :
    Option Working :=
  match name with
  | ":" | "true" | "times" | "hash" => some (work.complete 0)
  | "alias" => some (namesAliases work arguments)
  | "unalias" => some (forgetsAliases work arguments)
  | "umask" => some (setsMask work line arguments)
  | "ulimit" => some (limits work line arguments)
  | "fg" | "bg" => some (fault work line name "No current job" 2)
  | "false" => some (work.complete 1)
  | "echo" => some (prints work (echo arguments) 0)
  | "printf" => some (printFormat work line arguments)
  | "test" | "[" => some (test work line name arguments)
  | "exit" => some (leave work line arguments)
  | "return" => some (returns work line arguments)
  | "break" => some (leaveLoop work line false arguments)
  | "continue" => some (leaveLoop work line true arguments)
  | "cd" => some (changeDirectory work line arguments)
  | "pwd" => some (printDirectory work line arguments)
  | "export" => some (exports work line arguments)
  | "readonly" => some (protects work line arguments)
  | "local" => some (locals work line arguments)
  | "unset" => some (unsets work line arguments)
  | "set" => some (sets work line arguments)
  | "shift" => some (shifts work line arguments)
  | "read" => some (reads work line arguments)
  | "wait" => some (waits work line arguments)
  | "jobs" => some (listJobs work)
  | "kill" => some (kills work line arguments)
  | "trap" => some (traps work line arguments)
  | "exec" => some (executes work line arguments)
  | "eval" => some (if arguments.isEmpty then work.complete 0
      else turnTo work (" ".intercalate arguments) "eval" false)
  | "." => some (sources work line arguments)
  | "type" => some (describes work false arguments)
  | "command" => some (describesOne work line arguments)
  | "getopts" => some (readsOption work line arguments)
  | _ => none

end Supervision.Host.Builtin
