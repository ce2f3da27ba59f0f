import Supervision.Host.Call
import Supervision.Host.Conditions
import Supervision.Host.Format

/-!
# Utilities that print

Programs that say something about their words, the environment or the working directory, and the
one that answers conditions.
-/

namespace Supervision.Host

/-- A fault of a format, in the words of the program. -/
def formatComplaint : FormatFault → String
  | .notNumeric operand => escaped operand ++ ": expected a numeric value"
  | .partlyNumeric operand => escaped operand ++ ": value not completely converted"
  | .outOfRange operand => escaped operand ++ ": Numerical result out of range"
  | .unknownDirective text | .unfinishedDirective text =>
    text ++ ": invalid conversion specification"
  | .moreCharacters text =>
    "warning: " ++ text ++ ": character(s) following character constant have been ignored"
  | .moreOperands first =>
    "warning: ignoring excess arguments, starting with " ++ escaped first

def print (call : Call) : Outcome :=
  let arguments := if call.arguments.head? = some "--" then call.arguments.tail else call.arguments
  match arguments with
  | [] => call.misused "missing operand"
  | text :: operands =>
    let segments := format .printing text operands
    let writes := segments.map fun segment =>
      match segment with
      | .bytes content => (1, content)
      | .fault fault => call.complaint (formatComplaint fault)
    let isFine := (segmentFaults segments).all FormatFault.isWarning
    ⟨writes, call.files, call.terminal, if isFine then 0 else 1⟩

/-- What a program that echoes says of the words before the text: whether escapes are known, whether
a line end follows, and the text. -/
def echoWords (escapes newline : Bool) : List String → Bool × Bool × List String
  | [] => (escapes, newline, [])
  | word :: rest =>
    match word.toList with
    | '-' :: letter :: letters =>
      let all := letter :: letters
      if all.all fun letter => ['n', 'e', 'E'].contains letter then
        let last := (all.filter (· != 'n')).getLast?
        echoWords (last.elim escapes (· == 'e')) (newline && !all.contains 'n') rest
      else (escapes, newline, word :: rest)
    | _ => (escapes, newline, word :: rest)

def echoAloud (call : Call) : Outcome :=
  let (escapes, newline, words) := echoWords false true call.arguments
  let text := " ".intercalate words
  let (bytes, ended) := if escapes then unescapeText .echoing text else (Text.Utf8.encode text, false)
  call.prints (if newline && !ended then bytes ++ [0x0a] else bytes) 0

def printsLines (call : Call) (lines : List String) (status : Nat) : Outcome :=
  call.prints (Text.Utf8.encode (String.join (lines.map (· ++ "\n")))) status

def environmentText (environment : Environment) : String :=
  String.join (environment.entries.map fun (name, value) => name ++ "=" ++ value ++ "\n")

/-- The environment that words ask for, and the words of the program to be executed in it. -/
def environmentWords (environment : Environment) : List String → Environment × List String
  | [] => (environment, [])
  | "-u" :: name :: rest => environmentWords (environment.erase name) rest
  | word :: rest =>
    if word == "-i" || word == "-" then environmentWords .empty rest
    else if word == "--" then environmentWords environment rest
    else
      let chars := word.toList
      let name := chars.takeWhile (· != '=')
      if name.length < chars.length then
        environmentWords
          (environment.insert (String.ofList name) (String.ofList (chars.drop (name.length + 1)))) rest
      else (environment, word :: rest)

/-- The values of names in the environment, or all of it. -/
def printEnvironment (call : Call) : Outcome :=
  if call.arguments.isEmpty then call.prints (Text.Utf8.encode (environmentText call.environment)) 0
  else
    let values := call.arguments.filterMap call.environment.find?
    printsLines call values (if values.length = call.arguments.length then 0 else 1)

def printWorking (call : Call) : Outcome :=
  printsLines call ["/" ++ "/".intercalate call.files.working] 0

/-- What is wrong with a condition, in the words of the program. -/
def conditionFault (words : List String) : Conditions.Fault → String
  | .illegalNumber text => "invalid integer " ++ escaped text
  | .unexpected _ => "extra argument " ++ escaped (words.getLast?.getD "")
  | .missingArgument operator => "missing argument after " ++ escaped operator
  | .openParenthesis => escaped ")" ++ " expected"
  | .missingBracket => "missing " ++ escaped "]"

def answer (call : Call) : Outcome :=
  let around : Conditions.Surroundings := ⟨call.files, call.isTerminal⟩
  let answer :=
    if call.name == "[" then Conditions.holdsInBrackets around call.arguments
    else Conditions.holds around call.arguments
  match answer with
  | .ok holds => call.finish (if holds then 0 else 1)
  | .error fault => call.complain (conditionFault call.arguments fault) 2

/-- A path without the slashes it ends in, unless it is nothing else. -/
def withoutSlashes (path : String) : String :=
  let kept := (path.toList.reverse.dropWhile (· == '/')).reverse
  if kept.isEmpty && !path.isEmpty then "/" else String.ofList kept

/-- The last part of a path, without an ending that it does not consist of. -/
def printBaseName (call : Call) : Outcome :=
  let last (path : String) : List Char :=
    let chars := (withoutSlashes path).toList
    if chars = ['/'] then chars else (chars.reverse.takeWhile (· != '/')).reverse
  match call.arguments with
  | [] => call.misused "missing operand"
  | [path] => printsLines call [String.ofList (last path)] 0
  | [path, ending] =>
    let name := last path
    let ending := ending.toList
    let cut := ending.isSuffixOf name && ending != name
    printsLines call [String.ofList (if cut then name.take (name.length - ending.length) else name)] 0
  | _ :: _ :: extra :: _ => call.misused ("extra operand " ++ escaped extra)

def printDirectoryName (call : Call) : Outcome :=
  let above (path : String) : String :=
    let chars := (withoutSlashes path).toList.reverse
    let before := (chars.dropWhile (· != '/'))
    let kept := before.dropWhile (· == '/')
    if before.isEmpty then "."
    else if kept.isEmpty then "/" else String.ofList kept.reverse
  if call.arguments.isEmpty then call.misused "missing operand"
  else printsLines call (call.arguments.map above) 0

/-- The whole numbers from one to another by steps. -/
def printNumbers (call : Call) : Outcome :=
  let counted (first step last : Int) : Outcome :=
    if step = 0 then call.misused ("invalid Zero increment value: " ++ escaped "0")
    else
      let count := (Int.fdiv (last - first) step + 1).toNat
      let value (index : Nat) : String := toString (first + step * Int.ofNat index)
      printsLines call ((List.range count).map value) 0
  let number? (text : String) : Option Int := text.toInt?
  match call.arguments.find? fun text => (number? text).isNone with
  | some text => call.misused ("invalid floating point argument: " ++ escaped text)
  | none =>
    match call.arguments.filterMap number? with
    | [] => call.misused "missing operand"
    | [last] => counted 1 1 last
    | [first, last] => counted first 1 last
    | [first, step, last] => counted first step last
    | _ => call.misused ("extra operand " ++ escaped (call.arguments[3]?.getD ""))

end Supervision.Host
