import Supervision.Files.Tree
import Supervision.Shell.Number

/-!
# Conditions

The expressions of the `test` command: about files and descriptors, about texts, and about numbers,
joined by `!`, `-a`, `-o` and parentheses.
-/

namespace Supervision.Host.Conditions

/-- What conditions ask about. -/
structure Surroundings where
  files : Files.Tree
  isTerminal : Nat → Bool

inductive Fault
  | illegalNumber (text : String)
  | unexpected (text : String)
  | missingArgument (operator : String)
  | openParenthesis
  | missingBracket
  deriving DecidableEq, Repr

def Fault.message : Fault → String
  | illegalNumber text => "Illegal number: " ++ text
  | unexpected text => (if text.isEmpty then "" else text ++ ": ") ++ "unexpected operator"
  | missingArgument operator => operator ++ ": argument expected"
  | openParenthesis => "closing paren expected"
  | missingBracket => "missing ]"

def unaryOperators : List String :=
  ["-r", "-w", "-x", "-e", "-f", "-d", "-c", "-b", "-p", "-u", "-g", "-k", "-s", "-t", "-z", "-n",
  "-h", "-L", "-O", "-G", "-S"]

def numericOperators : List String := ["-eq", "-ne", "-gt", "-ge", "-lt", "-le"]

def binaryOperators : List String := ["=", "!=", "<", ">", "-nt", "-ot", "-ef"] ++ numericOperators

/-- What a word is where an expression goes on. -/
inductive Role
  | unary
  | binary
  | not
  | both
  | either
  | opening
  | closing
  | operand
  | nothing
  deriving DecidableEq, Repr

/-- What the first of some words is.  An operator that nothing follows is an operand, and so is a
unary one before two words of which the first is a binary one. -/
def Role.of : List String → Role
  | [] => nothing
  | word :: rest =>
    if unaryOperators.contains word then
      match rest with
      | [] => operand
      | [_] => unary
      | next :: _ => if binaryOperators.contains next then operand else unary
    else if binaryOperators.contains word then binary
    else match word with
    | "!" => not
    | "-a" => both
    | "-o" => either
    | "(" => if rest.isEmpty then operand else opening
    | ")" => closing
    | _ => operand

def number (text : String) : Except Fault Int :=
  let chars := text.toList.dropWhile Shell.isSpace
  let (negative, unsigned) := match chars with
    | '-' :: rest => (true, rest)
    | '+' :: rest => (false, rest)
    | _ => (false, chars)
  let digits := unsigned.takeWhile Char.isDigit
  match (String.ofList digits).toNat? with
  | some size =>
    let value : Int := if negative then -(size : Int) else size
    if (unsigned.drop digits.length).all Shell.isSpace && -0x8000000000000000 ≤ value && value < 0x8000000000000000 then
      .ok value
    else .error (.illegalNumber text)
  | none => .error (.illegalNumber text)

/-- Does a node answer a question about files? -/
def isNode (operator : String) : Files.Node → Bool
  | .directory => ["-d", "-e", "-r", "-w", "-x", "-s"].contains operator
  | .file content executable =>
    ["-f", "-e", "-r", "-w"].contains operator || (operator == "-x" && executable)
      || (operator == "-s" && !content.isEmpty)
  | .program _ => ["-f", "-e", "-r", "-w", "-x", "-s"].contains operator
  | .socket _ => ["-S", "-e", "-r", "-w", "-x"].contains operator
  | .nullDevice => ["-c", "-e", "-r", "-w"].contains operator

def unary (around : Surroundings) (operator operand : String) : Except Fault Bool :=
  if operator == "-n" then .ok !operand.isEmpty
  else if operator == "-z" then .ok operand.isEmpty
  else if operator == "-t" then
    (number operand).map fun descriptor =>
      decide (0 ≤ descriptor) && around.isTerminal descriptor.toNat
  else if operator == "-O" || operator == "-G" then .ok (around.files.exists operand)
  else match around.files.find operand with
  | .ok node => .ok (isNode operator node)
  | .error _ => .ok false

def binary (around : Surroundings) (operator first second : String) : Except Fault Bool :=
  if numericOperators.contains operator then do
    let first ← number first
    let second ← number second
    match operator with
    | "-eq" => return decide (first = second)
    | "-ne" => return decide (first ≠ second)
    | "-gt" => return decide (second < first)
    | "-ge" => return decide (second ≤ first)
    | "-lt" => return decide (first < second)
    | _ => return decide (first ≤ second)
  else match operator with
  | "=" => .ok (first == second)
  | "!=" => .ok (first != second)
  | "<" => .ok (decide (first < second))
  | ">" => .ok (decide (second < first))
  | "-ef" =>
    match around.files.resolve first, around.files.resolve second with
    | .ok name, .ok other => .ok (name == other && around.files.exists first)
    | _, _ => .ok false
  | _ => .ok false

/-- An answer, and the words from the last one that it was read from. -/
abbrev Outcome := Except Fault (Bool × List String)

mutual

/-- Alternatives, from words of which the first has a role. -/
def either (around : Surroundings) : Nat → Role → List String → Outcome
  | 0, _, words => .ok (false, words)
  | fuel + 1, role, words => do
    let (first, words) ← both around fuel role words
    if Role.of words.tail != .either then return (first, words)
    let words := words.drop 2
    let (second, words) ← either around fuel (.of words) words
    return (first || second, words)

/-- Requirements that must hold together. -/
def both (around : Surroundings) : Nat → Role → List String → Outcome
  | 0, _, words => .ok (false, words)
  | fuel + 1, role, words => do
    let (first, words) ← denied around fuel role words
    if Role.of words.tail != .both then return (first, words)
    let words := words.drop 2
    let (second, words) ← both around fuel (.of words) words
    return (first && second, words)

/-- One question, perhaps denied. -/
def denied (around : Surroundings) : Nat → Role → List String → Outcome
  | 0, _, words => .ok (false, words)
  | fuel + 1, role, words => do
    if role != .not then primary around fuel role words
    else
      let next := Role.of words.tail
      let (holds, words) ← denied around fuel next (if next = .nothing then words else words.tail)
      return (!holds, words)

def primary (around : Surroundings) : Nat → Role → List String → Outcome
  | 0, _, words => .ok (false, words)
  | fuel + 1, role, words => do
    match role, words with
    | .nothing, _ | _, [] => return (false, words)
    | .opening, _ :: words =>
      if Role.of words = .closing then return (false, words)
      let (holds, words) ← either around fuel (.of words) words
      if Role.of words.tail != .closing then throw .openParenthesis
      return (holds, words.tail)
    | .unary, operator :: words =>
      match words with
      | [] => throw (.missingArgument operator)
      | operand :: _ => return (← unary around operator operand, words)
    | _, first :: rest =>
      match Role.of rest, rest with
      | .binary, operator :: more =>
        match more with
        | [] => throw (.missingArgument operator)
        | second :: _ => return (← binary around operator first second, more)
      | _, _ => return (!first.isEmpty, words)

end

/-- Answers the words of an expression read as a whole. -/
def answer (around : Surroundings) (role : Role) (words : List String) : Except Fault Bool := do
  let (holds, words) ← either around (4 * words.length + 8) role words
  match words with
  | last :: _ :: _ => throw (.unexpected last)
  | _ => return holds

/-- Answers an expression.  No expression at all does not hold, three words of which the second is a
binary operator are a comparison, and otherwise three or four words may be denied or stand between
parentheses as a whole. -/
def holds (around : Surroundings) (words : List String) : Except Fault Bool :=
  let count := words.length
  let inner := (words.drop 1).dropLast
  match words with
  | [] => .ok false
  | first :: rest =>
    if count = 3 && binaryOperators.contains (rest.head?.getD "") then
      answer around .operand words
    else if (count = 3 || count = 4) && first == "(" && words.getLast? = some ")" then
      answer around (.of inner) inner
    else if (count = 3 || count = 4) && first == "!" then (holds around rest).map (!·)
    else answer around (.of words) words

def holdsInBrackets (around : Surroundings) (words : List String) : Except Fault Bool :=
  if words.getLast? = some "]" then holds around words.dropLast else .error .missingBracket

end Supervision.Host.Conditions
