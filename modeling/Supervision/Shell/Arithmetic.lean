import Supervision.Environment
import Supervision.Shell.Name
import Supervision.Shell.Number

/-!
# Arithmetic of the shell

Expressions over whole numbers of sixty-four bits, which wrap, with the operators and precedences of
the usual notation.  Variables are read as numbers, unset and empty ones as zero.
-/

namespace Supervision.Shell.Arithmetic

inductive UnaryOperator
  | negate
  | keep
  | complement
  | invert
  deriving DecidableEq, Repr

inductive BinaryOperator
  | multiply
  | divide
  | modulo
  | add
  | subtract
  | shiftLeft
  | shiftRight
  | less
  | lessOrEqual
  | greater
  | greaterOrEqual
  | equal
  | notEqual
  | bitAnd
  | bitXor
  | bitOr
  | both
  | either
  deriving DecidableEq, Repr

inductive Expression
  | number (value : Int64)
  | variable (name : String)
  | unary (operator : UnaryOperator) (operand : Expression)
  | binary (operator : BinaryOperator) (first second : Expression)
  | choice (test yes no : Expression)
  | assign (name : String) (operator : Option BinaryOperator) (value : Expression)
  deriving Repr

/-- The operators between two operands, from the weakest level to the strongest.  A longer spelling
stands before its beginning. -/
def levels : List (List (String × BinaryOperator)) :=
  [[("||", .either)], [("&&", .both)], [("|", .bitOr)], [("^", .bitXor)], [("&", .bitAnd)],
  [("==", .equal), ("!=", .notEqual)],
  [("<=", .lessOrEqual), (">=", .greaterOrEqual), ("<", .less), (">", .greater)],
  [("<<", .shiftLeft), (">>", .shiftRight)], [("+", .add), ("-", .subtract)],
  [("*", .multiply), ("/", .divide), ("%", .modulo)]]

/-- All spellings of operators, so that the longest can be told. -/
def spellings : List String :=
  ["<<=", ">>=", "||", "&&", "==", "!=", "<=", ">=", "<<", ">>", "+=", "-=", "*=", "/=", "%=", "&=",
  "^=", "|=", "|", "^", "&", "<", ">", "+", "-", "*", "/", "%", "=", "?", ":", "!", "~", "(", ")"]

def assignments : List (String × Option BinaryOperator) :=
  [("=", none), ("+=", some .add), ("-=", some .subtract), ("*=", some .multiply),
  ("/=", some .divide), ("%=", some .modulo), ("<<=", some .shiftLeft), (">>=", some .shiftRight),
  ("&=", some .bitAnd), ("^=", some .bitXor), ("|=", some .bitOr)]

def skipBlanks (text : List Char) : List Char :=
  text.dropWhile fun char => [' ', '\t', '\n'].contains char

/-- The operator that a text begins with, and what follows it. -/
def operator? (text : List Char) : Option (String × List Char) :=
  let text := skipBlanks text
  (spellings.find? fun spelling => spelling.toList.isPrefixOf text).map fun spelling =>
    (spelling, text.drop spelling.length)

/-- Why an expression has no value: it cannot be read, a variable is no number, or one may not be
set. -/
inductive Fault
  | broken (reason : String)
  | illegalNumber (text : String)
  | readOnly (name : String)
  deriving DecidableEq, Repr

def Fault.message (fault : Fault) (text : String) : String :=
  match fault with
  | broken reason => "arithmetic expression: " ++ reason ++ ": \"" ++ text ++ "\""
  | illegalNumber value => "Illegal number: " ++ value
  | readOnly name => name ++ ": is read only"

/-- A number as a variable holds it; nothing but blanks is zero. -/
def number? (text : String) : Option Int64 :=
  let scanned := scanNumber text.toList
  if !scanned.rest.all isSpace || scanned.clamped != scanned.value then none
  else some (Int64.ofInt scanned.value)

abbrev Parsed := Except Fault (Expression × List Char)

mutual

/-- An expression with everything in it. -/
def expression : Nat → List Char → Parsed
  | 0, _ => .error (.broken "expecting primary")
  | fuel + 1, text => do
    let trimmed := skipBlanks text
    let name := trimmed.takeWhile isNameChar
    let after := trimmed.drop name.length
    match name with
    | first :: _ =>
      if isNameStart first then
        match operator? after with
        | some (spelling, rest) =>
          match assignments.lookup spelling with
          | some operator =>
            let (value, rest) ← expression fuel rest
            return (.assign (String.ofList name) operator value, rest)
          | none => pure ()
        | none => pure ()
    | [] => pure ()
    let (test, rest) ← level fuel levels text
    match operator? rest with
    | some ("?", rest) =>
      let (yes, rest) ← expression fuel rest
      match operator? rest with
      | some (":", rest) =>
        let (no, rest) ← expression fuel rest
        return (.choice test yes no, rest)
      | _ => .error (.broken "expecting ':'")
    | _ => return (test, rest)

/-- Operands joined by the operators of a level and those of stronger ones. -/
def level : Nat → List (List (String × BinaryOperator)) → List Char → Parsed
  | 0, _, _ => .error (.broken "expecting primary")
  | fuel + 1, [], text => unary fuel text
  | fuel + 1, operators :: stronger, text => do
    let (first, rest) ← level fuel stronger text
    chain fuel operators stronger first rest

/-- More operands of one level, from left to right. -/
def chain : Nat → List (String × BinaryOperator) → List (List (String × BinaryOperator)) →
    Expression → List Char → Parsed
  | 0, _, _, first, text => .ok (first, text)
  | fuel + 1, operators, stronger, first, text => do
    match operator? text with
    | some (spelling, rest) =>
      match operators.lookup spelling with
      | some operator =>
        let (second, rest) ← level fuel stronger rest
        chain fuel operators stronger (.binary operator first second) rest
      | none => return (first, text)
    | none => return (first, text)

/-- An operand with the operators before it. -/
def unary : Nat → List Char → Parsed
  | 0, _ => .error (.broken "expecting primary")
  | fuel + 1, text => do
    let text := skipBlanks text
    match text with
    | '-' :: rest =>
      let (operand, rest) ← unary fuel rest
      return (.unary .negate operand, rest)
    | '+' :: rest =>
      let (operand, rest) ← unary fuel rest
      return (.unary .keep operand, rest)
    | '!' :: rest =>
      let (operand, rest) ← unary fuel rest
      return (.unary .complement operand, rest)
    | '~' :: rest =>
      let (operand, rest) ← unary fuel rest
      return (.unary .invert operand, rest)
    | '(' :: rest =>
      let (inside, rest) ← expression fuel rest
      match skipBlanks rest with
      | ')' :: rest => return (inside, rest)
      | _ => .error (.broken "expecting ')'")
    | char :: _ =>
      let word := text.takeWhile isNameChar
      if char.isDigit then
        let scanned := scanNumber text
        return (.number (Int64.ofInt scanned.clamped), scanned.rest)
      else if isNameStart char then
        return (.variable (String.ofList word), text.drop word.length)
      else .error (.broken "expecting primary")
    | [] => .error (.broken "expecting primary")

end

def truth (holds : Bool) : Int64 := if holds then 1 else 0

/-- Applies an operator whose operands are both known. -/
def combine (operator : BinaryOperator) (first second : Int64) : Except Fault Int64 :=
  match operator with
  | .multiply => .ok (first * second)
  | .divide => if second = 0 then .error (.broken "division by zero") else .ok (first / second)
  | .modulo => if second = 0 then .error (.broken "division by zero") else .ok (first % second)
  | .add => .ok (first + second)
  | .subtract => .ok (first - second)
  | .shiftLeft => .ok (first <<< second)
  | .shiftRight => .ok (first >>> second)
  | .less => .ok (truth (first < second))
  | .lessOrEqual => .ok (truth (first ≤ second))
  | .greater => .ok (truth (second < first))
  | .greaterOrEqual => .ok (truth (second ≤ first))
  | .equal => .ok (truth (first = second))
  | .notEqual => .ok (truth (first ≠ second))
  | .bitAnd => .ok (first &&& second)
  | .bitXor => .ok (first ^^^ second)
  | .bitOr => .ok (first ||| second)
  | .both => .ok (truth (first ≠ 0 ∧ second ≠ 0))
  | .either => .ok (truth (first ≠ 0 ∨ second ≠ 0))

def variableValue (scope : Environment) (name : String) : Except Fault Int64 :=
  let text := (scope.find? name).getD ""
  match number? text with
  | some value => .ok value
  | none => .error (.illegalNumber text)

/-- The value of an expression, and the variables it leaves. -/
def Expression.eval (readOnly : List String) (scope : Environment) :
    Expression → Except Fault (Int64 × Environment)
  | .number value => .ok (value, scope)
  | .variable name => (variableValue scope name).map fun value => (value, scope)
  | .unary operator operand => do
    let (value, scope) ← operand.eval readOnly scope
    let result := match operator with
      | .negate => -value
      | .keep => value
      | .complement => truth (value = 0)
      | .invert => ~~~value
    return (result, scope)
  | .binary .both first second => do
    let (value, scope) ← first.eval readOnly scope
    if value = 0 then return (0, scope)
    let (value, scope) ← second.eval readOnly scope
    return (truth (value ≠ 0), scope)
  | .binary .either first second => do
    let (value, scope) ← first.eval readOnly scope
    if value ≠ 0 then return (1, scope)
    let (value, scope) ← second.eval readOnly scope
    return (truth (value ≠ 0), scope)
  | .binary operator first second => do
    let (left, scope) ← first.eval readOnly scope
    let (right, scope) ← second.eval readOnly scope
    return (← combine operator left right, scope)
  | .choice test yes no => do
    let (value, scope) ← test.eval readOnly scope
    if value ≠ 0 then yes.eval readOnly scope else no.eval readOnly scope
  | .assign name operator value => do
    let (value, scope) ← value.eval readOnly scope
    let result ← match operator with
      | none => pure value
      | some operator => do combine operator (← variableValue scope name) value
    if readOnly.contains name then throw (.readOnly name)
    return (result, scope.insert name (toString result.toInt))

def evaluate (readOnly : List String) (scope : Environment) (text : String) :
    Except String (String × Environment) :=
  let outcome : Except Fault (Int64 × Environment) := do
    let chars := text.toList
    let (parsed, rest) ← expression (16 * (chars.length + 2)) chars
    if !(skipBlanks rest).isEmpty then throw (.broken "expecting EOF")
    parsed.eval readOnly scope
  match outcome with
  | .ok (value, scope) => .ok (toString value.toInt, scope)
  | .error fault => .error (fault.message text)

end Supervision.Shell.Arithmetic
