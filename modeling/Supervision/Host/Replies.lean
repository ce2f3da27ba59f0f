import Supervision.Host.Interpreter

/-!
# Replies of the shell's own commands

How a command of the shell ends: it prints something, or it complains and either has a status or
gives up.  Here are also the numbers and the options that several of these commands read.
-/

namespace Supervision.Host.Builtin

/-- A complaint of one of the shell's commands. -/
def fault (work : Working) (line : Nat) (name message : String) (status : Nat) : Working :=
  (work.complainBy line name message).complete status

/-- A complaint that ends the command, and the shell if the command is a special one. -/
def abort (work : Working) (line : Nat) (name message : String) : Working :=
  (work.complainBy line name message).withControl .failing

/-- Writes text and succeeds, unless it cannot be written. -/
def prints (work : Working) (bytes : Bytes) (status : Nat) : Working :=
  let (written, work) := work.say 1 bytes
  work.complete (if written then status else 1)

def greatestNumber : Nat := 2147483647

/-- The number that a text gives, perhaps with a sign and blanks around it. -/
def number? (text : String) : Option Nat :=
  let isBlank (char : Char) : Bool := char == ' ' || ('\t' ≤ char && char ≤ '\x0d')
  let chars := text.toList.dropWhile isBlank
  let digits := match chars with
    | '+' :: rest => rest
    | _ => chars
  let rest := digits.dropWhile Char.isDigit
  match (String.ofList (digits.take (digits.length - rest.length))).toNat? with
  | some value => if rest.all isBlank && value ≤ greatestNumber then some value else none
  | none => none

def count? (arguments : List String) (default : Nat) : Except String Nat :=
  match arguments with
  | [] => .ok default
  | text :: _ =>
    match number? text with
    | some number => .ok number
    | none => .error text

/-- Reads the letters of the options before other words, of which only some are known. -/
def leadingLetters (known : List Char) : List Char → List String →
    Except String (List Char × List String)
  | found, [] => .ok (found, [])
  | found, word :: rest =>
    match word.toList with
    | ['-', '-'] => .ok (found, rest)
    | '-' :: letter :: letters =>
      match (letter :: letters).find? fun letter => !known.contains letter with
      | some letter => .error ("Illegal option -" ++ String.ofList [letter])
      | none => leadingLetters known (found ++ letter :: letters) rest
    | _ => .ok (found, word :: rest)

end Supervision.Host.Builtin
