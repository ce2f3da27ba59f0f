import Supervision.Shell.Name

/-!
# Lines read into variables

A line is cut at separators into one text for each of several variables.  Blank separators around a
field do not count, any other separator ends a field, and the last variable takes what is left,
separators between more fields included.
-/

namespace Supervision.Shell.Reading

/-- A character of a line, and whether a backslash took its meaning away. -/
abbrev Marked := Char × Bool

/-- The characters that a line was read as. -/
def unescaped (raw : Bool) : List Char → List Marked
  | [] => []
  | '\\' :: char :: rest =>
    if raw then ('\\', false) :: unescaped raw (char :: rest)
    else if char = '\n' then unescaped raw rest
    else (char, true) :: unescaped raw rest
  | char :: rest => if !raw && char = '\\' then [] else (char, false) :: unescaped raw rest

/-- The words of the command that reads: whether backslashes are kept, what is asked on a terminal,
and the names; only two options are known. -/
def words (raw : Bool) (prompt : String) :
    List String → Except String (Bool × String × List String)
  | [] => .ok (raw, prompt, [])
  | word :: rest =>
    match word.toList with
    | ['-', '-'] => .ok (raw, prompt, rest)
    | '-' :: letter :: letters =>
      let all := letter :: letters
      let plain := all.takeWhile (· == 'r')
      match all.drop plain.length with
      | [] => words true prompt rest
      | ['p'] =>
        match rest with
        | [] => .error "No arg for -p option"
        | prompt :: rest => words (raw || !plain.isEmpty) prompt rest
      | 'p' :: text => words (raw || !plain.isEmpty) (String.ofList text) rest
      | letter :: _ => .error ("Illegal option -" ++ String.ofList [letter])
    | _ => .ok (raw, prompt, word :: rest)

section

variable (separators : List Char)

def separates (mark : Marked) : Bool := !mark.2 && separators.contains mark.1

def isBlank (mark : Marked) : Bool :=
  separates separators mark && [' ', '\t', '\n'].contains mark.1

/-- What follows a field: blanks, and among them at most one separator of another kind. -/
def afterField (text : List Marked) : List Marked :=
  match text.dropWhile (isBlank separators) with
  | mark :: rest =>
    if separates separators mark then rest.dropWhile (isBlank separators) else mark :: rest
  | [] => []

def lastField (text : List Marked) : List Marked :=
  let field := text.takeWhile fun mark => !separates separators mark
  if (afterField separators (text.drop field.length)).isEmpty then field
  else (text.reverse.dropWhile (isBlank separators)).reverse

/-- The texts of variables, from the front of a line whose blanks are gone. -/
def fieldsFrom : List String → List Marked → List (String × String)
  | [], _ => []
  | [name], text => [(name, String.ofList ((lastField separators text).map (·.1)))]
  | name :: names, text =>
    let field := text.takeWhile fun mark => !separates separators mark
    (name, String.ofList (field.map (·.1)))
      :: fieldsFrom names (afterField separators (text.drop field.length))

/-- The texts of variables that a line is read into. -/
def fields (names : List String) (text : List Marked) : List (String × String) :=
  fieldsFrom separators names (text.dropWhile (isBlank separators))

end

/-- Does the line end after what has been read, newest byte first?  A backslash keeps it open. -/
def isComplete (raw : Bool) (taken : List UInt8) : Bool :=
  raw || (taken.takeWhile (· == 0x5c)).length % 2 == 0

end Supervision.Shell.Reading
