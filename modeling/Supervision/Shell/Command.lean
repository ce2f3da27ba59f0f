/-!
# Commands of the shell

What a command interpreter reads: words made of pieces that are still to be expanded, redirections,
and commands built from them.  The text inside a command substitution stays text until it is run.
-/

namespace Supervision.Shell

/-- How a parameter is used where it is expanded.  An unknown use is a fault once it is expanded. -/
inductive ParameterUse
  | unknown
  | plain
  | length
  | otherwise (whenEmpty : Bool)
  | assign (whenEmpty : Bool)
  | require (whenEmpty : Bool)
  | instead (whenEmpty : Bool)
  | withoutFront (longest : Bool)
  | withoutBack (longest : Bool)
  deriving DecidableEq, Repr

/-- A piece of a word.  Quoted pieces are neither split nor matched against file names. -/
inductive Piece
  | text (content : String) (quoted : Bool)
  | parameter (name : String) (use : ParameterUse) (operand : List Piece) (quoted : Bool)
  | substitution (script : String) (quoted : Bool)
  | captured (content : String) (quoted : Bool)
  | arithmetic (expression : List Piece) (quoted : Bool)
  deriving Repr, Inhabited

/-- A word is expanded piece by piece. -/
abbrev Word := List Piece

/-- What a redirection does to its descriptor: it opens a file, perhaps over what is there already,
takes over another descriptor, or has a document to be read. -/
inductive Direction
  | input
  | output
  | replace
  | append
  | both
  | duplicate
  | document
  deriving DecidableEq, Repr

/-- A descriptor and what it is connected to. -/
structure Redirection where
  descriptor : Nat
  direction : Direction
  target : Word
  deriving Repr

inductive Command
  | nothing
  | simple (assignments : List (String × Word)) (words : List Word)
      (redirections : List Redirection) (line : Nat)
  | pipeline (stages : List Command)
  | negated (body : Command)
  | sequence (first second : Command)
  | andThen (first second : Command)
  | orElse (first second : Command)
  | background (body : Command)
  | subshell (body : Command)
  | redirected (body : Command) (redirections : List Redirection) (line : Nat)
  | conditional (test yes no : Command)
  | repeated (untilTrue : Bool) (test body : Command)
  | each (name : String) (words : Option (List Word)) (body : Command)
  | choice (subject : Word) (clauses : List (List Word × Command))
  | define (name : String) (body : Command)
  deriving Repr, Inhabited

end Supervision.Shell
