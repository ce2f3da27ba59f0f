/-!
# Words of a command

A command is a text of words with shell quoting.  `split` reads the words and `quote` writes one
so that it reads back as itself.  Blanks are space, tab and line feed only, and a word that starts
with `#` begins a comment up to the end of the line.
-/

namespace Supervision.Command

/-- Where in the text the reader stands. -/
inductive Position
  | between
  | escapeBetween
  | bare
  | escapeInBare
  | single
  | double
  | escapeInDouble
  | comment
  deriving DecidableEq, Repr

/-- What has been read: the position, the word under way and the words before it, both with the
newest first. -/
structure Scan where
  position : Position
  word : List Char
  words : List String
  deriving DecidableEq, Repr

def isSeparator (char : Char) : Bool := char == ' ' || char == '\t' || char == '\n'

def apostrophe : Char := Char.ofNat 0x27

namespace Scan

def start : Scan := ⟨.between, [], []⟩

/-- Moves on without a character. -/
def go (scan : Scan) (position : Position) : Scan := { scan with position }

def push (scan : Scan) (char : Char) (position : Position) : Scan :=
  { scan with position, word := char :: scan.word }

def close (scan : Scan) : Scan :=
  ⟨.between, [], String.ofList scan.word.reverse :: scan.words⟩

/-- What a backslash protects inside double quotes. -/
def isProtected (char : Char) : Bool :=
  char == '$' || char.toNat == 0x60 || char == '"' || char == '\\'

def step (scan : Scan) (char : Char) : Scan :=
  match scan.position with
  | .between =>
    if char == apostrophe then scan.go .single
    else if char == '"' then scan.go .double
    else if char == '\\' then scan.go .escapeBetween
    else if isSeparator char then scan
    else if char == '#' then scan.go .comment
    else scan.push char .bare
  | .escapeBetween => if char == '\n' then scan.go .between else scan.push char .bare
  | .bare =>
    if char == apostrophe then scan.go .single
    else if char == '"' then scan.go .double
    else if char == '\\' then scan.go .escapeInBare
    else if isSeparator char then scan.close
    else scan.push char .bare
  | .escapeInBare => if char == '\n' then scan.go .bare else scan.push char .bare
  | .single => if char == apostrophe then scan.go .bare else scan.push char .single
  | .double =>
    if char == '"' then scan.go .bare
    else if char == '\\' then scan.go .escapeInDouble
    else scan.push char .double
  | .escapeInDouble =>
    if char == '\n' then scan.go .double
    else if isProtected char then scan.push char .double
    else (scan.push '\\' .double).push char .double
  | .comment => if char == '\n' then scan.go .between else scan

/-- The words at the end of the text; none if a quote is still open. -/
def finish (scan : Scan) : Option (List String) :=
  match scan.position with
  | .between | .comment => some scan.words.reverse
  | .bare => some scan.close.words.reverse
  | .escapeBetween | .escapeInBare => some (scan.push '\\' .bare).close.words.reverse
  | .single | .double | .escapeInDouble => none

end Scan

/-- The words of a command; none if a quote is not closed. -/
def split (text : String) : Option (List String) :=
  (text.toList.foldl Scan.step Scan.start).finish

/-- The characters that mean something to a shell. -/
def specials : List Char :=
  [' ', '\t', '\n', apostrophe, '"', '\\', '|', '&', ';', '<', '>', '(', ')', '$', Char.ofNat 0x60,
    '*', '?', '[', '#', '~', '=', '%']

/-- One character inside apostrophes; the apostrophe itself is put between two quotations. -/
def quoteChar (char : Char) : List Char :=
  if char == apostrophe then [apostrophe, '\\', apostrophe, apostrophe] else [char]

/-- A word that reads back as itself, in apostrophes if it is empty or holds a special. -/
def quote (word : String) : String :=
  if word.toList.isEmpty || word.toList.any specials.contains then
    String.ofList (apostrophe :: word.toList.flatMap quoteChar ++ [apostrophe])
  else word

def join (words : List String) : String := " ".intercalate (words.map quote)

end Supervision.Command
