import Supervision.Shell.Command
import Supervision.Shell.Name
import Supervision.Shell.Quoted

/-!
# Tokens of the shell

A script is cut into words, operators and line ends.  Quotes, parameters and substitutions belong
to the word they stand in, so a word comes out as the list of its pieces.
-/

namespace Supervision.Shell

inductive Fault
  | badLoopVariable
  | badFunctionName
  | missingParentheses
  | unterminatedQuote
  | unterminatedSubstitution
  | missingBrace
  | unexpected (token expected : String)
  deriving DecidableEq, Repr

def Fault.message : Fault → String
  | badLoopVariable => "Syntax error: Bad for loop variable"
  | badFunctionName => "Syntax error: Bad function name"
  | missingParentheses => "Syntax error: Missing '))'"
  | unterminatedQuote => "Syntax error: Unterminated quoted string"
  | unterminatedSubstitution => "Syntax error: EOF in backquote substitution"
  | missingBrace => "Syntax error: Missing '\x7d'"
  | unexpected token expected =>
    "Syntax error: " ++ token ++ " unexpected"
      ++ (if expected.isEmpty then "" else " (expecting " ++ expected ++ ")")

inductive Token
  | word (pieces : Word)
  | descriptor (number : Nat)
  | operator (text : String)
  | newline
  | finished
  deriving Repr, Inhabited

/-- What is left of a script, the number of the line it goes on in, and how many lines behind its
end have been taken out as documents. -/
structure Position where
  rest : List Char
  line : Nat
  taken : Nat
  deriving Repr, Inhabited

def lineBreak : Char := '\n'

/-- How many characters lie between a position and a later one. -/
def Position.distance (before after : Position) : Nat :=
  let lineLength (rest : List Char) : Nat := (rest.takeWhile (· != lineBreak)).length
  if after.line = before.line then lineLength before.rest - lineLength after.rest
  else before.rest.length - after.rest.length

/-- A position in a script, the next token with the position after it if it has been looked at, the
aliases, and those that have been put in, each with the length of what followed it. -/
structure Source extends Position where
  ahead : Option (Token × Position)
  aliases : List (String × String)
  used : List (String × Nat)
  deriving Repr, Inhabited

/-- A text from which nothing has been taken. -/
def Source.ofText (text : List Char) (line : Nat) : Source := ⟨⟨text, line, 0⟩, none, [], []⟩

/-- The source after a character. -/
def Source.after (source : Source) (char : Char) (rest : List Char) : Source :=
  if char = '\n' then { source with rest, line := source.line + 1 + source.taken, taken := 0 }
  else { source with rest }

abbrev Scanner := EStateM Fault Source

namespace Scanner

def peekChar : Scanner (Option Char) := do return (← get).rest.head?

/-- Takes one character and counts the lines. -/
def skip : Scanner Unit := do
  let source ← get
  match source.rest with
  | [] => pure ()
  | char :: rest => set (source.after char rest)

def takeChars (accept : Char → Bool) : Scanner (List Char) := do
  let source ← get
  let taken := source.rest.takeWhile accept
  let source := taken.foldl (fun source char => source.after char source.rest) source
  set { source with rest := source.rest.dropWhile accept }
  pure taken

end Scanner

def isSpecialParameter (char : Char) : Bool := ['?', '$', '#', '@', '*', '!', '-'].contains char

def backquote : Char := Char.ofNat 0x60

/-- The characters that end a bare word. -/
def endsWord (char : Char) : Bool :=
  [' ', '\t', '\n', '|', '&', ';', '<', '>', '(', ')'].contains char

/-- Pieces read so far, newest first, with the bare or quoted text under way. -/
structure Draft where
  pieces : List Piece
  text : List Char
  quoted : Bool

namespace Draft

def empty : Draft := ⟨[], [], false⟩

def flush (draft : Draft) : Draft :=
  if draft.text.isEmpty then draft
  else
    { draft with
      pieces := .text (String.ofList draft.text.reverse) draft.quoted :: draft.pieces
      text := [] }

def addChar (draft : Draft) (char : Char) (quoted : Bool) : Draft :=
  let draft := if draft.quoted = quoted then draft else draft.flush
  { draft with text := char :: draft.text, quoted }

def addPiece (draft : Draft) (piece : Piece) : Draft :=
  let draft := draft.flush
  { draft with pieces := piece :: draft.pieces }

def word (draft : Draft) : Word := draft.flush.pieces.reverse

end Draft

/-- Where a piece stands: in the open, between double quotes, in braces, in an expression or in a
document. -/
inductive Place
  | bare
  | quotes
  | braces (quoted : Bool)
  | expression
  | document
  deriving DecidableEq, Repr

namespace Place

def isQuoted : Place → Bool
  | bare | braces false => false
  | _ => true

/-- Does the place end before a character? -/
def endsAt : Place → Char → Bool
  | bare, char => endsWord char
  | quotes, char => char == '"'
  | braces _, char => char == '\x7d'
  | expression, _ | document, _ => false

/-- The fault of a script that ends in the place, if it must not. -/
def fault? : Place → Option Fault
  | bare | expression | document => none
  | quotes | braces true => some .unterminatedQuote
  | braces false => some .missingBrace

/-- The characters that a backslash takes the meaning from. -/
def escapes : Place → Char → Bool
  | bare, _ | braces false, _ => true
  | quotes, char | expression, char => ['$', backquote, '"', '\\'].contains char
  | braces true, char => ['$', backquote, '"', '\\', '\x7d'].contains char
  | document, char => ['$', backquote, '\\'].contains char

end Place

namespace Scanner

/-- The text between backquotes.  A backslash is dropped before a dollar, a backquote, a backslash
and, between double quotes, a double quote. -/
def backquoted (quoted : Bool) : Nat → List Char → Scanner String
  | 0, _ => throw .unterminatedSubstitution
  | fuel + 1, taken => do
    match ← peekChar with
    | none => throw .unterminatedSubstitution
    | some char =>
      skip
      if char = backquote then pure (String.ofList taken.reverse)
      else if char = '\\' then
        match ← peekChar with
        | none => throw .unterminatedSubstitution
        | some next =>
          skip
          if next = '$' || next = backquote || next = '\\' || (quoted && next = '"') then
            backquoted quoted fuel (next :: taken)
          else backquoted quoted fuel (next :: char :: taken)
      else backquoted quoted fuel (char :: taken)

/-- The text up to the two parentheses that close an expression, which are taken as well; `depth` is
how many parentheses are open in it. -/
def expressionText : Nat → Nat → List Char → Scanner String
  | 0, _, _ => throw .missingParentheses
  | fuel + 1, depth, taken => do
    match (← get).rest with
    | [] => throw .missingParentheses
    | '\\' :: next :: _ =>
      skip
      skip
      expressionText fuel depth (next :: '\\' :: taken)
    | char :: rest =>
      skip
      if char = ')' && depth = 0 && rest.head? == some ')' then
        skip
        pure (String.ofList taken.reverse)
      else
        let depth := if char = '(' then depth + 1 else if char = ')' then depth - 1 else depth
        expressionText fuel depth (char :: taken)

/-- What follows the name in braces, up to the word that goes with it. -/
def parameterUse : Scanner ParameterUse := do
  match (← get).rest with
  | '%' :: '%' :: _ => do skip; skip; pure (.withoutBack true)
  | '%' :: _ => do skip; pure (.withoutBack false)
  | '#' :: '#' :: _ => do skip; skip; pure (.withoutFront true)
  | '#' :: _ => do skip; pure (.withoutFront false)
  | '\x7d' :: _ => pure .plain
  | first :: rest =>
    let whenEmpty := first = ':'
    if whenEmpty then skip
    match if whenEmpty then rest.head? else some first with
    | some '-' => do skip; pure (.otherwise whenEmpty)
    | some '=' => do skip; pure (.assign whenEmpty)
    | some '?' => do skip; pure (.require whenEmpty)
    | some '+' => do skip; pure (.instead whenEmpty)
    | some '\x7d' => do skip; pure .plain
    | _ => pure .unknown
  | [] => pure .unknown

/-- The name of a parameter in braces: a name, digits or one special character. -/
def parameterName? : Scanner (Option String) := do
  match ← peekChar with
  | none => return none
  | some char =>
    if isNameStart char then return some (String.ofList (← takeChars isNameChar))
    else if char.isDigit then return some (String.ofList (← takeChars Char.isDigit))
    else if isSpecialParameter char then
      skip
      return some (String.ofList [char])
    else return none

/-- The name of a parameter in braces and how it is used.  A number sign in front asks for the
length, unless it is the parameter itself. -/
def parameterHead : Scanner (String × ParameterUse) := do
  let plain : Scanner (String × ParameterUse) := do
    match ← parameterName? with
    | some name => return (name, ← parameterUse)
    | none => return ("", .unknown)
  match (← get).rest with
  | '#' :: next :: after =>
    if isNameChar next then
      skip
      let name ← parameterName?
      return (name.getD "", if (← peekChar) == some '\x7d' then .length else .unknown)
    else if next != '\x7d' && after.head? == some '\x7d' then
      skip
      skip
      return (String.ofList [next], .length)
    else plain
  | _ => plain

/-- The words that mean something of their own where a command may begin. -/
def keywords : List String :=
  ["!", "\x7b", "\x7d", "case", "do", "done", "elif", "else", "esac", "fi", "for", "if", "in", "then",
  "until", "while"]

/-- A word that holds nothing but bare text. -/
def bareText? : Word → Option String
  | [.text content false] => some content
  | _ => none

/-- A token as a message names it. -/
def tokenName : Token → String
  | .word word =>
    match bareText? word with
    | some text => if keywords.contains text then "\"" ++ text ++ "\"" else "word"
    | none => "word"
  | .descriptor _ => "redirection"
  | .operator text =>
    if text.toList.head? == some '<' || text.toList.head? == some '>' then "redirection"
    else "\"" ++ text ++ "\""
  | .newline => "newline"
  | .finished => "end of file"

def unexpected (found : Token) (expected : String) : Fault :=
  .unexpected (tokenName found) (if expected.isEmpty then "" else "\"" ++ expected ++ "\"")

section

-- What reads the commands of a substitution, up to the token that ends them.
variable (commands : Scanner Unit)

/-- The text of the commands that come next, and the token that ends them, which is taken.  Documents
that were taken out of the lines behind them are put back. -/
def substitutionText : Scanner (String × Token) := do
  let before ← get
  set { before with aliases := [] }
  commands
  let after ← get
  let (found, final) := after.ahead.getD (.finished, after.toPosition)
  let taken := if final.line = before.line then before.taken else final.taken
  let rest := before.rest.drop (before.distance final)
  set { before with rest, line := final.line, taken }
  pure (String.ofList (before.rest.take (before.distance after.toPosition)), found)

mutual

/-- The pieces of a word up to its end, which depends on where they stand. -/
def pieces (place : Place) : Nat → Draft → Scanner Word
  | 0, draft => pure draft.word
  | fuel + 1, draft => do
    match ← peekChar with
    | none =>
      match place.fault? with
      | some fault => throw fault
      | none => pure draft.word
    | some char =>
      if place.endsAt char then
        if place != .bare then skip
        pure draft.word
      else
        skip
        pieces place fuel (← piece place fuel char draft)

/-- Takes what a character begins. -/
def piece (place : Place) : Nat → Char → Draft → Scanner Draft
  | 0, _, draft => pure draft
  | fuel + 1, char, draft => do
    if char = '\\' then
      match ← peekChar with
      | none => pure (draft.addChar char true)
      | some next =>
        if next = lineBreak then
          skip
          pure draft
        else if place.escapes next then
          skip
          pure (draft.addChar next true)
        else pure (draft.addChar char true)
    else if char = singleQuote && !place.isQuoted then
      let text ← takeChars (· != singleQuote)
      if (← peekChar).isNone then throw .unterminatedQuote
      skip
      pure (draft.addPiece (.text (String.ofList text) true))
    else if char = '"' && place != .expression && place != .document then
      let quoted ← pieces .quotes fuel .empty
      pure ((Piece.text "" true :: quoted).foldl Draft.addPiece draft)
    else if char = backquote then
      let line := (← get).line
      let text ← backquoted place.isQuoted fuel []
      let after ← get
      set (Source.ofText text.toList line)
      let (script, _) ← substitutionText commands
      set after
      pure (draft.addPiece (.substitution script place.isQuoted))
    else if char = '$' then dollar place fuel draft
    else pure (draft.addChar char place.isQuoted)

/-- Takes what a dollar begins. -/
def dollar (place : Place) : Nat → Draft → Scanner Draft
  | 0, draft => pure draft
  | fuel + 1, draft => do
    let quoted := place.isQuoted
    match ← peekChar with
    | some '(' =>
      skip
      if (← peekChar) == some '(' then
        skip
        let line := (← get).line
        let text ← expressionText fuel 0 []
        let after ← get
        set (Source.ofText text.toList line)
        let expression ← pieces .expression fuel .empty
        set after
        pure (draft.addPiece (.arithmetic expression quoted))
      else
        let (script, found) ← substitutionText commands
        if !(found matches .operator ")") then throw (unexpected found ")")
        pure (draft.addPiece (.substitution script quoted))
    | some '\x7b' =>
      skip
      let (name, use) ← parameterHead
      let isPattern := use matches .withoutFront _ | .withoutBack _
      let operand ← pieces (.braces (quoted && !isPattern)) fuel .empty
      pure (draft.addPiece (.parameter name use operand quoted))
    | some next =>
      if isNameStart next then
        let name ← takeChars isNameChar
        pure (draft.addPiece (.parameter (String.ofList name) .plain [] quoted))
      else if next.isDigit || isSpecialParameter next then
        skip
        pure (draft.addPiece (.parameter (String.ofList [next]) .plain [] quoted))
      else pure (draft.addChar '$' quoted)
    | none => pure (draft.addChar '$' quoted)

end

/-- The operators that begin with a character, longest first. -/
def operatorsFrom : Char → List String
  | '|' => ["||", "|"]
  | '&' => ["&&", "&"]
  | ';' => [";;", ";"]
  | '<' => ["<<-", "<<", "<&", "<>", "<"]
  | '>' => [">>", ">&", ">|", ">"]
  | '(' => ["("]
  | ')' => [")"]
  | _ => []

/-- Skips blanks, escaped line ends and comments. -/
def skipBlanks : Nat → Scanner Unit
  | 0 => pure ()
  | fuel + 1 => do
    match (← get).rest with
    | ' ' :: _ | '\t' :: _ =>
      skip
      skipBlanks fuel
    | '\\' :: '\n' :: _ =>
      skip
      skip
      skipBlanks fuel
    | '#' :: _ =>
      let _ ← takeChars (· != lineBreak)
      skipBlanks fuel
    | _ => pure ()

/-- Reads a token.  Digits right before a redirection name its descriptor. -/
def readToken : Scanner Token := do
  let fuel := 2 * (← get).rest.length + 4
  skipBlanks fuel
  match ← peekChar with
  | none => pure .finished
  | some char =>
    if char = lineBreak then
      skip
      pure .newline
    else
      let rest := (← get).rest
      match (operatorsFrom char).find? fun text => text.toList.isPrefixOf rest with
      | some text =>
        for _ in text.toList do skip
        pure (.operator text)
      | none =>
        let word ← pieces commands .bare fuel .empty
        let next ← peekChar
        match bareText? word with
        | some content =>
          if (next == some '<' || next == some '>') && content.toList.all Char.isDigit then
            pure (.descriptor (content.toNat?.getD 0))
          else pure (.word word)
        | none => pure (.word word)

def peek : Scanner Token := do
  let before ← get
  match before.ahead with
  | some (found, _) => pure found
  | none =>
    let found ← readToken commands
    let after ← get
    set { before with ahead := some (found, after.toPosition) }
    pure found

def token : Scanner Token := do
  let found ← peek commands
  let source ← get
  match source.ahead with
  | some (_, after) =>
    set { source with toPosition := after, ahead := none }
    pure found
  | none => pure found

end

end Scanner

end Supervision.Shell
