import Supervision.Shell.Token

/-!
# Scripts of the shell

A script is read one complete command line at a time, and each line is run before the next is read.
So a fault of a later line does not keep the earlier ones from running.
-/

namespace Supervision.Shell

/-- Is a command one of those whose redirections and assignments stay, and whose faults end the
shell? -/
def isSpecialCommand (name : String) : Bool :=
  [":", ".", "break", "continue", "eval", "exec", "exit", "export", "local", "readonly", "return",
    "set", "shift", "times", "trap", "unset"].contains name

namespace Scanner

/-- The words that end a list of commands. -/
def closers : List String := ["\x7d", "do", "done", "elif", "else", "esac", "fi", "then"]

def isWord (token : Token) (text : String) : Bool :=
  match token with
  | .word word => bareText? word == some text
  | _ => false

def isOperator (token : Token) (text : String) : Bool :=
  match token with
  | .operator found => found == text
  | _ => false

/-- A token that comes where only words count, so that keywords are words too. -/
def unexpectedPlain (found : Token) (expected : String) : Fault :=
  match found with
  | .word _ => .unexpected "word" ("\"" ++ expected ++ "\"")
  | _ => unexpected found expected

/-- Does a token end a list of commands? -/
def endsList : Token → Bool
  | .word word =>
    match bareText? word with
    | some text => closers.contains text
    | none => false
  | .operator text => text == ")" || text == ";;"
  | .finished => true
  | _ => false

/-- An operator that redirects, with the descriptor it redirects by itself. -/
def direction? : String → Option (Nat × Direction)
  | "<" => some (0, .input)
  | "<<" | "<<-" => some (0, .document)
  | ">" => some (1, .output)
  | ">|" => some (1, .replace)
  | ">>" => some (1, .append)
  | "<>" => some (0, .both)
  | "<&" => some (0, .duplicate)
  | ">&" => some (1, .duplicate)
  | _ => none

/-- The text of a document up to the line that ends it, what follows that line, and how many lines
were taken; `fuel` bounds their number. -/
def documentText (mark : List Char) (dropsTabs : Bool) :
    Nat → List Char → List Char × List Char × Nat
  | 0, rest => ([], rest, 0)
  | _ + 1, [] => ([], [], 0)
  | fuel + 1, rest =>
    let line := rest.takeWhile (· != lineBreak)
    let after := rest.drop line.length
    let shown := if dropsTabs then line.dropWhile (· == '\t') else line
    if shown == mark then ([], after.drop 1, 1)
    else
      let (text, left, count) := documentText mark dropsTabs fuel (after.drop 1)
      (shown ++ after.take 1 ++ text, left, count + 1)

/-- The text of a word that is a mark, and whether any of it is quoted. -/
def markOf (word : Word) : List Char × Bool :=
  (word.flatMap fun piece =>
      match piece with
      | .text content _ => content.toList
      | _ => [],
    word.any fun piece => piece matches .text _ true)

/-- The name and the value of a word that assigns. -/
def assignment? : Word → Option (String × Word)
  | .text content false :: rest =>
    let chars := content.toList
    let name := chars.takeWhile isNameChar
    match name, chars.drop name.length with
    | first :: _, '=' :: value =>
      if isNameStart first then
        let pieces := if value.isEmpty then rest else .text (String.ofList value) false :: rest
        some (String.ofList name, pieces)
      else none
    | _, _ => none
  | _ => none

/-- What a simple command holds so far, newest first. -/
structure SimpleDraft where
  assignments : List (String × Word)
  words : List Word
  redirections : List Redirection

def SimpleDraft.command (draft : SimpleDraft) (line : Nat) : Command :=
  .simple draft.assignments.reverse draft.words.reverse draft.redirections.reverse line

section

-- What reads the commands of a substitution, up to the token that ends them.
variable (commands : Scanner Unit)

def expectWord (text : String) : Scanner Unit := do
  let found ← token commands
  if !isWord found text then throw (unexpected found text)

def expectOperator (text : String) : Scanner Unit := do
  let found ← token commands
  if !isOperator found text then throw (unexpected found text)

def skipNewlines : Nat → Scanner Unit
  | 0 => pure ()
  | fuel + 1 => do
    match ← peek commands with
    | .newline =>
      let _ ← token commands
      skipNewlines fuel
    | _ => pure ()

/-- Takes the document that a mark ends out of the lines after this one.  Unless the mark is quoted,
the document is expanded like a quoted text. -/
def document (mark : Word) (dropsTabs : Bool) : Scanner Word := do
  let source ← get
  let line := source.rest.takeWhile (· != lineBreak)
  let after := source.rest.drop line.length
  let (final, quoted) := markOf mark
  let (text, left, count) := documentText final dropsTabs (after.length + 1) (after.drop 1)
  let source := { source with
    rest := line ++ after.take 1 ++ left
    taken := source.taken + count }
  if quoted then
    set source
    pure [.text (String.ofList text) true]
  else
    set (Source.ofText text source.line)
    let word ← pieces commands .document (2 * text.length + 4) .empty
    set source
    pure word

/-- The word a redirection goes to, or the document it begins. -/
def redirectionTarget (operator : String) : Scanner Word := do
  match ← token commands with
  | .word word =>
    if operator == "<<" || operator == "<<-" then document commands word (operator == "<<-")
    else pure word
  | found => throw (unexpected found "")

/-- The redirection that a token begins, if it does. -/
def redirectionFrom? (found : Token) : Scanner (Option Redirection) := do
  match found with
  | .descriptor number =>
    let _ ← token commands
    match ← token commands with
    | .operator text =>
      match direction? text with
      | some (_, direction) => return some ⟨number, direction, ← redirectionTarget commands text⟩
      | none => throw (unexpected (.operator text) "")
    | other => throw (unexpected other "")
  | .operator text =>
    match direction? text with
    | some (descriptor, direction) =>
      let _ ← token commands
      return some ⟨descriptor, direction, ← redirectionTarget commands text⟩
    | none => return none
  | _ => return none

def redirections : Nat → List Redirection → Scanner (List Redirection)
  | 0, found => pure found.reverse
  | fuel + 1, found => do
    match ← redirectionFrom? commands (← peek commands) with
    | some redirection => redirections fuel (redirection :: found)
    | none => pure found.reverse

/-- A simple command, or the name of a function if a parenthesis follows the first word. -/
def simple : Nat → SimpleDraft → Scanner SimpleDraft
  | 0, draft => pure draft
  | fuel + 1, draft => do
    let next ← peek commands
    match ← redirectionFrom? commands next with
    | some redirection =>
      simple fuel { draft with redirections := redirection :: draft.redirections }
    | none =>
      match next with
      | .word word =>
        let _ ← token commands
        match if draft.words.isEmpty then assignment? word else none with
        | some assignment => simple fuel { draft with assignments := assignment :: draft.assignments }
        | none => simple fuel { draft with words := word :: draft.words }
      | _ => pure draft

def wordsToEnd : Nat → List Word → Scanner (List Word)
  | 0, words => pure words.reverse
  | fuel + 1, words => do
    match ← peek commands with
    | .word word =>
      let _ ← token commands
      wordsToEnd fuel (word :: words)
    | _ => pure words.reverse

/-- The patterns of one clause, between bars.  Whatever comes in the place of one is taken. -/
def patterns : Nat → List Word → Scanner (List Word)
  | 0, found => pure found.reverse
  | fuel + 1, found => do
    let word := match ← token commands with
      | .word word => word
      | _ => []
    match ← token commands with
    | .operator "|" => patterns fuel (word :: found)
    | .operator ")" => pure (word :: found).reverse
    | other => throw (unexpectedPlain other ")")

/-- Puts the text of an alias in the place of the word that comes next, if it is one that is not
being put in already. -/
def putAlias : Scanner Bool := do
  let before ← get
  match before.aliases, ← peek commands with
  | _ :: _, .word word =>
    let name := (bareText? word).getD ""
    let inUse := before.used.any fun entry => entry.1 == name && entry.2 < before.rest.length
    match before.aliases.lookup name with
    | some text =>
      if inUse || keywords.contains name then return false
      let _ ← token commands
      let source ← get
      set { source with
        rest := text.toList ++ source.rest
        used := (name, source.rest.length) :: source.used }
      return true
    | none => return false
  | _, _ => return false

mutual

/-- A list of commands.  Inside another command it goes on over line ends. -/
def list (inner : Bool) : Nat → Scanner Command
  | 0 => throw (.unexpected "end of file" "")
  | fuel + 1 => do
    if inner then
      skipNewlines commands fuel
      if (← peek commands) matches .finished then return .nothing
    let first ← andOr fuel
    let next ← peek commands
    let (command, goesOn) ← do
      if isOperator next "&" then
        let _ ← token commands
        pure (Command.background first, true)
      else if isOperator next ";" then
        let _ ← token commands
        pure (first, true)
      else if inner && next matches .newline then pure (first, true)
      else pure (first, false)
    if !goesOn then return command
    if inner then skipNewlines commands fuel
    let next ← peek commands
    if endsList next || next matches .newline then return command
    return .sequence command (← list inner fuel)

/-- Pipelines joined by conditions, from left to right. -/
def andOr : Nat → Scanner Command
  | 0 => throw (.unexpected "end of file" "")
  | fuel + 1 => do andOrFrom fuel (← pipeline fuel)

def andOrFrom : Nat → Command → Scanner Command
  | 0, first => pure first
  | fuel + 1, first => do
    match ← peek commands with
    | .operator "&&" =>
      let _ ← token commands
      skipNewlines commands fuel
      andOrFrom fuel (.andThen first (← pipeline fuel))
    | .operator "||" =>
      let _ ← token commands
      skipNewlines commands fuel
      andOrFrom fuel (.orElse first (← pipeline fuel))
    | _ => pure first

def pipeline : Nat → Scanner Command
  | 0 => throw (.unexpected "end of file" "")
  | fuel + 1 => do
    if isWord (← peek commands) "!" then
      let _ ← token commands
      return .negated (← stages fuel [])
    stages fuel []

def stages : Nat → List Command → Scanner Command
  | 0, _ => throw (.unexpected "end of file" "")
  | fuel + 1, before => do
    let stage ← command fuel
    match ← peek commands with
    | .operator "|" =>
      let _ ← token commands
      skipNewlines commands fuel
      stages fuel (stage :: before)
    | _ => pure (if before.isEmpty then stage else .pipeline (stage :: before).reverse)

def command : Nat → Scanner Command
  | 0 => throw (.unexpected "end of file" "")
  | fuel + 1 => do
    if ← putAlias commands then return ← command fuel
    let next ← peek commands
    let line := (← get).line
    match ← compound? fuel next with
    | some body =>
      match ← redirections commands fuel [] with
      | [] => pure body
      | found => pure (.redirected body found line)
    | none =>
      if let .word word := next then
        if let some text := bareText? word then
          if keywords.contains text then throw (unexpected next "")
      let draft ← simple commands fuel ⟨[], [], []⟩
      match draft with
      | ⟨[], [], []⟩ => throw (unexpected next "")
      | ⟨[], [word], []⟩ =>
        if isOperator (← peek commands) "(" then
          let _ ← token commands
          expectOperator commands ")"
          let name := (bareText? word).getD ""
          if !isName name || isSpecialCommand name then throw .badFunctionName
          skipNewlines commands fuel
          pure (.define name (← command fuel))
        else pure (draft.command line)
      | _ => pure (draft.command line)

/-- The command that a keyword or a parenthesis begins, if one does. -/
def compound? : Nat → Token → Scanner (Option Command)
  | 0, _ => throw (.unexpected "end of file" "")
  | fuel + 1, next => do
    if isOperator next "(" then
      let _ ← token commands
      let body ← list true fuel
      expectOperator commands ")"
      return some (.subshell body)
    match next with
    | .word word =>
      match bareText? word with
      | some "\x7b" =>
        let _ ← token commands
        let body ← list true fuel
        expectWord commands "\x7d"
        return some body
      | some "if" =>
        let _ ← token commands
        return some (← conditional fuel)
      | some "while" =>
        let _ ← token commands
        let test ← list true fuel
        return some (.repeated false test (← loopBody fuel))
      | some "until" =>
        let _ ← token commands
        let test ← list true fuel
        return some (.repeated true test (← loopBody fuel))
      | some "for" =>
        let _ ← token commands
        match ← token commands with
        | .word name =>
          let name := (bareText? name).getD ""
          if !isName name then throw .badLoopVariable
          skipNewlines commands fuel
          let words ← do
            if isWord (← peek commands) "in" then
              let _ ← token commands
              let words ← wordsToEnd commands fuel []
              let separator ← token commands
              if !(isOperator separator ";" || separator matches .newline) then
                throw (unexpected separator "")
              pure (some words)
            else
              if isOperator (← peek commands) ";" then
                let _ ← token commands
              pure none
          skipNewlines commands fuel
          return some (.each name words (← loopBody fuel))
        | _ => throw .badLoopVariable
      | some "case" =>
        let _ ← token commands
        match ← token commands with
        | .word subject =>
          skipNewlines commands fuel
          expectWord commands "in"
          skipNewlines commands fuel
          return some (.choice subject (← clauses fuel []))
        | other => throw (.unexpected (tokenName other) "word")
      | _ => return none
    | _ => return none

/-- What stands between the words that begin and end the body of a loop. -/
def loopBody : Nat → Scanner Command
  | 0 => throw (.unexpected "end of file" "")
  | fuel + 1 => do
    expectWord commands "do"
    let body ← list true fuel
    expectWord commands "done"
    pure body

def conditional : Nat → Scanner Command
  | 0 => throw (.unexpected "end of file" "")
  | fuel + 1 => do
    let test ← list true fuel
    expectWord commands "then"
    let yes ← list true fuel
    let next ← token commands
    if isWord next "elif" then return .conditional test yes (← conditional fuel)
    else if isWord next "else" then
      let no ← list true fuel
      expectWord commands "fi"
      return .conditional test yes no
    else if isWord next "fi" then return .conditional test yes .nothing
    else throw (unexpected next "fi")

def clauses : Nat → List (List Word × Command) → Scanner (List (List Word × Command))
  | 0, _ => throw (.unexpected "end of file" "")
  | fuel + 1, found => do
    if isWord (← peek commands) "esac" then
      let _ ← token commands
      return found.reverse
    if isOperator (← peek commands) "(" then
      let _ ← token commands
    let words ← patterns commands fuel []
    skipNewlines commands fuel
    let next ← peek commands
    let body ← if endsList next then pure .nothing else list true fuel
    let found := (words, body) :: found
    let next ← token commands
    if isOperator next ";;" then
      skipNewlines commands fuel
      clauses fuel found
    else if isWord next "esac" then return found.reverse
    else throw (unexpected next ";;")

end

end

/-- Reads the commands of a substitution, up to the token that ends them; substitutions in it are
nested at most as deep as the bound says. -/
def substituted : Nat → Scanner Unit
  | 0 => throw .unterminatedSubstitution
  | depth + 1 => do
    let fuel := 8 * (← get).rest.length + 8
    skipNewlines (substituted depth) fuel
    if !endsList (← peek (substituted depth)) then
      let _ ← list (substituted depth) true fuel

/-- What reads the commands of the substitutions in the rest of a script. -/
def substitutions : Scanner (Scanner Unit) := do return substituted ((← get).rest.length + 1)

/-- The next complete command line, or nothing at the end of the script. -/
def commandLine : Scanner (Option Command) := do
  let commands ← substitutions
  let fuel := 8 * (← get).rest.length + 8
  skipNewlines commands fuel
  if (← peek commands) matches .finished then return none
  let command ← list commands false fuel
  match ← token commands with
  | .newline | .finished => return some command
  | other => throw (unexpected other "")

/-- Is there nothing left but blanks, comments and line ends? -/
def isOver : Scanner Bool := do
  let before ← get
  let commands ← substitutions
  skipNewlines commands (before.rest.length + 1)
  let next ← peek commands
  set before
  pure (next matches .finished)

/-- The pieces of a text that is expanded like a quoted one. -/
def documentPieces (text : String) : Scanner Word := do
  set (Source.ofText text.toList 1)
  pieces (← substitutions) .document (2 * text.length + 4) .empty

end Scanner

end Supervision.Shell
