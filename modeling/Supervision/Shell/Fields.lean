import Supervision.Shell.Arithmetic
import Supervision.Shell.Command
import Supervision.Shell.Pattern
import Supervision.Shell.Settings

/-!
# Words into fields

Expanding a word replaces its parameters and expressions, cuts what came from them into fields
where it holds separators, and lets patterns stand for the names of files.  Command substitutions
have been run before, and their output stands in the word as captured text.
-/

namespace Supervision.Shell

/-- The positional parameters, and how far the options among them have been read: the word that
comes next, counted from one, and what comes next in the word before it. -/
structure Parameters where
  words : List String
  optionWord : Nat
  optionOffset : Option Nat
  deriving Repr, Inhabited

/-- Parameters whose options have still to be read. -/
def Parameters.ofWords (words : List String) : Parameters := ⟨words, 1, none⟩

/-- What words are expanded with. -/
structure Variables where
  name : String
  parameters : Parameters
  values : Environment
  exported : List String
  readOnly : List String
  status : Nat
  shell : Nat
  parent : Nat
  lastBackground : Option Nat
  letters : List Char
  deriving Repr, Inhabited

namespace Variables

def positional (scope : Variables) : List String := scope.parameters.words

/-- The value of a parameter, if it is set. -/
def find? (scope : Variables) (parameter : String) : Option String :=
  match parameter with
  | "?" => some (toString scope.status)
  | "$" => some (toString scope.shell)
  | "#" => some (toString scope.positional.length)
  | "!" => scope.lastBackground.map toString
  | "-" => some (String.ofList (sortedLetters scope.letters))
  | "0" => some scope.name
  | "PPID" => some (toString scope.parent)
  | "@" | "*" => some (" ".intercalate scope.positional)
  | _ =>
    match parameter.toNat? with
    | some position => scope.positional[position - 1]?
    | none => scope.values.find? parameter

/-- Sets a variable.  The one that counts the words of options starts their reading anew. -/
def set (scope : Variables) (name value : String) : Variables :=
  let scope := { scope with values := scope.values.insert name value }
  if name == "OPTIND" then
    { scope with
      parameters := ⟨scope.positional, max 1 (value.toNat?.getD 1), none⟩ }
  else scope

def setPositional (scope : Variables) (words : List String) : Variables :=
  { scope with parameters := .ofWords words }

/-- Takes over the entries of an environment.  A name ends at the first equals sign, and entries
whose names no variable can have are left alone. -/
def ofEnvironment (scope : Variables) (environment : Environment) : Variables :=
  environment.entries.foldl
    (fun scope (name, value) =>
      let entry := (name ++ "=" ++ value).toList
      let name := entry.takeWhile (· != '=')
      let text := String.ofList name
      if !isName text then scope
      else
        { scope with
          values := scope.values.insert text (String.ofList (entry.drop (name.length + 1)))
          exported := text :: scope.exported }) scope

/-- Sets a variable unless it is read-only. -/
def assign (scope : Variables) (name value : String) : Except String Variables :=
  if !isName name then .error (name ++ ": bad variable name")
  else if scope.readOnly.contains name then .error (name ++ ": is read only")
  else
    let exported :=
      if scope.letters.contains 'a' then name :: scope.exported else scope.exported
    .ok { scope.set name value with exported }

/-- Has a parameter a value, other than the empty one if that does not count? -/
def holds (scope : Variables) (name : String) (whenEmpty : Bool) : Bool :=
  match scope.find? name with
  | none => false
  | some text => !(whenEmpty && text.isEmpty)

/-- Is the operand looked at when a parameter is used? -/
def looksAt (scope : Variables) (name : String) : ParameterUse → Bool
  | .unknown | .plain | .length => false
  | .otherwise whenEmpty | .assign whenEmpty | .require whenEmpty => !scope.holds name whenEmpty
  | .instead whenEmpty => scope.holds name whenEmpty
  | .withoutFront _ | .withoutBack _ => true

/-- Is an unset parameter a fault?  Only ordinary ones are ever unset. -/
def isMissing (scope : Variables) (name : String) : Bool :=
  scope.letters.contains 'u' && name != "@" && name != "*" && (scope.find? name).isNone

/-- The characters that separate fields. -/
def separators (scope : Variables) : List Char :=
  match scope.values.find? "IFS" with
  | some characters => characters.toList
  | none => [' ', '\t', '\n']

def environment (scope : Variables) : Environment :=
  ⟨scope.values.entries.filter fun entry => scope.exported.contains entry.1⟩

end Variables

/-- A part of an expanded word: a character, a place where a field exists even if it is empty, or
the border between two fields. -/
inductive Part
  | char (glyph : Glyph) (splits : Bool)
  | present
  | border
  deriving DecidableEq, Repr

/-- An expansion may assign to variables, and it may fail with a message. -/
abbrev Expanding := StateT Variables (Except String)

/-- The characters of a text that came from an expansion or stood in the word. -/
def partsOf (text : String) (quoted splits : Bool) : List Part :=
  text.toList.map fun char => .char ⟨char, quoted⟩ splits

def partsText (parts : List Part) : String :=
  String.ofList (parts.filterMap fun part =>
    match part with
    | .char glyph _ => some glyph.char
    | .present => none
    | .border => some ' ')

def partGlyphs (parts : List Part) : List Glyph :=
  parts.filterMap fun part =>
    match part with
    | .char glyph _ => some glyph
    | _ => none

/-- The positional parameters as parts: fields of their own, except that the quoted star joins them
by the first separator. -/
def positionalParts (scope : Variables) (parameter : String) (quoted : Bool) : List Part :=
  if parameter == "*" && quoted then
    let separator := match scope.separators with
      | first :: _ => String.ofList [first]
      | [] => ""
    partsOf (separator.intercalate scope.positional) true false
  else
    let fields := scope.positional.map fun value =>
      (if quoted then [Part.present] else []) ++ partsOf value quoted (!quoted)
    (fields.intersperse [Part.border]).flatten

def parameterParts (scope : Variables) (parameter : String) (quoted : Bool) : List Part :=
  if parameter == "@" || parameter == "*" then positionalParts scope parameter quoted
  else partsOf ((scope.find? parameter).getD "") quoted (!quoted)

mutual

/-- Expands the pieces of a word; `inner` says that bare text in it may be split. -/
def expandPieces (inner : Bool) : List Piece → Expanding (List Part)
  | [] => pure []
  | piece :: rest => do
    let first ← expandPiece inner piece
    let more ← expandPieces inner rest
    pure (first ++ more)

def expandPiece (inner : Bool) : Piece → Expanding (List Part)
  | .text content quoted =>
    pure (if quoted && content.isEmpty then [.present]
      else partsOf content quoted (inner && !quoted))
  | .substitution _ _ => pure []
  | .captured content quoted => pure (partsOf content quoted (!quoted))
  | .arithmetic inside quoted => do
    let text := partsText (← expandPieces false inside)
    let scope ← get
    match Arithmetic.evaluate scope.readOnly scope.values text with
    | .ok (value, values) =>
      set { scope with values }
      pure (partsOf value quoted (!quoted))
    | .error fault => throw fault
  | .parameter name use operand quoted => do
    let scope ← get
    let value := scope.find? name
    let isSet (whenEmpty : Bool) : Bool := scope.holds name whenEmpty
    let value? : Expanding String :=
      if scope.isMissing name then throw (name ++ ": parameter not set")
      else pure (value.getD "")
    match use with
    | .unknown => throw "Bad substitution"
    | .plain =>
      let _ ← value?
      pure (parameterParts scope name quoted)
    | .length =>
      let text ← value?
      let length := if name == "@" || name == "*" then scope.positional.length
        else text.utf8ByteSize
      pure (partsOf (toString length) quoted (!quoted))
    | .otherwise whenEmpty =>
      if isSet whenEmpty then pure (parameterParts scope name quoted)
      else expandPieces true operand
    | .instead whenEmpty =>
      if isSet whenEmpty then expandPieces true operand else pure []
    | .assign whenEmpty =>
      if isSet whenEmpty then pure (parameterParts scope name quoted)
      else
        let text := partsText (← expandPieces false operand)
        match (← get).assign name text with
        | .ok scope => set scope
        | .error fault => throw fault
        pure (partsOf text quoted (!quoted))
    | .require whenEmpty =>
      if isSet whenEmpty then pure (parameterParts scope name quoted)
      else
        let text := partsText (← expandPieces false operand)
        let reason := if !operand.isEmpty then text
          else if whenEmpty then "parameter not set or null" else "parameter not set"
        throw (name ++ ": " ++ reason)
    | .withoutFront longest =>
      let pattern := partGlyphs (← expandPieces false operand)
      pure (partsOf (withoutFront pattern longest (← value?)) quoted (!quoted))
    | .withoutBack longest =>
      let pattern := partGlyphs (← expandPieces false operand)
      pure (partsOf (withoutBack pattern longest (← value?)) quoted (!quoted))

end

/-- The characters of a word expanded but not split. -/
def expandGlyphs (word : Word) : Expanding (List Glyph) := do
  pure (partGlyphs (← expandPieces false word))

/-- A tilde at the front of a word stands for the home directory. -/
def withHome (scope : Variables) (word : Word) : Word :=
  match word with
  | .text content false :: rest =>
    match content.toList, scope.values.find? "HOME" with
    | '~' :: '/' :: path, some home =>
      .text home true :: .text (String.ofList ('/' :: path)) false :: rest
    | ['~'], some home => if rest.isEmpty then [.text home true] else word
    | _, _ => word
  | _ => word

/-- A word expanded to one text. -/
def expandText (word : Word) : Expanding String := do
  let parts ← expandPieces false (withHome (← get) word)
  pure (partsText parts)

/-- Bare text between colons, in which tildes stand for the home directory: at its front if `atStart`
says so, and at its end if nothing follows it. -/
def homePieces (home : String) (atStart isLast : Bool) (content : String) : List Piece :=
  let segments := content.splitOn ":"
  let expand (index : Nat) (segment : String) : List Piece :=
    let chars := segment.toList
    let isWhole := index + 1 < segments.length || isLast || chars.tail.contains '/'
    let text := if chars.head? == some '~' && (atStart || 0 < index) && isWhole
        && (chars.length = 1 || chars[1]? == some '/') then
        [Piece.text home true, .text (String.ofList chars.tail) false]
      else [.text segment false]
    if index = 0 then text else .text ":" false :: text
  (segments.mapIdx expand).flatten

/-- The pieces of an assigned word, in which a tilde may also follow a colon. -/
def withHomes (home : String) (atStart : Bool) : Word → Word
  | [] => []
  | .text content false :: rest =>
    homePieces home atStart rest.isEmpty content ++ withHomes home false rest
  | piece :: rest => piece :: withHomes home false rest

/-- A word expanded to the value of an assignment. -/
def expandAssigned (word : Word) : Expanding String := do
  let word := match (← get).values.find? "HOME" with
    | some home => withHomes home true word
    | none => word
  let parts ← expandPieces false word
  pure (partsText parts)

/-- Fields found so far and the one under way. -/
structure FieldDraft where
  fields : List (List Glyph)
  current : List Glyph
  begun : Bool
  afterBlank : Bool

namespace FieldDraft

def close (draft : FieldDraft) : FieldDraft :=
  if draft.begun then ⟨draft.current.reverse :: draft.fields, [], false, draft.afterBlank⟩
  else { draft with current := [] }

/-- Takes one part.  A blank separator ends a field that has begun; any other ends a field whether
it has begun or not, unless a blank has just ended one. -/
def add (separators : List Char) (draft : FieldDraft) (part : Part) : FieldDraft :=
  match part with
  | .present => { draft with begun := true, afterBlank := false }
  | .border => { draft.close with afterBlank := false }
  | .char glyph splits =>
    if splits && separators.contains glyph.char then
      if [' ', '\t', '\n'].contains glyph.char then
        if draft.begun then { draft.close with afterBlank := true } else draft
      else if draft.afterBlank && !draft.begun then { draft with afterBlank := false }
      else { ({ draft with begun := true } : FieldDraft).close with afterBlank := false }
    else { draft with current := glyph :: draft.current, begun := true, afterBlank := false }

end FieldDraft

/-- Cuts an expanded word into fields. -/
def splitFields (separators : List Char) (parts : List Part) : List (List Glyph) :=
  let start : FieldDraft := ⟨[], [], false, false⟩
  (parts.foldl (FieldDraft.add separators) start).close.fields.reverse

/-- An empty quotation around nothing but positional parameters makes no field of its own. -/
def withoutEmptyQuotes (word : Word) : Word :=
  if word.any fun piece => piece matches .parameter "@" .plain _ true then
    word.filter fun piece => !(piece matches .text "" true)
  else word

def expandWord (files : Files.Tree) (word : Word) : Expanding (List String) := do
  let parts ← expandPieces false (withHome (← get) (withoutEmptyQuotes word))
  let fields := splitFields (← get).separators parts
  let noNames := (← get).letters.contains 'f'
  pure (if noNames then fields.map glyphText else fields.flatMap (expandNames files))

def expandWords (files : Files.Tree) : List Word → Expanding (List String)
  | [] => pure []
  | word :: rest => do
    let first ← expandWord files word
    let more ← expandWords files rest
    pure (first ++ more)

mutual

/-- The first command substitution in a word that is still to be run. -/
def firstSubstitution? (scope : Variables) : List Piece → Option String
  | [] => none
  | piece :: rest =>
    (pieceSubstitution? scope piece).orElse fun _ => firstSubstitution? scope rest

def pieceSubstitution? (scope : Variables) : Piece → Option String
  | .substitution script _ => some script
  | .parameter name use operand _ =>
    if scope.looksAt name use then firstSubstitution? scope operand else none
  | .arithmetic inside _ => firstSubstitution? scope inside
  | .text .. | .captured .. => none

end

mutual

/-- A word with captured text in the place of its first command substitution. -/
def putCaptured (scope : Variables) (output : String) : List Piece → List Piece
  | [] => []
  | piece :: rest =>
    if (pieceSubstitution? scope piece).isSome then putCapturedPiece scope output piece :: rest
    else piece :: putCaptured scope output rest

def putCapturedPiece (scope : Variables) (output : String) : Piece → Piece
  | .substitution _ quoted => .captured output quoted
  | .parameter name use operand quoted =>
    .parameter name use (putCaptured scope output operand) quoted
  | .arithmetic inside quoted => .arithmetic (putCaptured scope output inside) quoted
  | .text content quoted => .text content quoted
  | .captured content quoted => .captured content quoted

end

end Supervision.Shell
