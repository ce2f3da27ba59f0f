import Supervision.Files.Tree

/-!
# Patterns of the shell

A pattern is matched against a whole text.  A star stands for any text, a question mark for any
character, and brackets for one of the characters they list; a quoted character stands for itself.
-/

namespace Supervision.Shell

/-- A character and whether it was quoted. -/
structure Glyph where
  char : Char
  quoted : Bool
  deriving DecidableEq, Repr, Inhabited

def glyphText (glyphs : List Glyph) : String := String.ofList (glyphs.map Glyph.char)

/-- One element of a pattern. -/
inductive Matcher
  | exactly (char : Char)
  | anyOne
  | anyText
  | oneOf (negated : Bool) (ranges : List (Char × Char))
  deriving DecidableEq, Repr

namespace Matcher

def accepts : Matcher → Char → Bool
  | exactly expected, char => expected == char
  | anyOne, _ => true
  | anyText, _ => true
  | oneOf negated ranges, char =>
    let listed := ranges.any fun range => decide (range.1 ≤ char) && decide (char ≤ range.2)
    listed != negated

/-- The characters of the classes that have names. -/
def classRanges? : String → Option (List (Char × Char))
  | "digit" => some [('0', '9')]
  | "lower" => some [('a', 'z')]
  | "upper" => some [('A', 'Z')]
  | "alpha" => some [('A', 'Z'), ('a', 'z')]
  | "alnum" => some [('0', '9'), ('A', 'Z'), ('a', 'z')]
  | "xdigit" => some [('0', '9'), ('A', 'F'), ('a', 'f')]
  | "space" => some [('\t', '\x0d'), (' ', ' ')]
  | "blank" => some [('\t', '\t'), (' ', ' ')]
  | "punct" => some [('!', '/'), (':', '@'), ('[', Char.ofNat 0x60), ('\x7b', '~')]
  | "cntrl" => some [(Char.ofNat 0, '\x1f'), ('\x7f', '\x7f')]
  | "graph" => some [('!', '~')]
  | "print" => some [(' ', '~')]
  | _ => none

/-- The class that stands in brackets and colons at the front, and what follows it. -/
def leadingClass? (glyphs : List Glyph) : Option (List (Char × Char) × List Glyph) :=
  match glyphs with
  | ⟨'[', false⟩ :: ⟨':', false⟩ :: rest =>
    let name := rest.takeWhile fun glyph => glyph.char.isAlpha
    match rest.drop name.length with
    | ⟨':', false⟩ :: ⟨']', false⟩ :: more =>
      (classRanges? (glyphText name)).map fun found => (found, more)
    | _ => none
  | _ => none

/-- The ranges up to the bracket that closes them, and what follows it; `fuel` bounds how many
there can be. -/
def ranges : Nat → List Glyph → List (Char × Char) → Option (List (Char × Char) × List Glyph)
  | 0, _, _ => none
  | _ + 1, [], _ => none
  | fuel + 1, glyph :: rest, found =>
    if glyph.char = ']' && !glyph.quoted && !found.isEmpty then some (found.reverse, rest)
    else match leadingClass? (glyph :: rest) with
    | some (members, more) => ranges fuel more (members.reverse ++ found)
    | none =>
      match rest with
      | ⟨'-', false⟩ :: last :: more =>
        if last.char != ']' then ranges fuel more ((glyph.char, last.char) :: found)
        else ranges fuel rest ((glyph.char, glyph.char) :: found)
      | _ => ranges fuel rest ((glyph.char, glyph.char) :: found)

/-- The pattern that characters make; `fuel` bounds how many elements there can be. -/
def compile : Nat → List Glyph → List Matcher
  | 0, _ => []
  | _ + 1, [] => []
  | fuel + 1, glyph :: rest =>
    if glyph.quoted then exactly glyph.char :: compile fuel rest
    else if glyph.char = '*' then anyText :: compile fuel rest
    else if glyph.char = '?' then anyOne :: compile fuel rest
    else if glyph.char = '[' then
      let negated := match rest with
        | first :: _ => !first.quoted && (first.char == '!' || first.char == '^')
        | [] => false
      match ranges (rest.length + 1) (if negated then rest.tail else rest) [] with
      | some (found, more) => oneOf negated found :: compile fuel more
      | none => exactly '[' :: compile fuel rest
    else exactly glyph.char :: compile fuel rest

def ofGlyphs (glyphs : List Glyph) : List Matcher := compile glyphs.length glyphs

def matchesAll : List Matcher → List Char → Bool
  | [], text => text.isEmpty
  | anyText :: rest, [] => matchesAll rest []
  | anyText :: rest, char :: text =>
    matchesAll rest (char :: text) || matchesAll (anyText :: rest) text
  | matcher :: rest, char :: text => matcher.accepts char && matchesAll rest text
  | _ :: _, [] => false
termination_by pattern text => pattern.length + text.length

end Matcher

def matchesGlyphs (pattern : List Glyph) (text : String) : Bool :=
  Matcher.matchesAll (Matcher.ofGlyphs pattern) text.toList

/-- A text without the part at its front that a pattern matches, shortest or longest. -/
def withoutFront (pattern : List Glyph) (longest : Bool) (text : String) : String :=
  let chars := text.toList
  let lengths := List.range (chars.length + 1)
  let matchers := Matcher.ofGlyphs pattern
  let order := if longest then lengths.reverse else lengths
  match order.find? fun length => Matcher.matchesAll matchers (chars.take length) with
  | some length => String.ofList (chars.drop length)
  | none => text

/-- A text without the part at its back that a pattern matches, shortest or longest. -/
def withoutBack (pattern : List Glyph) (longest : Bool) (text : String) : String :=
  let chars := text.toList
  let lengths := List.range (chars.length + 1)
  let matchers := Matcher.ofGlyphs pattern
  let order := if longest then lengths else lengths.reverse
  match order.find? fun length => Matcher.matchesAll matchers (chars.drop length) with
  | some length => String.ofList (chars.take length)
  | none => text

/-- Does a character make a pattern out of the name it stands in? -/
def Glyph.isWild (glyph : Glyph) : Bool :=
  !glyph.quoted && ['*', '?', '['].contains glyph.char

def splitAtSlashes : List Glyph → List (List Glyph)
  | [] => [[]]
  | glyph :: rest =>
    match splitAtSlashes rest with
    | [] => [[glyph]]
    | part :: parts => if glyph.char = '/' then [] :: part :: parts else (glyph :: part) :: parts

/-- The names that parts of a pattern reach from paths reached before. -/
def reachNames (files : Files.Tree) : List (List Glyph) → List String → List String
  | [], reached => reached
  | part :: parts, reached =>
    let last := parts.isEmpty
    let extend (path : String) : List String :=
      if part.any Glyph.isWild then
        match files.resolve (if path.isEmpty then "." else path) with
        | .ok directory =>
          let hidden := (part.head?.map Glyph.char) == some '.'
          let all := if hidden then "." :: ".." :: files.children directory
            else files.children directory
          let names := all.filter fun name =>
            (hidden || name.toList.head? != some '.') && matchesGlyphs part name
          names.map fun name => path ++ name
        | .error _ => []
      else
        let next := path ++ glyphText part
        if last && !part.isEmpty && !files.exists next then [] else [next]
    let found := reached.flatMap extend
    reachNames files parts (if last then found else found.map (· ++ "/"))

/-- The names of files that a word stands for, or the word itself if there are none. -/
def expandNames (files : Files.Tree) (word : List Glyph) : List String :=
  if !word.any Glyph.isWild then [glyphText word]
  else
    let found := reachNames files (splitAtSlashes word) [""]
    if found.isEmpty then [glyphText word]
    else found.mergeSort fun first second => decide (first ≤ second)

end Supervision.Shell
