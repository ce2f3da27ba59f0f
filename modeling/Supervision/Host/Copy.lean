import Supervision.Text.Utf8

/-!
# Copies of files

What is copied may be shown in other ways: with numbered lines, without repeated blank lines, with
line ends marked, and with characters that cannot be seen written as ones that can.  Numbers go on
from one file to the next.
-/

namespace Supervision.Host

/-- How a copy is shown. -/
structure CopyStyle where
  numbers : Bool
  skipsBlank : Bool
  squeezes : Bool
  marksEnds : Bool
  marksTabs : Bool
  visible : Bool
  deriving DecidableEq, Repr

def CopyStyle.ofLetters (letters : List Char) : CopyStyle :=
  let has (known : List Char) : Bool := known.any letters.contains
  { numbers := has ['n', 'b']
    skipsBlank := has ['b']
    squeezes := has ['s']
    marksEnds := has ['E', 'e', 'A']
    marksTabs := has ['T', 't', 'A']
    visible := has ['v', 'e', 't', 'A'] }

/-- How far a copy has come: the number of the next line, whether a line is about to begin, and
whether the line before it was blank. -/
structure CopyPlace where
  number : Nat
  atStart : Bool
  afterBlank : Bool
  deriving DecidableEq, Repr

def CopyPlace.start : CopyPlace := ⟨1, true, false⟩

/-- The number of a line, six columns wide, and a tab. -/
def lineNumber (number : Nat) : Bytes :=
  let text := toString number
  Text.Utf8.encode (String.ofList (List.replicate (6 - text.length) ' ') ++ text ++ "\t")

namespace CopyStyle

/-- A byte that does not end a line, as a style shows it. -/
def shown (style : CopyStyle) (byte : UInt8) : Bytes :=
  let control (byte : UInt8) : Bytes :=
    if byte < 0x20 then [0x5e, byte + 0x40] else if byte = 0x7f then [0x5e, 0x3f] else [byte]
  if byte = 0x09 then if style.marksTabs then [0x5e, 0x49] else [byte]
  else if !style.visible then [byte]
  else if 0x80 ≤ byte then [0x4d, 0x2d] ++ control (byte - 0x80)
  else control byte

/-- Shows bytes from a place on, after what was shown before, newest first. -/
def copyFrom (style : CopyStyle) : CopyPlace → List Bytes → Bytes → Bytes × CopyPlace
  | place, done, [] => (done.reverse.flatten, place)
  | place, done, byte :: rest =>
    let isEnd := byte = 0x0a
    if isEnd && place.atStart && place.afterBlank && style.squeezes then
      style.copyFrom place done rest
    else
      let isBlank := isEnd && place.atStart
      let counts := style.numbers && place.atStart && !(isBlank && style.skipsBlank)
      let front := if counts then lineNumber place.number else []
      let marksReturn := byte = 0x0d && style.marksEnds && rest.head? = some 0x0a
      let body :=
        if isEnd then (if style.marksEnds then [0x24] else []) ++ [byte]
        else if marksReturn then [0x5e, 0x4d]
        else style.shown byte
      style.copyFrom ⟨if counts then place.number + 1 else place.number, isEnd, isBlank⟩
        ((front ++ body) :: done) rest

/-- Shows bytes from a place on, and says which place comes after them. -/
def copy (style : CopyStyle) (place : CopyPlace) (bytes : Bytes) : Bytes × CopyPlace :=
  if style = ofLetters [] then (bytes, place) else style.copyFrom place [] bytes

end CopyStyle

end Supervision.Host
