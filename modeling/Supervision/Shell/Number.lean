/-!
# Numbers in a text

A number may have blanks and a sign before it, and its first digits say what base it has: sixteen
after `0x`, two after `0b`, eight after `0`, and ten otherwise.  What is read of a text is the
longest number it begins with.
-/

namespace Supervision.Shell

/-- The number that a text begins with, if it begins with one, and what follows it. -/
structure Scanned where
  found : Bool
  negative : Bool
  magnitude : Nat
  rest : List Char
  deriving Repr

def digitValue (char : Char) : Nat :=
  if char.isDigit then char.toNat - 48
  else if char.isAlpha then char.toLower.toNat - 87
  else 36

def isSpace (char : Char) : Bool := char == ' ' || ('\t' ≤ char && char ≤ '\x0d')

/-- Does a text begin with a digit of a base? -/
def beginsIn (base : Nat) (chars : List Char) : Bool :=
  chars.head?.elim false fun char => digitValue char < base

/-- The base of the digits that a text begins with, and the text without what says so. -/
def splitBase (chars : List Char) : Nat × List Char :=
  match chars with
  | '0' :: mark :: rest =>
    if (mark = 'x' || mark = 'X') && beginsIn 16 rest then (16, rest)
    else if (mark = 'b' || mark = 'B') && beginsIn 2 rest then (2, rest)
    else (8, chars)
  | '0' :: _ => (8, chars)
  | _ => (10, chars)

def scanNumber (chars : List Char) : Scanned :=
  let trimmed := chars.dropWhile isSpace
  let (negative, unsigned) := match trimmed with
    | '-' :: rest => (true, rest)
    | '+' :: rest => (false, rest)
    | _ => (false, trimmed)
  let (base, digits) := splitBase unsigned
  let taken := digits.takeWhile fun char => digitValue char < base
  if taken.isEmpty then ⟨false, false, 0, chars⟩
  else
    ⟨true, negative, taken.foldl (fun value char => value * base + digitValue char) 0,
      digits.drop taken.length⟩

namespace Scanned

def value (scanned : Scanned) : Int :=
  if scanned.negative then -(scanned.magnitude : Int) else scanned.magnitude

/-- The value as a word of sixty-four bits with a sign, or the limit that it goes beyond. -/
def clamped (scanned : Scanned) : Int := max (-0x8000000000000000) (min 0x7fffffffffffffff scanned.value)

/-- The value as a word of sixty-four bits without a sign; a negative one wraps. -/
def wrapped (scanned : Scanned) : Nat :=
  if 0x10000000000000000 ≤ scanned.magnitude then 0xffffffffffffffff
  else if scanned.negative then (0x10000000000000000 - scanned.magnitude) % 0x10000000000000000
  else scanned.magnitude

end Scanned

end Supervision.Shell
