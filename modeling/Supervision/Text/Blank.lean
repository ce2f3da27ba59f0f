/-!
# Blank characters

The characters with the Unicode property of white space, and texts without them at either end.
-/

namespace Supervision.Text

/-- The code points of white space, in order. -/
def blankCodes : List Nat :=
  [0x9, 0xa, 0xb, 0xc, 0xd, 0x20, 0x85, 0xa0, 0x1680, 0x2000, 0x2001, 0x2002, 0x2003, 0x2004,
    0x2005, 0x2006, 0x2007, 0x2008, 0x2009, 0x200a, 0x2028, 0x2029, 0x202f, 0x205f, 0x3000]

/-- White space in the sense of Unicode. -/
def isBlank (char : Char) : Bool := blankCodes.contains char.toNat

/-- The characters between the first and the last that is not blank. -/
def trimChars (chars : List Char) : List Char :=
  ((chars.dropWhile isBlank).reverse.dropWhile isBlank).reverse

/-- A text of white space only, or of nothing. -/
def isAllBlank (text : String) : Bool := text.toList.all isBlank

end Supervision.Text
