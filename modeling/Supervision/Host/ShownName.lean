import Supervision.Text.Utf8

/-!
# Names as utilities show them

A name that a shell would not take as it is stands between quotes, so that it can be given back to
one.  Bytes that cannot be seen are written as escapes in quotes of their own, before which stands a
dollar.
-/

namespace Supervision.Host

/-- The characters that a shell takes as they are, wherever they stand. -/
def isPlainByte (byte : UInt8) : Bool :=
  let char := Char.ofNat byte.toNat
  char.isAlphanum || "%+,-./@]_:".toList.contains char

def needsQuotes (bytes : List UInt8) : Bool :=
  let isFirst (byte : UInt8) : Bool := byte == 0x23 || byte == 0x7e
  let isBrace (byte : UInt8) : Bool := byte == 0x7b || byte == 0x7d
  match bytes with
  | [] => true
  | [byte] => !isPlainByte byte
  | first :: rest =>
    !(isPlainByte first || isBrace first)
      || !rest.all fun byte => isPlainByte byte || isFirst byte || isBrace byte

def isSeen (byte : UInt8) : Bool := 0x20 ≤ byte && byte < 0x7f

/-- A byte that cannot be seen as an escape. -/
def escapeOf (byte : UInt8) : String :=
  let letters : List (UInt8 × Char) :=
    [(0x07, 'a'), (0x08, 'b'), (0x0c, 'f'), (0x0a, 'n'), (0x0d, 'r'), (0x09, 't'), (0x0b, 'v')]
  match letters.lookup byte with
  | some letter => String.ofList ['\\', letter]
  | none =>
    let digits := (Nat.toDigits 8 byte.toNat)
    String.ofList ('\\' :: List.replicate (3 - digits.length) '0' ++ digits)

/-- A quote, and how it is written between quotes. -/
def quoteMark : Char := Char.ofNat 0x27

def hiddenQuote : String := String.ofList [quoteMark, '\\', quoteMark, quoteMark]

/-- The bytes of a name between quotes; `escaping` says that the quotes are those of escapes. -/
def betweenQuotes (escaping : Bool) : List UInt8 → String
  | [] => String.ofList [quoteMark]
  | byte :: rest =>
    let quote := String.ofList [quoteMark]
    if isSeen byte then
      (if escaping then quote ++ quote else "")
        ++ (if byte = 0x27 then hiddenQuote else String.ofList [Char.ofNat byte.toNat])
        ++ betweenQuotes false rest
    else
      (if escaping then "" else quote ++ "$" ++ quote) ++ escapeOf byte ++ betweenQuotes true rest

/-- A name between quotes, as complaints show it.  One that holds a single quote and nothing else
that has a meaning between double quotes stands between those. -/
def shown (name : String) : String :=
  let bytes := Text.Utf8.encode name
  let isMild (byte : UInt8) : Bool :=
    isPlainByte byte || byte = 0x20 || byte = 0x27 || byte = 0x23 || byte = 0x7e || byte = 0x7b
      || byte = 0x7d
  if bytes.contains 0x27 && bytes.all isMild then "\"" ++ name ++ "\""
  else String.ofList [quoteMark] ++ betweenQuotes false bytes

/-- A text between quotes, with escapes for what cannot be seen or would end it. -/
def escaped (text : String) : String :=
  let quote := String.ofList [quoteMark]
  let written (byte : UInt8) : String :=
    if byte = 0x27 || byte = 0x5c then String.ofList ['\\', Char.ofNat byte.toNat]
    else if isSeen byte then String.ofList [Char.ofNat byte.toNat]
    else escapeOf byte
  quote ++ String.join ((Text.Utf8.encode text).map written) ++ quote

/-- A name between quotes if it needs them. -/
def shownIfNeeded (name : String) : String :=
  if needsQuotes (Text.Utf8.encode name) then shown name else name

/-- A path in a complaint, where a colon ends it. -/
def shownInComplaint (path : String) : String :=
  if path.toList.contains ':' then shown path else shownIfNeeded path

end Supervision.Host
