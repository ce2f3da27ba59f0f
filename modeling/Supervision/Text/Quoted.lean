import Supervision.Text.Printable

/-!
# Quoted text

A text as messages show it: between double quotes, with escapes for the quote, the backslash, the
line controls, and every character that has no form of its own or is drawn on top of another.
-/

namespace Supervision.Text

def hexDigits (number : Nat) : List Char := Nat.toDigits 16 number

def escapeChar (char : Char) : List Char :=
  if char.toNat == 0 then ['\\', '0']
  else if char == '\t' then ['\\', 't']
  else if char == '\r' then ['\\', 'r']
  else if char == '\n' then ['\\', 'n']
  else if char == '"' || char == '\\' then ['\\', char]
  else if isExtending char || !isPrintable char then
    ['\\', 'u', Char.ofNat 0x7b] ++ hexDigits char.toNat ++ [Char.ofNat 0x7d]
  else [char]

/-- A text between double quotes. -/
def quoted (text : String) : String :=
  String.ofList ('"' :: text.toList.flatMap escapeChar ++ ['"'])

/-- One character of a quoted path, where the apostrophe is escaped as well. -/
def escapePathChar (char : Char) : List Char :=
  if char.toNat == 0x27 then ['\\', char] else escapeChar char

def quotedPath (path : String) : String :=
  String.ofList ('"' :: path.toList.flatMap escapePathChar ++ ['"'])

end Supervision.Text
