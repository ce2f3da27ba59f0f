import Supervision.Shell.Number
import Supervision.Text.Utf8

/-!
# Escapes

The escapes that printing commands know.  A backslash and what follows it stand for one byte, for
nothing and the end of the output, or, if they are not known, for themselves.
-/

namespace Supervision.Host

/-- Digits of a base at the front of a text, at most so many, and their value. -/
def leadingDigits (base : Nat) : Nat → Nat → List Char → Nat × List Char
  | 0, value, rest => (value, rest)
  | _ + 1, value, [] => (value, [])
  | count + 1, value, char :: rest =>
    let digit := Shell.digitValue char
    if digit < base then leadingDigits base count (value * base + digit) rest
    else (value, char :: rest)

/-- Does a text begin with a hexadecimal digit? -/
def startsWithHex (text : List Char) : Bool :=
  text.head?.elim false fun char => decide (Shell.digitValue char < 16)

/-- The characters that a letter after a backslash stands for. -/
def simpleEscape? : Char → Option UInt8
  | 'a' => some 0x07
  | 'b' => some 0x08
  | 'f' => some 0x0c
  | 'n' => some 0x0a
  | 'r' => some 0x0d
  | 't' => some 0x09
  | 'v' => some 0x0b
  | '\\' => some 0x5c
  | _ => none

/-- Who reads escapes: the shell itself, or a program that echoes or prints and knows more of
them. -/
inductive Dialect
  | shell
  | echoing
  | printing
  deriving DecidableEq, Repr

/-- What a backslash makes of the text after it: bytes, and what is left. -/
def escape (dialect : Dialect) (text : List Char) : Bytes × List Char :=
  match text with
  | [] => ([0x5c], [])
  | char :: rest =>
    match simpleEscape? char with
    | some byte => ([byte], rest)
    | none =>
      if char.isDigit && char != '8' && char != '9' then
        let (value, rest) := leadingDigits 8 3 0 text
        ([value.toUInt8], rest)
      else if char = 'e' then ([0x1b], rest)
      else if dialect = .printing && char = '"' then ([0x22], rest)
      else if dialect != .shell && char = 'x' && startsWithHex rest then
        let (value, rest) := leadingDigits 16 2 0 rest
        ([value.toUInt8], rest)
      else if dialect = .printing && (char = 'u' || char = 'U') then
        let (value, rest) := leadingDigits 16 (if char = 'u' then 4 else 8) 0 rest
        (Text.Utf8.encode (String.ofList [Char.ofNat value]), rest)
      else ([0x5c], text)

/-- The bytes of a text with escapes, and whether it asked to end the output.  `fuel` bounds the
length of the text. -/
def unescape (dialect : Dialect) : Nat → List Char → Bytes × Bool
  | 0, _ => ([], false)
  | _ + 1, [] => ([], false)
  | _ + 1, '\\' :: 'c' :: _ => ([], true)
  | fuel + 1, '\\' :: '0' :: rest =>
    let (value, rest) := leadingDigits 8 3 0 rest
    let (more, ended) := unescape dialect fuel rest
    (value.toUInt8 :: more, ended)
  | fuel + 1, '\\' :: rest =>
    let (bytes, rest) := escape dialect rest
    let (more, ended) := unescape dialect fuel rest
    (bytes ++ more, ended)
  | fuel + 1, char :: rest =>
    let (more, ended) := unescape dialect fuel rest
    (Text.Utf8.encode (String.ofList [char]) ++ more, ended)

def unescapeText (dialect : Dialect) (text : String) : Bytes × Bool :=
  unescape dialect (text.length + 1) text.toList

/-- The output of words written one after another, with a line end unless the first word says
otherwise. -/
def echo (words : List String) : Bytes :=
  let (words, newline) := match words with
    | "-n" :: rest => (rest, false)
    | _ => (words, true)
  let (bytes, ended) := unescapeText .shell (" ".intercalate words)
  if newline && !ended then bytes ++ [0x0a] else bytes

end Supervision.Host
