import Supervision.Json.Cursor

/-!
# Strings of JSON documents

Reading and writing of strings.  A written string escapes the quote, the backslash and the controls
below the space; a read string may escape anything, with pairs of escapes for the characters
outside the first plane, and must be well-formed UTF-8.
-/

namespace Supervision.Json

/-- What an escape stands for and how many bytes it has after the backslash, or what is wrong with
it after so many bytes. -/
inductive Escape
  | char (code : Nat) (length : Nat)
  | fault (cause : Cause) (length : Nat)
  deriving DecidableEq, Repr

def hexValue? (byte : UInt8) : Option Nat :=
  if 0x30 ≤ byte && byte ≤ 0x39 then some (byte.toNat - 0x30)
  else if 0x41 ≤ byte && byte ≤ 0x46 then some (byte.toNat - 0x37)
  else if 0x61 ≤ byte && byte ≤ 0x66 then some (byte.toNat - 0x57)
  else none

/-- Four digits at the front, `offset` bytes into the escape. -/
def hexQuad (offset : Nat) (bytes : Bytes) : Except (Cause × Nat) Nat :=
  match bytes with
  | first :: second :: third :: fourth :: _ =>
    match hexValue? first, hexValue? second, hexValue? third, hexValue? fourth with
    | some a, some b, some c, some d => .ok (((a * 16 + b) * 16 + c) * 16 + d)
    | _, _, _, _ => .error (.invalidEscape, offset + 4)
  | short => .error (.endInString, offset + short.length)

/-- The character of a one-letter escape. -/
def shortEscape? (byte : UInt8) : Option Nat :=
  if byte = 0x22 then some 0x22
  else if byte = 0x5c then some 0x5c
  else if byte = 0x2f then some 0x2f
  else if byte = 0x62 then some 0x08
  else if byte = 0x66 then some 0x0c
  else if byte = 0x6e then some 0x0a
  else if byte = 0x72 then some 0x0d
  else if byte = 0x74 then some 0x09
  else none

def isHighSurrogate (code : Nat) : Bool := 0xd800 ≤ code && code ≤ 0xdbff

def isLowSurrogate (code : Nat) : Bool := 0xdc00 ≤ code && code ≤ 0xdfff

/-- The second half of a pair of escapes. -/
def lowHalf (high : Nat) (bytes : Bytes) : Escape :=
  match bytes with
  | [] => .fault .endInString 5
  | first :: rest =>
    if first ≠ 0x5c then .fault .endOfHexEscape 6
    else match rest with
    | [] => .fault .endInString 6
    | second :: rest =>
      if second ≠ 0x75 then .fault .endOfHexEscape 7
      else match hexQuad 7 rest with
      | .error (cause, length) => .fault cause length
      | .ok low =>
        if isLowSurrogate low then
          .char ((high - 0xd800) * 0x400 + (low - 0xdc00) + 0x10000) 11
        else .fault .loneSurrogate 11

/-- The escape that the bytes after a backslash spell. -/
def readEscape (bytes : Bytes) : Escape :=
  match bytes with
  | [] => .fault .endInString 0
  | byte :: rest =>
    match shortEscape? byte with
    | some code => .char code 1
    | none =>
      if byte ≠ 0x75 then .fault .invalidEscape 1
      else match hexQuad 1 rest with
      | .error (cause, length) => .fault cause length
      | .ok code =>
        if isLowSurrogate code then .fault .loneSurrogate 5
        else if isHighSurrogate code then lowHalf code (rest.drop 4)
        else .char code 5

/-- As `readEscape`, for a string that is not kept: halves of pairs are not looked at. -/
def skimEscape (bytes : Bytes) : Escape :=
  match bytes with
  | [] => .fault .endInString 0
  | byte :: rest =>
    match shortEscape? byte with
    | some code => .char code 1
    | none =>
      if byte ≠ 0x75 then .fault .invalidEscape 1
      else match hexQuad 1 rest with
      | .error (cause, length) => .fault cause length
      | .ok code => .char code 5

/-- The bytes of a string after its opening quote, newest first, up to and with the closing one. -/
def stringInto (taken : Bytes) (cursor : Cursor) : EStateM.Result Fault Cursor Bytes :=
  match _h : cursor.rest with
  | [] => Reader.failHere .endInString cursor
  | byte :: rest =>
    if byte = 0x22 then .ok taken.reverse cursor.advance
    else if byte = 0x5c then
      match readEscape rest with
      | .fault cause length => Reader.failHere cause (cursor.advanceBy (length + 1))
      | .char code length =>
        stringInto ((String.utf8EncodeChar (Char.ofNat code)).reverse ++ taken)
          (cursor.advanceBy (length + 1))
    else if byte < 0x20 then Reader.failHere .controlCharacter cursor.advance
    else stringInto (byte :: taken) cursor.advance
termination_by cursor.rest.length
decreasing_by
  · rw [Cursor.length_rest_advanceBy, _h, List.length_cons]; omega
  · rw [Cursor.length_rest_advance, _h, List.length_cons]; omega

def skimString (cursor : Cursor) : EStateM.Result Fault Cursor Unit :=
  match _h : cursor.rest with
  | [] => Reader.failHere .endInString cursor
  | byte :: rest =>
    if byte = 0x22 then .ok () cursor.advance
    else if byte = 0x5c then
      match skimEscape rest with
      | .fault cause length => Reader.failHere cause (cursor.advanceBy (length + 1))
      | .char _ length => skimString (cursor.advanceBy (length + 1))
    else if byte < 0x20 then Reader.failHere .controlCharacter cursor
    else skimString cursor.advance
termination_by cursor.rest.length
decreasing_by
  · rw [Cursor.length_rest_advanceBy, _h, List.length_cons]; omega
  · rw [Cursor.length_rest_advance, _h, List.length_cons]; omega

/-- The text of a string after its opening quote.  Bytes that spell no text are noticed at the end,
and the fault is placed as many bytes before it as the content has from the first of them on. -/
def stringBody : Reader String := fun cursor =>
  match stringInto [] cursor with
  | .error fault cursor => .error fault cursor
  | .ok content after =>
    match Text.Utf8.decode? content with
    | some text => .ok text after
    | none =>
      let taken := cursor.rest.length - after.rest.length
      let bad := content.length - Text.Utf8.wellFormedLength 0 content
      Reader.failHere .invalidCodePoint (cursor.advanceBy (taken - bad))

def hexByte (digit : Nat) : UInt8 :=
  if digit < 10 then (0x30 + digit).toUInt8 else (0x57 + digit).toUInt8

def escapeByte (byte : UInt8) : Bytes :=
  if byte = 0x22 then [0x5c, 0x22]
  else if byte = 0x5c then [0x5c, 0x5c]
  else if byte = 0x08 then [0x5c, 0x62]
  else if byte = 0x0c then [0x5c, 0x66]
  else if byte = 0x0a then [0x5c, 0x6e]
  else if byte = 0x0d then [0x5c, 0x72]
  else if byte = 0x09 then [0x5c, 0x74]
  else if byte < 0x20 then
    [0x5c, 0x75, 0x30, 0x30, hexByte (byte.toNat / 16), hexByte (byte.toNat % 16)]
  else [byte]

/-- A text as a string of a document. -/
def writeString (text : String) : Bytes :=
  0x22 :: (Text.Utf8.encode text).flatMap escapeByte ++ [0x22]

end Supervision.Json
