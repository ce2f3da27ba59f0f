import Supervision.Decimal.Shortest
import Supervision.Json.Cursor

/-!
# Numbers of JSON documents

A number without fraction and exponent that fits 64 bits is an integer, apart from `-0`; every
other is a double.  A double comes of the digits that fit 64 bits, rounded once, times or divided
by a power of ten, rounded again.
-/

namespace Supervision.Json

inductive Number
  | unsigned (value : Nat)
  | negative (value : Int)
  | floating (value : Float)

def Number.found : Number → Found
  | .unsigned value => .integer value
  | .negative value => .integer value
  | .floating value => .floating (Decimal.floatText value)

def isDigit (byte : UInt8) : Bool := 0x30 ≤ byte && byte ≤ 0x39

def digitValue (byte : UInt8) : Nat := byte.toNat - 0x30

def maxWord : Nat := 0xffffffffffffffff

/-- Adds digits to a number as long as it fits 64 bits; gives how many were added. -/
def addDigits (value : Nat) (added : Nat) : Bytes → Nat × Nat
  | [] => (value, added)
  | digit :: more =>
    let next := value * 10 + digitValue digit
    if maxWord < next then (value, added) else addDigits next (added + 1) more

namespace Reader

/-- Takes the digits that come next. -/
def digits : Reader Bytes := fun cursor =>
  let run := cursor.rest.takeWhile isDigit
  .ok run { cursor with rest := cursor.rest.dropWhile isDigit, column := cursor.column + run.length }

/-- Scales a double by a power of ten; fails where it leaves the range of doubles. -/
def scaled (value : Float) (exponent : Int) : Nat → Reader Float
  | 0 => pure value
  | steps + 1 =>
    if exponent.natAbs ≤ 308 then
      let power := Float.ofScientific 1 false exponent.natAbs
      if 0 ≤ exponent then
        if (value * power).isInf then failHere .numberOutOfRange else pure (value * power)
      else pure (value / power)
    else if value == 0 then pure value
    else if 0 ≤ exponent then failHere .numberOutOfRange
    else scaled (value / Float.ofScientific 1 false 308) (exponent + 308) steps

/-- A double of a sign, digits and an exponent. -/
def floating (positive : Bool) (significand : Nat) (exponent : Int) : Reader Number := do
  let value ← scaled significand.toUInt64.toFloat exponent 4
  pure (.floating (if positive then value else -value))

/-- The exponent digits so far; none once they exceed 31 bits, with what follows the digit that did
so still there. -/
def exponentDigits (value : Nat) (cursor : Cursor) : Option Nat × Cursor :=
  match h : cursor.rest with
  | [] => (some value, cursor)
  | byte :: _ =>
    if isDigit byte then
      let next := value * 10 + digitValue byte
      if 0x7fffffff < next then (none, cursor.advance) else exponentDigits next cursor.advance
    else (some value, cursor)
termination_by cursor.rest.length
decreasing_by
  rw [Cursor.length_rest_advance, h, List.length_cons]
  omega

/-- The rest of a number from its exponent mark on. -/
def exponentPart (positive : Bool) (significand : Nat) (start : Int) : Reader Number := do
  skip
  let upward ← do
    match ← peek with
    | some 0x2b => skip; pure true
    | some 0x2d => skip; pure false
    | _ => pure true
  match ← take with
  | none => failHere .endInValue
  | some first =>
    if !isDigit first then failHere .invalidNumber
    else
      match ← (fun cursor => let (value, cursor) := exponentDigits (digitValue first) cursor
                .ok value cursor : Reader (Option Nat)) with
      | some value =>
        floating positive significand (if upward then start + value else start - value)
      | none =>
        if significand ≠ 0 && upward then failHere .numberOutOfRange
        else
          let _ ← digits
          pure (.floating (if positive then 0 else -0))

/-- The rest of a number from its point on. -/
def fractionPart (positive : Bool) (significand : Nat) (start : Int) : Reader Number := do
  skip
  let run ← digits
  if run.isEmpty then
    match ← peek with
    | none => failNext .endInValue
    | some _ => failNext .invalidNumber
  else
    let (value, added) := addDigits significand 0 run
    let exponent := start - added
    match ← peek with
    | some 0x65 | some 0x45 => exponentPart positive value exponent
    | _ => floating positive value exponent

/-- The rest of a number after its leading digits. -/
def afterInteger (positive : Bool) (significand : Nat) (dropped : Nat) : Reader Number := do
  match ← peek with
  | some 0x2e => fractionPart positive significand dropped
  | some 0x65 | some 0x45 => exponentPart positive significand dropped
  | _ =>
    if dropped ≠ 0 then floating positive significand dropped
    else if positive then pure (.unsigned significand)
    else if significand = 0 || 0x8000000000000000 < significand then
      pure (.floating (-significand.toUInt64.toFloat))
    else pure (.negative (-(significand : Int)))

/-- A number after its sign. -/
def number (positive : Bool) : Reader Number := do
  match ← peek with
  | none => failHere .endInValue
  | some 0x30 =>
    skip
    match ← peek with
    | some byte => if isDigit byte then failNext .invalidNumber else afterInteger positive 0 0
    | none => afterInteger positive 0 0
  | some byte =>
    if isDigit byte then
      let run ← digits
      let (value, added) := addDigits 0 0 run
      afterInteger positive value (run.length - added)
    else
      skip
      failHere .invalidNumber

/-- Passes over a number after its sign. -/
def skimNumber : Reader Unit := do
  match ← take with
  | some 0x30 =>
    match ← peek with
    | some byte => if isDigit byte then failNext .invalidNumber else pure ()
    | none => pure ()
  | some byte => if isDigit byte then let _ ← digits else failHere .invalidNumber
  | none => failHere .invalidNumber
  if (← peek) == some 0x2e then
    skip
    if (← digits).isEmpty then failNext .invalidNumber
  match ← peek with
  | some 0x65 | some 0x45 =>
    skip
    match ← peek with
    | some 0x2b | some 0x2d => skip
    | _ => pure ()
    match ← take with
    | some byte => if isDigit byte then let _ ← digits else failHere .invalidNumber
    | none => failHere .invalidNumber
  | _ => pure ()

end Reader

end Supervision.Json
