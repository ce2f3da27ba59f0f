/-!
# Shortest decimal text of binary fractions

A double stands for every real number that rounds to it.  Among the decimals in that interval the
one with the fewest digits is written, and of several the one nearest to the double.  A layout
record says where the point stands and how an exponent is written.
-/

namespace Supervision.Decimal

/-- A positive number as digits `d` and a power `e`: it is `d * 10 ^ e`. -/
structure Digits where
  digits : Nat
  power : Int
  deriving DecidableEq, Repr

/-- The rounding interval of a double, scaled to integers: everything is over `denominator`. -/
structure Interval where
  low : Nat
  value : Nat
  high : Nat
  denominator : Nat
  closed : Bool
  deriving DecidableEq, Repr

/-- The interval of the double with the given significand and binary exponent.  Below a power of
two the neighbour is nearer. -/
def Interval.ofParts (significand : Nat) (exponent : Int) (narrow : Bool) : Interval :=
  let scaleUp := Nat.pow 2 (exponent - 2).toNat
  let scaleDown := Nat.pow 2 (2 - exponent).toNat
  { low := (4 * significand - (if narrow then 1 else 2)) * scaleUp
    value := 4 * significand * scaleUp
    high := (4 * significand + 2) * scaleUp
    denominator := scaleDown
    closed := significand % 2 == 0 }

/-- Whether the decimal `digits * 10 ^ power` rounds to the double. -/
def Interval.holds (interval : Interval) (digits : Nat) (power : Int) : Bool :=
  let left := digits * Nat.pow 10 power.toNat * interval.denominator
  let unit := Nat.pow 10 (-power).toNat
  if interval.closed then
    decide (interval.low * unit ≤ left) && decide (left ≤ interval.high * unit)
  else decide (interval.low * unit < left) && decide (left < interval.high * unit)

/-- How far the decimal is from the double, scaled. -/
def Interval.distance (interval : Interval) (digits : Nat) (power : Int) : Nat :=
  let left := digits * Nat.pow 10 power.toNat * interval.denominator
  let right := interval.value * Nat.pow 10 (-power).toNat
  (left - right) + (right - left)

/-- The nearest decimal of the interval that is a multiple of `10 ^ power`, if there is one. -/
def Interval.atPower (interval : Interval) (power : Int) : Option Digits :=
  let below := interval.value * Nat.pow 10 (-power).toNat
    / (interval.denominator * Nat.pow 10 power.toNat)
  let above := below + 1
  match interval.holds below power && below != 0, interval.holds above power with
  | true, true =>
    let under := interval.distance below power
    let beyond := interval.distance above power
    if under < beyond || (under == beyond && below % 2 == 0) then some ⟨below, power⟩
    else some ⟨above, power⟩
  | true, false => some ⟨below, power⟩
  | false, true => some ⟨above, power⟩
  | false, false => none

/-- The first decimal found on ever finer grids. -/
def Interval.search (interval : Interval) (power : Int) : Nat → Digits
  | 0 => ⟨interval.value / interval.denominator, 0⟩
  | steps + 1 =>
    match interval.atPower power with
    | some found => found
    | none => interval.search (power - 1) steps

/-- A decimal without zeros at its end. -/
def Digits.strip (number : Digits) : Nat → Digits
  | 0 => number
  | steps + 1 =>
    if number.digits % 10 = 0 && number.digits != 0 then
      Digits.strip ⟨number.digits / 10, number.power + 1⟩ steps
    else number

/-- The shortest decimal of a finite, positive double given by its bits. -/
def shortest (bits : Nat) : Digits :=
  let field := bits / 0x10000000000000 % 0x800
  let fraction := bits % 0x10000000000000
  let significand := if field = 0 then fraction else 0x10000000000000 + fraction
  let exponent : Int := (if field = 0 then 1 else field : Nat) - 1075
  let interval := Interval.ofParts significand exponent (fraction == 0 && 1 < field)
  (interval.search 310 660).strip 20

/-- Where positional notation ends: the largest and the smallest place of the point, counted from
the first digit, and the least number of digits of an exponent. -/
structure Layout where
  maxPoint : Int
  minPoint : Int
  exponentDigits : Nat

/-- From a hundred-thousandth up to ten thousand million million a number has no exponent and
always a point; elsewhere the exponent has its sign and as few digits as it takes. -/
def documentLayout : Layout := ⟨16, -5, 1⟩

def exponentChars (exponent : Int) (least : Nat) : List Char :=
  let digits := (toString exponent.natAbs).toList
  'e' :: (if exponent < 0 then '-' else '+')
    :: (List.replicate (least - digits.length) '0' ++ digits)

def Digits.text (number : Digits) (layout : Layout) : String :=
  let digits := (toString number.digits).toList
  let count : Int := digits.length
  let point := count + number.power
  let chars :=
    if 0 ≤ number.power && point ≤ layout.maxPoint then
      digits ++ List.replicate number.power.toNat '0' ++ ['.', '0']
    else if 0 < point && point ≤ layout.maxPoint then
      digits.take point.toNat ++ '.' :: digits.drop point.toNat
    else if layout.minPoint < point && point ≤ 0 then
      '0' :: '.' :: List.replicate (-point).toNat '0' ++ digits
    else
      let exponent := exponentChars (point - 1) layout.exponentDigits
      match digits with
      | [only] => only :: exponent
      | first :: rest => first :: '.' :: rest ++ exponent
      | [] => exponent
  String.ofList chars

/-- The text of a finite double. -/
def floatText (value : Float) : String :=
  let bits := value.toBits.toNat
  let sign := if 0x8000000000000000 ≤ bits then "-" else ""
  let magnitude := bits % 0x8000000000000000
  if magnitude = 0 then sign ++ "0.0" else sign ++ (shortest magnitude).text documentLayout

end Supervision.Decimal
