/-!
# Decimals of a given length

A finite double is a whole number times a power of two, so its decimals can be found exactly.  It is
rounded to so many places, or to so many digits, and a tie goes to the even neighbour.
-/

namespace Supervision.Decimal

/-- The significand and the binary exponent of a finite, positive double given by its bits. -/
def binaryParts (bits : Nat) : Nat × Int :=
  let field := bits / 0x10000000000000 % 0x800
  let fraction := bits % 0x10000000000000
  (if field = 0 then fraction else 0x10000000000000 + fraction,
  (if field = 0 then 1 else field : Nat) - 1075)

/-- The whole number nearest to a quotient; a tie goes to the even one. -/
def roundQuotient (numerator denominator : Nat) : Nat :=
  let below := numerator / denominator
  let twice := 2 * (numerator % denominator)
  if denominator < twice || (twice == denominator && below % 2 == 1) then below + 1 else below

/-- A double times a power of ten, rounded to a whole number. -/
def roundScaled (bits : Nat) (power : Int) : Nat :=
  let (significand, exponent) := binaryParts bits
  roundQuotient (significand * Nat.pow 2 exponent.toNat * Nat.pow 10 power.toNat)
    (Nat.pow 2 (-exponent).toNat * Nat.pow 10 (-power).toNat)

/-- Does a double reach a power of ten? -/
def reaches (bits : Nat) (power : Int) : Bool :=
  let (significand, exponent) := binaryParts bits
  decide (Nat.pow 2 (-exponent).toNat * Nat.pow 10 power.toNat
    ≤ significand * Nat.pow 2 exponent.toNat * Nat.pow 10 (-power).toNat)

/-- The largest power of ten that a double reaches, from a power down; `steps` bounds the search. -/
def decimalExponent (bits : Nat) (power : Int) : Nat → Int
  | 0 => power
  | steps + 1 => if reaches bits power then power else decimalExponent bits (power - 1) steps

/-- A double rounded to so many digits, and its decimal exponent after that. -/
def roundDigits (bits digits : Nat) : Nat × Int :=
  if bits = 0 then (0, 0)
  else
    let exponent := decimalExponent bits 309 640
    let rounded := roundScaled bits (digits - 1 - exponent)
    if Nat.pow 10 digits ≤ rounded then (rounded / 10, exponent + 1) else (rounded, exponent)

/-- Digits with a point before the last of them; `keepsPoint` keeps one that nothing follows. -/
def pointed (digits places : Nat) (keepsPoint : Bool) : List Char :=
  let chars := (toString digits).toList
  let chars := List.replicate (places + 1 - chars.length) '0' ++ chars
  let whole := chars.take (chars.length - places)
  if places = 0 then if keepsPoint then whole ++ ['.'] else whole
  else whole ++ '.' :: chars.drop whole.length

/-- A double with so many places. -/
def fixedChars (bits places : Nat) (keepsPoint : Bool) : List Char :=
  pointed (roundScaled bits places) places keepsPoint

/-- An exponent of at least two digits with its mark and sign. -/
def markedExponent (exponent : Int) : List Char :=
  let digits := (toString exponent.natAbs).toList
  'e' :: (if exponent < 0 then '-' else '+')
    :: (List.replicate (2 - digits.length) '0' ++ digits)

/-- A double with one digit before the point, so many places and an exponent. -/
def scientificChars (bits places : Nat) (keepsPoint : Bool) : List Char :=
  let (digits, exponent) := roundDigits bits (places + 1)
  pointed digits places keepsPoint ++ markedExponent exponent

/-- Digits without the zeros after a point, and without the point if nothing follows it. -/
def withoutZeros (chars : List Char) : List Char :=
  if !chars.contains '.' then chars
  else
    let kept := chars.reverse.dropWhile (· == '0')
    (if kept.head? == some '.' then kept.tail else kept).reverse

/-- A double with so many digits, in whichever of the two notations is shorter; `keepsZeros` keeps
zeros after the point. -/
def generalChars (bits digits : Nat) (keepsZeros : Bool) : List Char :=
  let digits := max 1 digits
  let (rounded, exponent) := roundDigits bits digits
  if -4 ≤ exponent && exponent < digits then
    let places := (digits - 1 - exponent).toNat
    let chars := fixedChars bits places keepsZeros
    if keepsZeros then chars else withoutZeros chars
  else
    let chars := pointed rounded (digits - 1) keepsZeros
    (if keepsZeros then chars else withoutZeros chars) ++ markedExponent exponent

end Supervision.Decimal
