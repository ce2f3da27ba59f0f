/-!
# Spans of time

A span counts nanoseconds.  Its text names the largest unit among seconds, milliseconds,
microseconds and nanoseconds that is at least one, with an exact fraction that has no trailing
zeros, so different spans have different texts.
-/

namespace Supervision

/-- A length of time in nanoseconds. -/
structure Span where
  nanos : Nat
  deriving DecidableEq, Repr, Inhabited

namespace Span

def zero : Span := ⟨0⟩

def ofMillis (millis : Nat) : Span := ⟨millis * 1000000⟩

def ofSeconds (seconds : Nat) : Span := ⟨seconds * 1000000000⟩

/-- The digits of `part / 10 ^ places` after the point, down to the last that is not zero. -/
def fractionDigits : Nat → Nat → List Char
  | 0, _ => []
  | places + 1, part =>
    if part = 0 then []
    else
      Nat.digitChar (part / Nat.pow 10 places) :: fractionDigits places (part % Nat.pow 10 places)

/-- A number of units of `10 ^ places` nanoseconds each, with its fraction and the unit's name. -/
def decimal (nanos places : Nat) (unit : String) : String :=
  let fraction := fractionDigits places (nanos % Nat.pow 10 places)
  let point := if fraction.isEmpty then [] else '.' :: fraction
  toString (nanos / Nat.pow 10 places) ++ String.ofList point ++ unit

/-- The text of a span in its largest unit. -/
def text (span : Span) : String :=
  if 1000000000 ≤ span.nanos then decimal span.nanos 9 "s"
  else if 1000000 ≤ span.nanos then decimal span.nanos 6 "ms"
  else if 1000 ≤ span.nanos then decimal span.nanos 3 "µs"
  else decimal span.nanos 0 "ns"

end Span

end Supervision
