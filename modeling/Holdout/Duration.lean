import Holdout.Dyadic

/-!
# Spans of time

Seconds and nanoseconds. A number of seconds given as a double becomes the nearest
span of whole nanoseconds.
-/

namespace Holdout

/-- A span of time. -/
structure Duration where
  seconds : Nat
  nanos : Nat
  deriving DecidableEq, Repr

/-- A span too long for its seconds to be counted in 64 bits. -/
inductive DurationError
  | tooLong
  deriving DecidableEq, Repr

namespace Duration

/-- Nanoseconds in a second. -/
def nanosPerSecond : Nat := 1000000000

/-- The span of so many nanoseconds. -/
def ofNanos (count : Nat) : Duration := ⟨count / nanosPerSecond, count % nanosPerSecond⟩

/-- The span of so many milliseconds. -/
def ofMillis (count : Nat) : Duration := ofNanos (count * 1000000)

/-- The span of so many seconds. -/
def ofSeconds (count : Nat) : Duration := ⟨count, 0⟩

/-- Whole milliseconds of the span. -/
def millis (span : Duration) : Nat := span.seconds * 1000 + span.nanos / 1000000

/-- The span as a number of seconds. -/
def toSeconds (span : Duration) : Float :=
  Float.ofNat span.seconds + Float.ofNat span.nanos / 1e9

/-- The span nearest to a number of seconds that is not negative. -/
def ofFloat (seconds : Float) : Except DurationError Duration :=
  if seconds < 18446744073709551616.0 then
    let number := Dyadic.ofFloat seconds
    .ok (ofNanos
      (roundedQuotient (number.numerator * nanosPerSecond) number.denominator))
  else .error .tooLong

/-- A count of units with the rest of a unit, `rest` out of `scale`, as a decimal fraction without
zeros at its end. -/
def decimalText (units rest scale : Nat) : String :=
  if rest = 0 then toString units
  else
    let digits := (toString (scale + rest)).toList.drop 1
    let kept := (digits.reverse.dropWhile (· = '0')).reverse
    toString units ++ "." ++ String.ofList kept

/-- The span in the largest unit of which it holds at least one. -/
def shown (span : Duration) : String :=
  if 0 < span.seconds then decimalText span.seconds span.nanos nanosPerSecond ++ "s"
  else if 1000000 ≤ span.nanos then
    decimalText (span.nanos / 1000000) (span.nanos % 1000000) 1000000 ++ "ms"
  else if 1000 ≤ span.nanos then
    decimalText (span.nanos / 1000) (span.nanos % 1000) 1000 ++ "µs"
  else decimalText span.nanos 0 1 ++ "ns"

end Duration

end Holdout
