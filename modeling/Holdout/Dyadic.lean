/-!
# Doubles as exact numbers

A finite double that is not negative is a natural number times a power of two. Here
it is taken apart, and quotients of natural numbers are rounded.
-/

namespace Holdout

/-- The number `mantissa * 2 ^ exponent`. -/
structure Dyadic where
  mantissa : Nat
  exponent : Int
  deriving DecidableEq, Repr

namespace Dyadic

/-- The magnitude of a finite double. -/
def ofFloat (value : Float) : Dyadic :=
  let bits : Nat := value.toBits.toNat
  let fraction : Nat := bits % Nat.pow 2 52
  let biased : Nat := bits / Nat.pow 2 52 % Nat.pow 2 11
  if biased = 0 then ⟨fraction, -1074⟩ else ⟨Nat.pow 2 52 + fraction, (biased : Int) - 1075⟩

/-- The numerator of the number as a fraction whose denominator is a power of two. -/
def numerator (number : Dyadic) : Nat := number.mantissa * Nat.pow 2 number.exponent.toNat

/-- The power of two that divides the numerator. -/
def denominator (number : Dyadic) : Nat := Nat.pow 2 (-number.exponent).toNat

end Dyadic

/-- The natural number nearest to a quotient; of two that are equally near, the even one. -/
def roundedQuotient (numerator denominator : Nat) : Nat :=
  let whole := numerator / denominator
  let twice := 2 * (numerator % denominator)
  if twice < denominator ∨ (twice = denominator ∧ whole % 2 = 0) then whole else whole + 1

end Holdout
