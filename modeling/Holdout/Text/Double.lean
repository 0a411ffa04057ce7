import Holdout.Dyadic

/-!
# Doubles as text

A double written with the fewest decimal digits that read back as the same double, or
with a fixed number of decimal places.
-/

namespace Holdout
namespace Text

/-- `2 ^ up / 2 ^ down * 10 ^ places` for a place count of either sign, as a numerator and a
denominator. -/
def scaled (number : Dyadic) (places : Int) : Nat × Nat :=
  (number.numerator * Nat.pow 10 places.toNat, number.denominator * Nat.pow 10 (-places).toNat)

/-- The decimal `digits * 10 ^ (-places)` lies nearer to the number than to any other double, or
halfway to one when the number's mantissa is even. -/
def readsBackAs (number : Dyadic) (digits : Nat) (places : Int) : Bool :=
  let quarter : Dyadic → Nat × Nat := fun bound => scaled bound places
  let fine := number.exponent - 2
  let lowStep := if number.mantissa = Nat.pow 2 52 ∧ -1074 < number.exponent then 1 else 2
  let low := quarter ⟨4 * number.mantissa - lowStep, fine⟩
  let high := quarter ⟨4 * number.mantissa + 2, fine⟩
  if number.mantissa % 2 = 0 then
    low.1 ≤ digits * low.2 && digits * high.2 ≤ high.1
  else low.1 < digits * low.2 && digits * high.2 < high.1

/-- The number of decimal digits before the point, or minus the zeros after it, of a positive
number. -/
def magnitude (number : Dyadic) : Int :=
  let bits := (number.mantissa.log2 : Int) + number.exponent
  let guess := bits * 30103 / 100000
  let reaches (power : Int) : Bool :=
    let (numerator, denominator) := scaled number (-power)
    denominator ≤ numerator
  if reaches (guess + 1) then guess + 2 else if reaches guess then guess + 1 else guess

/-- The nearest decimal of so many digits, when it reads back. -/
def candidate? (number : Dyadic) (count : Nat) : Option (Nat × Int) :=
  let places := (count : Int) - magnitude number
  let (numerator, denominator) := scaled number places
  let below := numerator / denominator
  let near := roundedQuotient numerator denominator
  let far := if near = below then below + 1 else below
  if readsBackAs number near places then some (near, places)
  else if readsBackAs number far places then some (far, places)
  else none

/-- The digits of the shortest decimal that reads back, with the power of ten of the last one. -/
def shortest (number : Dyadic) : Nat × Int :=
  match (List.range 17).findSome? fun fewer => candidate? number (fewer + 1) with
  | some (digits, places) => (digits, -places)
  | none => (0, 0)

/-- A list of so many zeros. -/
def zeroDigits (count : Int) : List Char := List.replicate count.toNat '0'

/-- Digits with a power of ten: positional from five zeros after the point up to sixteen digits
before it, and with an exponent beyond. -/
def placed (digits : List Char) (power : Int) : List Char :=
  let point := (digits.length : Int) + power
  if 0 ≤ power ∧ point ≤ 16 then digits ++ zeroDigits power ++ ['.', '0']
  else if 0 < point ∧ point ≤ 16 then
    digits.take point.toNat ++ '.' :: digits.drop point.toNat
  else if -5 < point ∧ point ≤ 0 then '0' :: '.' :: zeroDigits (-point) ++ digits
  else
    let exponent := 'e' :: (toString (point - 1)).toList
    match digits with
    | first :: next :: rest => first :: '.' :: next :: rest ++ exponent
    | few => few ++ exponent

/-- The shortest text of a finite double that is not negative. -/
def shortestText (value : Float) : String :=
  if value == 0.0 then "0.0"
  else
    let (digits, power) := shortest (Dyadic.ofFloat value)
    let written := (toString digits).toList
    let kept := (written.reverse.dropWhile (· = '0')).reverse
    String.ofList (placed kept (power + (written.length - kept.length : Nat)))

/-- A finite double that is not negative, rounded to two decimal places; a half goes to the even
neighbour. -/
def twoPlaces (value : Float) : String :=
  let number := Dyadic.ofFloat value
  let hundredths := roundedQuotient (number.numerator * 100) number.denominator
  let rest := hundredths % 100
  toString (hundredths / 100) ++ "." ++ (if rest < 10 then "0" else "") ++ toString rest

end Text
end Holdout
