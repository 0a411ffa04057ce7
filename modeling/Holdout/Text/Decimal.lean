/-!
# Decimal integers

Integers written in ASCII digits, with at most one sign before them.
-/

namespace Holdout
namespace Text

/-- The value of a decimal digit after the digits that gave `value`. -/
def appendDigit (value : Nat) (digit : Char) : Nat := 10 * value + (digit.toNat - '0'.toNat)

/-- The value of one or more decimal digits. -/
def natural? (digits : List Char) : Option Nat :=
  if digits ≠ [] ∧ digits.all Char.isDigit then some (digits.foldl appendDigit 0) else none

/-- The value of one or more decimal digits after at most one sign. -/
def integer? : List Char → Option Int
  | '+' :: digits => (natural? digits).map Int.ofNat
  | '-' :: digits => (natural? digits).map fun value => -Int.ofNat value
  | digits => (natural? digits).map Int.ofNat

/-- The value of digits after at most one plus sign, below `limit`. -/
def naturalBelow? (limit : Nat) (text : List Char) : Option Nat :=
  let value := match text with
    | '+' :: digits => natural? digits
    | digits => natural? digits
  value.filter (· < limit)

end Text
end Holdout
