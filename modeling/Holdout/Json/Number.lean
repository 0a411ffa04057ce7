import Holdout.Json.Basic
import Holdout.Json.Token
import Holdout.Word

/-!
# JSON numbers

An integer of 64 bits, signed or not, is kept exactly. Any other number becomes a
double: as many leading digits as fit 64 bits, scaled by a power of ten in double
arithmetic. A number beyond the largest double cannot be read; one too small is zero.
-/

namespace Holdout
namespace Json

/-- A number taken apart: its digits before and after the point, and its exponent. -/
structure Numeral where
  negative : Bool
  whole : List Nat
  fraction : List Nat
  exponent : Int
  /-- Written without a point and without an exponent. -/
  isInteger : Bool
  deriving DecidableEq, Repr

/-- The digits at the front of a text, and the rest. -/
def splitDigits (text : List UInt8) : List Nat × List UInt8 :=
  ((text.takeWhile isDigit).map fun byte => byte.toNat - 48, text.dropWhile isDigit)

/-- Digits taken while their value stays below `Word.limit`, with those that were left. -/
def significand (value : Nat) : List Nat → Nat × List Nat
  | [] => (value, [])
  | digit :: rest =>
    if 10 * value + digit < Word.limit then significand (10 * value + digit) rest
    else (value, digit :: rest)

/-- The value of the digits of an exponent. Digits that do not fit 64 bits do not count: the
exponent is beyond all bounds already. -/
def exponentValue (digits : List Nat) : Nat := (significand 0 digits).1

/-- Take a written number apart. -/
def Numeral.ofWritten (written : List UInt8) : Numeral :=
  let (negative, unsigned) := match written with
    | 45 :: rest => (true, rest)
    | _ => (false, written)
  let (whole, afterWhole) := splitDigits unsigned
  let (fraction, afterFraction) := match afterWhole with
    | 46 :: rest => splitDigits rest
    | _ => ([], afterWhole)
  let exponent : Int := match afterFraction with
    | _ :: 45 :: rest => -(exponentValue (splitDigits rest).1 : Int)
    | _ :: 43 :: rest => exponentValue (splitDigits rest).1
    | _ :: rest => exponentValue (splitDigits rest).1
    | [] => 0
  ⟨negative, whole, fraction, exponent, afterWhole.isEmpty⟩

/-- A power of ten as a double. -/
def powerOfTen (exponent : Nat) : Float := Float.ofScientific 1 false exponent

/-- `value * 10 ^ exponent`, in steps of at most `10 ^ 308`; none if it exceeds every double. Below
`10 ^ (-700)` nothing is left of a number of 64 bits. -/
def scaleByTen (value : Float) (exponent : Int) : Option Float :=
  if value == 0.0 then some value
  else if 308 < exponent then none
  else if 0 ≤ exponent then
    let scaled := value * powerOfTen exponent.toNat
    if scaled.isInf then none else some scaled
  else if -308 ≤ exponent then some (value / powerOfTen (-exponent).toNat)
  else if -616 ≤ exponent then
    some (value / powerOfTen 308 / powerOfTen (-exponent - 308).toNat)
  else some 0.0

/-- The double that stands for a number. -/
def Numeral.double? (numeral : Numeral) : Option Float :=
  let (leading, left) := significand 0 numeral.whole
  let (digits, unread) := significand leading numeral.fraction
  let taken := numeral.fraction.length - unread.length
  let power := (left.length : Int) - taken + numeral.exponent
  (scaleByTen (UInt64.ofNat digits).toFloat power).map fun value =>
    if numeral.negative then -value else value

/-- The integer of 64 bits that stands for a number, if there is one; zero has no negative form. -/
def Numeral.integer? (numeral : Numeral) : Option Int :=
  match numeral.isInteger, significand 0 numeral.whole with
  | true, (value, []) =>
    if !numeral.negative then some value
    else if 0 < value ∧ value ≤ Word.signedLimit then some (-(value : Int))
    else none
  | _, _ => none

/-- Read a number. -/
def readNumber? (written : List UInt8) : Option Json :=
  let numeral := Numeral.ofWritten written
  match numeral.integer? with
  | some value => some (.integer value)
  | none => numeral.double?.map .double

/-- Read a number that counts something in 64 bits. -/
def readCount? (written : List UInt8) : Option Nat :=
  match readNumber? written with
  | some (.integer value) => if 0 ≤ value then some value.toNat else none
  | _ => none

end Json
end Holdout
