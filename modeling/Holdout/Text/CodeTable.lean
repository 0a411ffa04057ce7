import Holdout.Text.Pieces

/-!
# Tables of code points

Long tables are written as words of capital hexadecimal digits between white space. The word of a
range has a hyphen between its ends, or is one number; the word of a sequence has plus signs
between its numbers.
-/

namespace Holdout
namespace Text

/-- The value of a capital hexadecimal digit. -/
def hexValue (c : Char) : Nat := if c ≤ '9' then c.toNat - 48 else c.toNat - 55

/-- The number of hexadecimal digits. -/
def hexNumber (digits : List Char) : Nat :=
  digits.foldl (fun value c => 16 * value + hexValue c) 0

/-- The words of a table. -/
def tableWords (table : String) : List (List Char) :=
  (splitWhere Char.isWhitespace table.toList).filter fun word => !word.isEmpty

/-- The code points of a sequence. -/
def codeSequence (word : List Char) : List Nat := (splitWhere (· == '+') word).map hexNumber

/-- The sequences of a table. -/
def codeSequences (table : String) : List (List Nat) := (tableWords table).map codeSequence

/-- The ends of a range. -/
def codeRange (word : List Char) : Nat × Nat :=
  match (splitWhere (· == '-') word).map hexNumber with
  | [first, last] => (first, last)
  | numbers => (numbers.headD 0, numbers.headD 0)

/-- The ranges of a table. -/
def codeRanges (table : String) : Array (Nat × Nat) := ((tableWords table).map codeRange).toArray

end Text
end Holdout
