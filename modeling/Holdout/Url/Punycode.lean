/-!
# Labels beyond ASCII

A label with characters beyond ASCII is written by its ASCII characters, a hyphen, and a
number for each other character. The numbers tell in turn how far to count through all
places of the label and all characters, smallest characters first, until the next one is
inserted. Their digits have weights that adapt to the numbers before.
-/

namespace Holdout
namespace Url
namespace Punycode

/-- Letters stand for the digits up to 25, decimal digits for those above. -/
def digitChar (digit : Nat) : Char :=
  if digit < 26 then Char.ofNat (0x61 + digit) else Char.ofNat (0x30 + (digit - 26))

/-- The value of a digit in small letters. -/
def digitValue? (c : Char) : Option Nat :=
  if 'a' ≤ c ∧ c ≤ 'z' then some (c.toNat - 0x61)
  else if '0' ≤ c ∧ c ≤ '9' then some (c.toNat - 0x30 + 26)
  else none

/-- The least digit at a place that is not the last one of its number. -/
def threshold (bias place : Nat) : Nat := min 26 (max 1 (36 * (place + 1) - bias))

theorem threshold_pos (bias place : Nat) : 1 ≤ threshold bias place := by
  unfold threshold; omega

/-- The places that a number of this size takes before its last ones, and what is left of it. -/
def shrink (size : Nat) : Nat × Nat :=
  if 455 < size then
    let (places, left) := shrink (size / 35)
    (places + 1, left)
  else (0, size)
termination_by size
decreasing_by omega

/-- The bias after a number, when the label has `length` characters. -/
def adapt (number length : Nat) (isFirst : Bool) : Nat :=
  let damped := if isFirst then number / 700 else number / 2
  let (places, left) := shrink (damped + damped / length)
  36 * places + 36 * left / (left + 38)

/-- The digits of a number from a place on. -/
def numberDigits (bias place number : Nat) : List Char :=
  let least := threshold bias place
  if number < least then [digitChar number]
  else
    digitChar (least + (number - least) % (36 - least)) ::
      numberDigits bias (place + 1) ((number - least) / (36 - least))
termination_by number
decreasing_by
  have positive := threshold_pos bias place
  exact Nat.lt_of_le_of_lt (Nat.div_le_self _ _) (by omega)

/-- How far a label has been written. -/
structure Writing where
  /-- Digits, the last one first. -/
  written : List Char
  /-- The count since the last character that was inserted. -/
  number : Nat
  bias : Nat
  /-- The characters that a reader knows by now. -/
  known : Nat

/-- Count one character of the label while those with the code `code` are inserted. -/
def countOne (basic code : Nat) (writing : Writing) (c : Char) : Writing :=
  if c.toNat < code then { writing with number := writing.number + 1 }
  else if c.toNat = code then
    { written := (numberDigits writing.bias 0 writing.number).reverse ++ writing.written
      number := 0
      bias := adapt writing.number (writing.known + 1) (writing.known = basic)
      known := writing.known + 1 }
  else writing

/-- Insert the characters of each code in turn; all codes below `next` are inserted already. -/
def insertCodes (label : List Char) (basic : Nat) : List Nat → Nat → Writing → Writing
  | [], _, writing => writing
  | code :: codes, next, writing =>
    let passed := { writing with number := writing.number + (code - next) * (writing.known + 1) }
    let inserted := label.foldl (countOne basic code) passed
    insertCodes label basic codes (code + 1) { inserted with number := inserted.number + 1 }

/-- A character of ASCII. -/
def isBasic (c : Char) : Bool := c.toNat < 0x80

/-- The written form of a label. -/
def encode (label : List Char) : List Char :=
  let basic := label.filter isBasic
  let codes := ((label.filter (!isBasic ·)).map Char.toNat).mergeSort.eraseDups
  let start : Writing := ⟨[], 0, 72, basic.length⟩
  let digits := (insertCodes label basic.length codes 0x80 start).written.reverse
  (if basic.isEmpty then [] else basic ++ ['-']) ++ digits

/-- Read a number whose digits so far come to `value` and whose next digit has this weight. -/
def readNumber? (bias place weight value : Nat) : List Char → Option (Nat × List Char)
  | [] => none
  | c :: rest => do
    let digit ← digitValue? c
    let least := threshold bias place
    if digit < least then return (value + digit * weight, rest)
    else readNumber? bias (place + 1) (weight * (36 - least)) (value + digit * weight) rest

theorem length_of_readNumber? (text : List Char) {bias place weight value : Nat}
    {result : Nat × List Char} (read : readNumber? bias place weight value text = some result) :
    result.2.length < text.length := by
  induction text generalizing place weight value with
  | nil => simp [readNumber?] at read
  | cons c rest inductionHypothesis =>
    simp only [readNumber?, Option.bind_eq_bind, Option.bind_eq_some_iff] at read
    obtain ⟨digit, _, step⟩ := read
    split at step
    · cases step; simp
    · have := inductionHypothesis step
      simp only [List.length_cons]
      omega

/-- Insert characters into a label as long as numbers follow; the last one went before `place` and
its code was `code`. -/
def insertNumbers? (bias code place : Nat) (label text : List Char) : Option (List Char) :=
  match text with
  | [] => some label
  | c :: rest =>
    match read : readNumber? bias 0 1 0 (c :: rest) with
    | none => none
    | some (number, others) =>
      let count := label.length + 1
      let inserted := code + (place + number) / count
      let position := (place + number) % count
      if Nat.isValidChar inserted then
        insertNumbers? (adapt number count (label.all isBasic)) inserted (position + 1)
          (label.insertIdx position (Char.ofNat inserted)) others
      else none
termination_by text.length
decreasing_by exact length_of_readNumber? _ read

/-- Read the written form of a label. A hyphen ends its ASCII characters only if there are some. -/
def decode? (text : List Char) : Option (List Char) :=
  let digits := (text.reverse.takeWhile (· ≠ '-')).reverse
  let basic := ((text.reverse.dropWhile (· ≠ '-')).drop 1).reverse
  insertNumbers? 72 0x80 0 basic (if basic.isEmpty then text else digits)

end Punycode
end Url
end Holdout
