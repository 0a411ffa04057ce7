import Holdout.Text.Composed.Table
import Holdout.Text.Lowercase

/-!
# Composed text

The same text can be written with marks behind their characters or with composed characters.
`composed` takes a text apart, puts the marks on each character in order, and then composes as
much as it can, so that all spellings of a text come out alike.
-/

namespace Holdout
namespace Text

/-- The class of a mark; zero for a character that is none, or stays where it is. -/
def markClass (c : Char) : Nat :=
  if c.toNat < 0x300 then 0
  else ((markClasses.find? fun entry => inRanges entry.members c).map MarkClass.number).getD 0

/-- The first of the syllables of Hangul, which are numbered by their parts. -/
def firstSyllable : Nat := 0xAC00

/-- The parts of a syllable of Hangul: a first consonant, a vowel, and perhaps a last consonant. -/
def syllableParts (number : Nat) : List Nat :=
  let first := 0x1100 + number / 588
  let vowel := 0x1161 + number / 28 % 21
  if number % 28 = 0 then [first, vowel] else [first, vowel, 0x11A7 + number % 28]

/-- All parts of a character. -/
def parts (c : Char) : List Char :=
  if c.toNat < 0xC0 then [c]
  else if firstSyllable ≤ c.toNat ∧ c.toNat < firstSyllable + 11172 then
    (syllableParts (c.toNat - firstSyllable)).map Char.ofNat
  else match composedForms.find? fun form => form.head? = some c.toNat with
    | some form => form.tail.map Char.ofNat
    | none => [c]

/-- Put a character behind those in `before`, which lists the last one first; a mark goes before
marks of higher classes. -/
def placeMark (before : List (Nat × Char)) (number : Nat) (c : Char) : List (Nat × Char) :=
  match before with
  | [] => [(number, c)]
  | last :: rest =>
    if 0 < number ∧ number < last.1 then last :: placeMark rest number c
    else (number, c) :: last :: rest

/-- All parts of a text with their classes, the marks in order. -/
def orderedParts (text : List Char) : List (Nat × Char) :=
  ((text.flatMap parts).foldl (fun before c => placeMark before (markClass c) c) []).reverse

/-- The syllable of a first consonant and a vowel, or of such a syllable and a last consonant. -/
def syllable? (first second : Nat) : Option Nat :=
  if 0x1100 ≤ first ∧ first < 0x1113 ∧ 0x1161 ≤ second ∧ second < 0x1176 then
    some (firstSyllable + 588 * (first - 0x1100) + 28 * (second - 0x1161))
  else if firstSyllable ≤ first ∧ first < firstSyllable + 11172 ∧ (first - firstSyllable) % 28 = 0 ∧
      0x11A8 ≤ second ∧ second < 0x11C3 then
    some (first + (second - 0x11A7))
  else none

/-- The character that two make up. -/
def compose? (first second : Char) : Option Char :=
  match syllable? first.toNat second.toNat with
  | some code => some (Char.ofNat code)
  | none =>
    let whole := (parts first ++ [second]).map Char.toNat
    (composedForms.find? fun form => form.tail = whole).map fun form => Char.ofNat (form.headD 0)

/-- How far a text has been composed. -/
structure Composing where
  /-- What comes before the character that may take marks, the last one first. -/
  finished : List Char
  /-- The last character that is no mark. -/
  base : Option Char
  /-- Marks behind it that could not be composed, the last one first. -/
  marks : List (Nat × Char)

namespace Composing

/-- All characters so far, the last one first. -/
def characters (composing : Composing) : List Char :=
  composing.marks.map Prod.snd ++ composing.base.toList ++ composing.finished

/-- No mark stands between the base and a character of this class that keeps them apart. -/
def meets (composing : Composing) (number : Nat) : Bool :=
  match composing.marks with
  | [] => true
  | last :: _ => last.1 < number

/-- Take in one more character. -/
def take (composing : Composing) (part : Nat × Char) : Composing :=
  match composing.base.bind fun base =>
      if composing.meets part.1 then compose? base part.2 else none with
  | some whole => { composing with base := some whole }
  | none =>
    if part.1 = 0 then ⟨composing.characters, some part.2, []⟩
    else { composing with marks := part :: composing.marks }

end Composing

/-- The text in composed characters. -/
def composed (text : List Char) : List Char :=
  ((orderedParts text).foldl Composing.take ⟨[], none, []⟩).characters.reverse

end Text
end Holdout
