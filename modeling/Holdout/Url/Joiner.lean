import Holdout.Text.Composed
import Holdout.Text.Mark
import Holdout.Url.Joiner.Table

/-!
# Joiners

Two characters that cannot be seen tell whether the letters beside them are joined. A name may hold
one behind a sign that takes the vowel from its letter, and the one that parts letters between
letters that would join.
-/

namespace Holdout
namespace Url

/-- Parts letters. -/
def partingJoiner : Char := Char.ofNat 0x200C

/-- Joins letters. -/
def joiningJoiner : Char := Char.ofNat 0x200D

/-- Letters join across the character. -/
def isTransparent (c : Char) : Bool := Text.isNonspacing c || c.toNat == 0x1E94B

/-- The nearest letter joins with what is behind it. -/
def joinsForward (nearestFirst : List Char) : Bool :=
  match nearestFirst.dropWhile isTransparent with
  | [] => false
  | c :: _ => Text.inRanges dualJoiningRanges c || Text.inRanges leftJoiningRanges c

/-- The nearest letter joins with what is before it. -/
def joinsBackward (nearestFirst : List Char) : Bool :=
  match nearestFirst.dropWhile isTransparent with
  | [] => false
  | c :: _ => Text.inRanges dualJoiningRanges c || Text.inRanges rightJoiningRanges c

/-- The class of the signs that take the vowel from a letter. -/
def vowelTakingClass : Nat := 9

/-- A joiner may stand between these characters, of which both lists begin with the nearest. -/
def joinerFits (joiner : Char) (before behind : List Char) : Bool :=
  match before with
  | [] => false
  | previous :: _ =>
    Text.markClass previous == vowelTakingClass ||
      (joiner == partingJoiner && joinsForward before && joinsBackward behind)

/-- All joiners may stand where they are; `before` lists what comes first, the nearest in front. -/
def joinersFit (before : List Char) : List Char → Bool
  | [] => true
  | c :: rest =>
    ((c ≠ partingJoiner && c ≠ joiningJoiner) || joinerFits c before rest) &&
      joinersFit (c :: before) rest

end Url
end Holdout
