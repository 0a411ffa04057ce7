import Holdout.Text.Mark
import Holdout.Url.Direction.Table

/-!
# Directions of writing

A name with letters from right to left is shown unmistakably only if each of its labels begins and
ends in its own direction and holds no letters of the other one.
-/

namespace Holdout
namespace Url

/-- How a character is placed among others. -/
inductive Direction
  | leftToRight
  | rightToLeft
  | arabicNumber
  | europeanNumber
  | neutral
  | nonspacing
  deriving DecidableEq, Repr

/-- The direction of a character of a name. -/
def direction (c : Char) : Direction :=
  if Text.inRanges rightToLeftRanges c then .rightToLeft
  else if Text.inRanges arabicNumberRanges c then .arabicNumber
  else if Text.inRanges europeanNumberRanges c then .europeanNumber
  else if Text.inRanges neutralRanges c then .neutral
  else if Text.isNonspacing c && !Text.inRanges letterMarkRanges c then .nonspacing
  else .leftToRight

/-- Characters of these directions may stand behind a letter from left to right, the last one first.
Marks at the end belong to what they stand on. -/
def continuesLeftToRight (lastFirst : List Direction) : Bool :=
  match lastFirst.dropWhile (· = .nonspacing) with
  | [] => true
  | last :: before =>
    (last = .leftToRight || last = .europeanNumber) &&
      before.all fun direction => direction ≠ .rightToLeft && direction ≠ .arabicNumber

/-- Characters of these directions may stand behind a letter from right to left, the last one first.
Only digits of one kind may. -/
def continuesRightToLeft (lastFirst : List Direction) : Bool :=
  match lastFirst.dropWhile (· = .nonspacing) with
  | [] => true
  | last :: before =>
    last ≠ .leftToRight && last ≠ .neutral && before.all (· ≠ .leftToRight) &&
      !((last :: before).contains .arabicNumber && (last :: before).contains .europeanNumber)

/-- The label keeps one direction. -/
def keepsDirection (label : List Char) : Bool :=
  match label.map direction with
  | [] => true
  | .leftToRight :: rest => continuesLeftToRight rest.reverse
  | .rightToLeft :: rest => continuesRightToLeft rest.reverse
  | _ => false

/-- Some character is written from right to left. -/
def turns (label : List Char) : Bool :=
  label.any fun c => direction c = .rightToLeft || direction c = .arabicNumber

/-- Each label keeps its direction, if there is a label with more than the usual one. -/
def keepDirections (labels : List (List Char)) : Bool :=
  !labels.any turns || labels.all keepsDirection

end Url
end Holdout
