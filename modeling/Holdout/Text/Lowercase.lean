import Holdout.Text.Lowercase.Table

/-!
# Lowercase text

Full lowercasing: each character becomes its small form, and a capital sigma that
ends a word becomes the final small sigma.
-/

namespace Holdout
namespace Text

/-- Membership of a character in ranges of code points. -/
def inRanges (ranges : Array (Nat × Nat)) (c : Char) : Bool :=
  ranges.any fun (first, last) => first ≤ c.toNat && c.toNat ≤ last

/-- A capital, small or title letter. -/
def isCased (c : Char) : Bool := inRanges casedRanges c

/-- A character that the case of a word looks through, such as an accent or an apostrophe. -/
def isCaseIgnorable (c : Char) : Bool := inRanges caseIgnorableRanges c

/-- The code point lies on the run's steps. -/
def ShiftRun.contains (run : ShiftRun) (code : Nat) : Bool :=
  run.first ≤ code && code ≤ run.last && (code - run.first) % run.step == 0

/-- The small form of a character taken by itself; only the dotted capital I needs two characters. -/
def smallForm (c : Char) : List Char :=
  if c.toNat < 0x80 then
    [if 'A' ≤ c ∧ c ≤ 'Z' then Char.ofNat (c.toNat + 32) else c]
  else if c.toNat = 0x130 then ['i', Char.ofNat 0x307]
  else match smallForms.find? (·.contains c.toNat) with
    | some run => [Char.ofNat (Int.toNat (c.toNat + run.shift))]
    | none => [c]

/-- The nearest character that is not case-ignorable has case. -/
def meetsCase (nearestFirst : List Char) : Bool :=
  match nearestFirst.dropWhile isCaseIgnorable with
  | [] => false
  | c :: _ => isCased c

/-- Small forms of the characters after those in `before`, which lists the nearest one first. -/
def lowercaseAfter (before : List Char) : List Char → List Char
  | [] => []
  | c :: rest =>
    let small :=
      if c = 'Σ' then
        [if meetsCase before && !meetsCase rest then 'ς' else 'σ']
      else smallForm c
    small ++ lowercaseAfter (c :: before) rest

/-- Text in small letters. -/
def lowercase (text : String) : String :=
  String.ofList (lowercaseAfter [] text.toList)

end Text
end Holdout
