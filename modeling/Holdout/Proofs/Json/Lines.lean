import Holdout.Proofs.Json.Sequence

/-!
# Values on lines

No number and no word goes on over a line feed, and a line feed is white space. Values on lines of
their own are therefore read one by one.
-/

namespace Holdout

/-- The byte that ends a line. -/
def lineFeed : UInt8 := 10

/-- Texts with a line feed between one and the next. -/
def joinLines (texts : List (List UInt8)) : List UInt8 := [lineFeed].intercalate texts

theorem joinLines_singleton (text : List UInt8) : joinLines [text] = text :=
  List.intercalate_singleton

theorem joinLines_cons_cons (first second : List UInt8) (others : List (List UInt8)) :
    joinLines (first :: second :: others) = first ++ lineFeed :: joinLines (second :: others) := by
  rw [joinLines, List.intercalate_cons_cons, List.append_assoc]
  rfl

namespace Json

theorem parseAll?_lineFeed (text : List UInt8) : parseAll? (lineFeed :: text) = parseAll? text := rfl

/-- Values on lines of their own are read one after the other. -/
theorem parseAll?_joinLines
    {texts : List (List UInt8)}
    {values : List Json}
    (parsed : List.Forall₂ (fun text value => parse? text = some value) texts values) :
    parseAll? (joinLines texts) = some values := by
  induction parsed with
  | nil => rfl
  | @cons text value texts values isParsed others inductionHypothesis =>
    cases others with
    | nil =>
      rw [joinLines_singleton]
      exact parse?_eq_some_iff.mp isParsed
    | @cons next _ texts _ _ _ =>
      have meet : Meet text (lineFeed :: joinLines (next :: texts)) :=
        .inr (.inr ⟨lineFeed, rfl, rfl⟩)
      rw [joinLines_cons_cons, parseAll?_append isParsed meet, parseAll?_lineFeed,
        inductionHypothesis]
      rfl

end Json
end Holdout
