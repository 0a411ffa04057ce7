import Holdout.Text.Pieces

/-!
# Joined pieces

Pieces that hold no mark are found again between the marks that are put behind them.
-/

namespace Holdout
namespace Text

variable {α : Type} {isMark : α → Bool} {piece : List α}

theorem splitWhere_cons_of_not {item : α} {rest first : List α} {others : List (List α)}
    (plain : isMark item = false)
    (split : splitWhere isMark rest = first :: others) :
    splitWhere isMark (item :: rest) = (item :: first) :: others := by
  rw [splitWhere, plain, split]
  rfl

theorem splitWhere_append {rest first : List α} {others : List (List α)}
    (plain : ∀ item ∈ piece, isMark item = false)
    (split : splitWhere isMark rest = first :: others) :
    splitWhere isMark (piece ++ rest) = (piece ++ first) :: others := by
  induction piece with
  | nil => exact split
  | cons item piece inductionHypothesis =>
    rw [List.forall_mem_cons] at plain
    exact splitWhere_cons_of_not plain.1 (inductionHypothesis plain.2)

theorem splitWhere_of_plain (plain : ∀ item ∈ piece, isMark item = false) :
    splitWhere isMark piece = [piece] := by
  have ended : splitWhere isMark [] = [[]] := rfl
  have split := splitWhere_append plain ended
  rwa [List.append_nil] at split

theorem splitWhere_append_cons {mark : α} {rest : List α}
    (plain : ∀ item ∈ piece, isMark item = false)
    (marked : isMark mark = true) :
    splitWhere isMark (piece ++ mark :: rest) = piece :: splitWhere isMark rest := by
  have split : splitWhere isMark (mark :: rest) = [] :: splitWhere isMark rest := by
    rw [splitWhere, marked]
    rfl
  rw [splitWhere_append plain split, List.append_nil]

/-- No piece holds a mark. -/
theorem not_isMark_of_mem_splitWhere {items : List α} :
    ∀ piece ∈ splitWhere isMark items, ∀ item ∈ piece, isMark item = false := by
  induction items with
  | nil =>
    intro piece member item inside
    rw [List.mem_singleton.mp member] at inside
    cases inside
  | cons first rest inductionHypothesis =>
    intro piece member item inside
    cases marked : isMark first with
    | true =>
      rw [splitWhere, marked] at member
      rcases List.mem_cons.mp member with same | later
      · rw [same] at inside
        cases inside
      · exact inductionHypothesis piece later item inside
    | false =>
      obtain ⟨begun, others, split⟩ := List.exists_cons_of_ne_nil (splitWhere_ne_nil isMark rest)
      rw [splitWhere_cons_of_not marked split] at member
      rw [split, List.forall_mem_cons] at inductionHypothesis
      rcases List.mem_cons.mp member with same | later
      · rw [same] at inside
        rcases List.mem_cons.mp inside with isFirst | behind
        · rw [isFirst, marked]
        · exact inductionHypothesis.1 item behind
      · exact inductionHypothesis.2 piece later item inside

end Text
end Holdout
