/-!
# Pieces of a text

The pieces between the places where a mark stands, from the first one to the last.
-/

namespace Holdout
namespace Text

/-- The pieces between marks; there is one piece more than there are marks. -/
def splitWhere {α : Type} (isMark : α → Bool) : List α → List (List α)
  | [] => [[]]
  | item :: rest =>
    if isMark item then [] :: splitWhere isMark rest
    else match splitWhere isMark rest with
      | piece :: pieces => (item :: piece) :: pieces
      | [] => [[item]]

theorem splitWhere_ne_nil {α : Type} (isMark : α → Bool) (items : List α) :
    splitWhere isMark items ≠ [] := by
  cases items with
  | nil => simp [splitWhere]
  | cons item rest => unfold splitWhere; split <;> (try split) <;> simp

end Text
end Holdout
