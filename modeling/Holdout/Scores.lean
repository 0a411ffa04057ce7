import Holdout.Failure
import Holdout.Tensor

/-!
# The best score

The class that a model predicts: the place of the highest score. The search keeps
the first of equal scores. A score that is not a number never holds its place against
the next one, and takes the place of whatever came before it.
-/

namespace Holdout
namespace Scores

/-- The best score so far with its place, after one more score at `place`. -/
def better (best : Option (Nat × Float32)) (place : Nat) (score : Float32) :
    Option (Nat × Float32) :=
  match best with
  | some (held, top) => if score ≤ top then some (held, top) else some (place, score)
  | none => some (place, score)

/-- The best score after reading the scores from `place` on. -/
def bestFrom (place : Nat) (best : Option (Nat × Float32)) :
    List Float32 → Option (Nat × Float32)
  | [] => best
  | score :: rest => bestFrom (place + 1) (better best place score) rest

@[simp] theorem bestFrom_nil (place : Nat) (best : Option (Nat × Float32)) :
    bestFrom place best [] = best := rfl

@[simp] theorem bestFrom_cons (place : Nat) (best : Option (Nat × Float32)) (score : Float32)
    (rest : List Float32) :
    bestFrom place best (score :: rest) =
      bestFrom (place + 1) (better best place score) rest := rfl

/-- The place of the best of some scores. -/
def argmax? (scores : List Float32) : Option Nat := (bestFrom 0 none scores).map Prod.fst

end Scores

/-- The place of the highest score of a tensor, compared in single precision. -/
def argmax (scores : Tensor) : Except Failure Nat :=
  match Scores.argmax? scores.elements.singles with
  | some place => .ok place
  | none => .error .noScores

end Holdout
