import Mathlib.Data.List.Induction
import Mathlib.Order.Lattice.Nat
import Holdout.Scores
import Holdout.Proofs.Single.Order

/-!
# The search for the best score

As long as all scores are numbers, the search stands at the first of the highest scores it has read. A
score that is not a number takes the place of whatever was held, and is forgotten at the next score, so
the search begins anew behind it. Therefore the search ends with the first of all highest scores just if
everything behind that one is a number.
-/

namespace Holdout
namespace Scores

open Single

/-- The score at a place is a number, and no other is higher. -/
def IsHighest (scores : List Float32) (place : Nat) : Prop :=
  ∃ score,
    scores[place]? = some score ∧ score.isNaN = false ∧ ∀ other ∈ scores, ¬score < other

/-- The place is the first one that has a highest score. -/
def IsFirstHighest (scores : List Float32) (place : Nat) : Prop :=
  IsLeast {place | IsHighest scores place} place

/-- Every score behind a place is a number. -/
def NumbersBehind (scores : List Float32) (place : Nat) : Prop :=
  ∀ later score, place < later → scores[later]? = some score → score.isNaN = false

/-! ## Highest scores -/

section Highest

variable {read scores : List Float32} {held place : Nat} {score top other : Float32}

theorem IsHighest.lt_length (highest : IsHighest scores place) : place < scores.length := by
  obtain ⟨score, isScore, -⟩ := highest
  exact (List.getElem?_eq_some_iff.mp isScore).1

/-- A number that is not exceeded by another one is at least as high. -/
theorem rank_le_of_not_lt
    (isNumber : top.isNaN = false)
    (isNumberToo : other.isNaN = false)
    (notBelow : ¬top < other) :
    rank other ≤ rank top := by
  rw [lt_iff_rank_lt isNumber isNumberToo] at notBelow
  exact not_lt.mp notBelow

/-- Only a number can be higher. -/
theorem not_lt_of_number (notBelow : other.isNaN = false → ¬top < other) : ¬top < other := by
  cases isNumber : other.isNaN with
  | false => exact notBelow isNumber
  | true => exact not_lt_of_isNaN (.inr isNumber)

/-- Where a highest score stands among the first scores only, it is highest among these. -/
theorem IsHighest.of_append
    {rest : List Float32}
    (highest : IsHighest (read ++ rest) place)
    (inside : place < read.length) :
    IsHighest read place := by
  obtain ⟨score, isScore, isNumber, notBelow⟩ := highest
  rw [List.getElem?_append_left inside] at isScore
  exact ⟨score, isScore, isNumber, fun other among =>
    notBelow other (List.mem_append_left rest among)⟩

theorem IsHighest.of_append_right
    {rest : List Float32}
    (highest : IsHighest (read ++ rest) (read.length + place)) :
    IsHighest rest place := by
  obtain ⟨score, isScore, isNumber, notBelow⟩ := highest
  rw [List.getElem?_append_right (Nat.le_add_right _ _), Nat.add_sub_cancel_left] at isScore
  exact ⟨score, isScore, isNumber, fun other among =>
    notBelow other (List.mem_append_right read among)⟩

/-- If one of the highest of the last scores is highest of all, then so are the others. -/
theorem IsHighest.append_left
    {rest : List Float32}
    (highest : IsHighest (read ++ rest) (read.length + held))
    (highestToo : IsHighest rest place) :
    IsHighest (read ++ rest) (read.length + place) := by
  obtain ⟨top, isTop, topIsNumber, notBelow⟩ := highest
  obtain ⟨score, isScore, isNumber, notBelowToo⟩ := highestToo
  rw [List.getElem?_append_right (Nat.le_add_right _ _), Nat.add_sub_cancel_left] at isTop
  refine ⟨score, ?_, isNumber, ?_⟩
  · rw [List.getElem?_append_right (Nat.le_add_right _ _), Nat.add_sub_cancel_left, isScore]
  · intro other among
    apply not_lt_of_number
    intro otherIsNumber
    have below := rank_le_of_not_lt topIsNumber otherIsNumber (notBelow other among)
    have atLeast := rank_le_of_not_lt isNumber topIsNumber
      (notBelowToo top (List.mem_of_getElem? isTop))
    rw [lt_iff_rank_lt isNumber otherIsNumber]
    exact (below.trans atLeast).not_gt

/-- One more score that is not higher leaves the first of the highest. -/
theorem IsFirstHighest.concat_of_le
    (first : IsFirstHighest read held)
    (isTop : read[held]? = some top)
    (isNumber : score.isNaN = false)
    (atMost : score ≤ top) :
    IsFirstHighest (read ++ [score]) held := by
  obtain ⟨same, isTopToo, topIsNumber, notBelow⟩ := first.1
  obtain rfl := Option.some.inj (isTop.symm.trans isTopToo)
  have inside : held < read.length := first.1.lt_length
  constructor
  · refine ⟨top, ?_, topIsNumber, ?_⟩
    · rw [List.getElem?_append_left inside, isTop]
    · intro other among
      rcases List.mem_append.mp among with isRead | isLast
      · exact notBelow other isRead
      · rw [List.mem_singleton.mp isLast, lt_iff_rank_lt topIsNumber isNumber]
        exact ((le_iff_rank_le isNumber topIsNumber).mp atMost).not_gt
  · intro place highest
    by_cases before : place < read.length
    · exact first.2 (highest.of_append before)
    · exact inside.le.trans (not_lt.mp before)

/-- One more score that is higher becomes the first of the highest. -/
theorem IsFirstHighest.concat_of_not_le
    (first : IsFirstHighest read held)
    (isTop : read[held]? = some top)
    (isNumber : score.isNaN = false)
    (higher : ¬score ≤ top) :
    IsFirstHighest (read ++ [score]) read.length := by
  obtain ⟨same, isTopToo, topIsNumber, notBelow⟩ := first.1
  obtain rfl := Option.some.inj (isTop.symm.trans isTopToo)
  rw [le_iff_rank_le isNumber topIsNumber, not_le] at higher
  have below : ∀ other ∈ read, other.isNaN = false → rank other < rank score :=
    fun other among otherIsNumber =>
      (rank_le_of_not_lt topIsNumber otherIsNumber (notBelow other among)).trans_lt higher
  constructor
  · refine ⟨score, List.getElem?_concat_length, isNumber, ?_⟩
    intro other among
    apply not_lt_of_number
    intro otherIsNumber
    rw [lt_iff_rank_lt isNumber otherIsNumber]
    rcases List.mem_append.mp among with isRead | isLast
    · exact (below other isRead otherIsNumber).not_gt
    · rw [List.mem_singleton.mp isLast]
      exact lt_irrefl _
  · intro place highest
    by_contra before
    obtain ⟨held, isHeld, heldIsNumber, notBelow⟩ := highest
    rw [List.getElem?_append_left (not_le.mp before)] at isHeld
    apply notBelow score (List.mem_append_right read (List.mem_singleton_self score))
    rw [lt_iff_rank_lt heldIsNumber isNumber]
    exact below held (List.mem_of_getElem? isHeld) heldIsNumber

end Highest

/-! ## The search -/

section Search

variable {score top notANumber : Float32} {scores before rest : List Float32}

theorem bestFrom_append (place : Nat) (best : Option (Nat × Float32)) (before rest : List Float32) :
    bestFrom place best (before ++ rest) =
      bestFrom (place + before.length) (bestFrom place best before) rest := by
  induction before generalizing place best with
  | nil => rfl
  | cons score before inductionHypothesis =>
    rw [List.cons_append, bestFrom_cons, inductionHypothesis, bestFrom_cons, List.length_cons,
      Nat.add_assoc, Nat.add_comm 1]

/-- A score that is not a number takes the place of whatever is held. -/
theorem better_of_isNaN (isNaN : score.isNaN = true) (best : Option (Nat × Float32)) (place : Nat) :
    better best place score = some (place, score) := by
  cases best with
  | none => rfl
  | some best => exact if_neg (not_le_of_isNaN (.inl isNaN))

/-- What is held and not a number is forgotten at the next score. -/
theorem bestFrom_of_isNaN (isNaN : top.isNaN = true) (place held : Nat) (score : Float32)
    (rest : List Float32) :
    bestFrom place (some (held, top)) (score :: rest) = bestFrom place none (score :: rest) := by
  have forgotten : better (some (held, top)) place score = some (place, score) :=
    if_neg (not_le_of_isNaN (.inr isNaN))
  rw [bestFrom_cons, forgotten]
  rfl

/-- The search through numbers ends with the first of the highest. -/
theorem bestFrom_of_numbers
    (nonempty : scores ≠ [])
    (numbers : ∀ score ∈ scores, score.isNaN = false)
    (place : Nat) :
    ∃ first top,
      bestFrom place none scores = some (place + first, top) ∧
      scores[first]? = some top ∧
      IsFirstHighest scores first := by
  induction scores using List.reverseRecOn with
  | nil => exact absurd rfl nonempty
  | append_singleton read score inductionHypothesis =>
    have isNumber : score.isNaN = false :=
      numbers score (List.mem_append_right read (List.mem_singleton_self score))
    rw [bestFrom_append, bestFrom_cons, bestFrom_nil]
    by_cases isFirst : read = []
    · subst isFirst
      refine ⟨0, score, rfl, rfl, ⟨score, rfl, isNumber, ?_⟩, fun _ _ => Nat.zero_le _⟩
      intro other among
      rw [List.mem_singleton.mp among, lt_iff_rank_lt isNumber isNumber]
      exact lt_irrefl _
    · obtain ⟨first, top, best, isTop, isFirstHighest⟩ := inductionHypothesis isFirst
        fun other among => numbers other (List.mem_append_left [score] among)
      rw [best, better]
      split
      · rename_i atMost
        refine ⟨first, top, rfl, ?_, isFirstHighest.concat_of_le isTop isNumber atMost⟩
        rw [List.getElem?_append_left isFirstHighest.1.lt_length, isTop]
      · rename_i higher
        exact ⟨read.length, score, rfl, List.getElem?_concat_length,
          isFirstHighest.concat_of_not_le isTop isNumber higher⟩

/-- The best of numbers is the first of the highest. -/
theorem argmax?_of_numbers
    (nonempty : scores ≠ [])
    (numbers : ∀ score ∈ scores, score.isNaN = false) :
    ∃ first, argmax? scores = some first ∧ IsFirstHighest scores first := by
  obtain ⟨first, top, best, -, isFirstHighest⟩ := bestFrom_of_numbers nonempty numbers 0
  rw [Nat.zero_add] at best
  exact ⟨first, congrArg (Option.map Prod.fst) best, isFirstHighest⟩

/-- The best of scores that end with one that is not a number is that last one. -/
theorem argmax?_concat_of_isNaN (isNaN : notANumber.isNaN = true) (before : List Float32) :
    argmax? (before ++ [notANumber]) = some before.length := by
  rw [argmax?, bestFrom_append, bestFrom_cons, better_of_isNaN isNaN, Nat.zero_add]
  rfl

/-- The best of scores with numbers behind one that is not is the first of the highest of these. -/
theorem argmax?_append_of_isNaN
    (isNaN : notANumber.isNaN = true)
    (nonempty : rest ≠ [])
    (numbers : ∀ score ∈ rest, score.isNaN = false)
    (before : List Float32) :
    ∃ first,
      argmax? (before ++ notANumber :: rest) = some (before.length + 1 + first) ∧
      IsFirstHighest rest first := by
  obtain ⟨first, top, best, -, isFirstHighest⟩ :=
    bestFrom_of_numbers nonempty numbers (before.length + 1)
  refine ⟨first, ?_, isFirstHighest⟩
  obtain ⟨score, rest, rfl⟩ := List.exists_cons_of_ne_nil nonempty
  rw [argmax?, bestFrom_append, bestFrom_cons, better_of_isNaN isNaN, bestFrom_of_isNaN isNaN,
    Nat.zero_add, best]
  rfl

/-- Scores that are not all numbers have a last one that is not. -/
theorem exists_last_isNaN (unordered : ∃ score ∈ scores, score.isNaN = true) :
    ∃ before notANumber rest,
      scores = before ++ notANumber :: rest ∧
      notANumber.isNaN = true ∧
      ∀ score ∈ rest, score.isNaN = false := by
  induction scores with
  | nil =>
    obtain ⟨score, among, -⟩ := unordered
    cases among
  | cons head scores inductionHypothesis =>
    by_cases behind : ∃ score ∈ scores, score.isNaN = true
    · obtain ⟨before, notANumber, rest, same, isNaN, numbers⟩ := inductionHypothesis behind
      exact ⟨head :: before, notANumber, rest, congrArg (head :: ·) same, isNaN, numbers⟩
    · simp only [not_exists, not_and, Bool.not_eq_true] at behind
      obtain ⟨score, among, isNaN⟩ := unordered
      rcases List.mem_cons.mp among with isHead | isBehind
      · exact ⟨[], head, scores, rfl, isHead ▸ isNaN, behind⟩
      · rw [behind score isBehind] at isNaN
        cases isNaN

/-- Of scores that are not all something else than numbers, one is the first of the highest. -/
theorem exists_isFirstHighest (ordered : ∃ score ∈ scores, score.isNaN = false) :
    ∃ first, IsFirstHighest scores first := by
  obtain ⟨score, among, isNumber⟩ := ordered
  have nonempty : scores.filter (!·.isNaN) ≠ [] :=
    List.ne_nil_of_mem (List.mem_filter.mpr ⟨among, by rw [isNumber]; rfl⟩)
  have numbers : ∀ score ∈ scores.filter (!·.isNaN), score.isNaN = false := fun score kept =>
    (Bool.not_eq_true' _).mp (List.mem_filter.mp kept).2
  obtain ⟨_, -, highest, -⟩ := argmax?_of_numbers nonempty numbers
  obtain ⟨top, isTop, topIsNumber, notBelow⟩ := highest
  obtain ⟨place, isPlace⟩ :=
    List.mem_iff_getElem?.mp (List.mem_filter.mp (List.mem_of_getElem? isTop)).1
  have highest : IsHighest scores place := by
    refine ⟨top, isPlace, topIsNumber, fun other among => not_lt_of_number ?_⟩
    intro otherIsNumber
    exact notBelow other (List.mem_filter.mpr ⟨among, by rw [otherIsNumber]; rfl⟩)
  exact ⟨_, isLeast_csInf ⟨place, highest⟩⟩

end Search

/-! ## Where the search ends -/

section Restart

variable {before rest : List Float32} {notANumber : Float32} {first place : Nat}

theorem numbersBehind_of_length_le
    (numbers : ∀ score ∈ rest, score.isNaN = false)
    (atLeast : before.length ≤ place) :
    NumbersBehind (before ++ notANumber :: rest) place := by
  intro later score isLater isScore
  obtain ⟨distance, rfl⟩ : ∃ distance, later = before.length + (distance + 1) :=
    ⟨later - before.length - 1, by omega⟩
  rw [List.getElem?_append_right (Nat.le_add_right _ _), Nat.add_sub_cancel_left,
    List.getElem?_cons_succ] at isScore
  exact numbers score (List.mem_of_getElem? isScore)

theorem not_numbersBehind_of_lt
    (isNaN : notANumber.isNaN = true)
    (ahead : place < before.length) :
    ¬NumbersBehind (before ++ notANumber :: rest) place := by
  intro numbers
  have isNumber := numbers before.length notANumber ahead
    (List.getElem?_append_right le_rfl |>.trans (by rw [Nat.sub_self, List.getElem?_cons_zero]))
  exact absurd (isNaN.symm.trans isNumber) (by decide)

/-- The search does not end before something that is not a number. -/
theorem exists_argmax?_append
    (isNaN : notANumber.isNaN = true)
    (numbers : ∀ score ∈ rest, score.isNaN = false)
    (before : List Float32) :
    ∃ place, argmax? (before ++ notANumber :: rest) = some place ∧ before.length ≤ place := by
  by_cases nonempty : rest = []
  · rw [nonempty]
    exact ⟨before.length, argmax?_concat_of_isNaN isNaN before, le_rfl⟩
  · obtain ⟨place, best, -⟩ := argmax?_append_of_isNaN isNaN nonempty numbers before
    exact ⟨_, best, by omega⟩

/-- Among the numbers that come last, the first of the highest scores is found. -/
theorem argmax?_append_of_lt
    (isNaN : notANumber.isNaN = true)
    (numbers : ∀ score ∈ rest, score.isNaN = false)
    (isFirst : IsFirstHighest (before ++ notANumber :: rest) first)
    (isBehind : before.length < first) :
    argmax? (before ++ notANumber :: rest) = some first := by
  have split : before ++ notANumber :: rest = (before ++ [notANumber]) ++ rest := by
    rw [List.append_assoc, List.singleton_append]
  have length : (before ++ [notANumber]).length = before.length + 1 := List.length_append
  obtain ⟨distance, rfl⟩ : ∃ distance, first = before.length + 1 + distance :=
    ⟨first - (before.length + 1), by omega⟩
  have nonempty : rest ≠ [] := by
    rintro rfl
    have inside := isFirst.1.lt_length
    rw [List.length_append, List.length_singleton] at inside
    omega
  obtain ⟨place, best, isPlace⟩ := argmax?_append_of_isNaN isNaN nonempty numbers before
  rw [IsFirstHighest, split, ← length] at isFirst
  have atMost : place ≤ distance := isPlace.2 isFirst.1.of_append_right
  have atLeast := isFirst.2 (isFirst.1.append_left isPlace.1)
  obtain rfl : place = distance := by omega
  exact best

/-- The first of the highest scores does not stand where something is not a number. -/
theorem IsFirstHighest.ne_length
    (isFirst : IsFirstHighest (before ++ notANumber :: rest) first)
    (isNaN : notANumber.isNaN = true) :
    first ≠ before.length := by
  rintro rfl
  obtain ⟨score, isScore, isNumber, -⟩ := isFirst.1
  rw [List.getElem?_append_right le_rfl, Nat.sub_self, List.getElem?_cons_zero] at isScore
  rw [← Option.some.inj isScore, isNaN] at isNumber
  cases isNumber

end Restart

/-- The search ends behind everything that is not a number, and not before the first of the highest
scores. It ends with that one just if everything behind it is a number. -/
theorem argmax?_eq_first_iff
    {scores : List Float32}
    {first : Nat}
    (isFirst : IsFirstHighest scores first) :
    ∃ place,
      argmax? scores = some place ∧
      first ≤ place ∧
      NumbersBehind scores place ∧
      (place = first ↔ NumbersBehind scores first) := by
  by_cases unordered : ∃ score ∈ scores, score.isNaN = true
  · obtain ⟨before, notANumber, rest, rfl, isNaN, numbers⟩ := exists_last_isNaN unordered
    rcases lt_or_gt_of_ne (isFirst.ne_length isNaN) with ahead | isBehind
    · obtain ⟨place, best, atLeast⟩ := exists_argmax?_append isNaN numbers before
      refine ⟨place, best, by omega, numbersBehind_of_length_le numbers atLeast, ?_⟩
      exact iff_of_false (by omega) (not_numbersBehind_of_lt isNaN ahead)
    · have numbersBehind : NumbersBehind (before ++ notANumber :: rest) first :=
        numbersBehind_of_length_le numbers isBehind.le
      exact ⟨first, argmax?_append_of_lt isNaN numbers isFirst isBehind, le_rfl, numbersBehind,
        iff_of_true rfl numbersBehind⟩
  · simp only [not_exists, not_and, Bool.not_eq_true] at unordered
    have behind (place : Nat) : NumbersBehind scores place := fun _ score _ isScore =>
      unordered score (List.mem_of_getElem? isScore)
    have nonempty : scores ≠ [] := List.ne_nil_of_length_pos (Nat.zero_lt_of_lt isFirst.1.lt_length)
    obtain ⟨place, best, isPlace⟩ := argmax?_of_numbers nonempty unordered
    have same : place = first := isPlace.unique isFirst
    exact ⟨place, best, same.ge, behind place, fun _ => behind first, fun _ => same⟩

end Scores

/-- The class that is predicted by single precision scores, some of which are numbers: it stands behind
everything that is not a number, and is the first of the highest just if that one stands there, too. -/
theorem argmax_eq_first_iff
    {scores : Tensor}
    {values : Array Float32}
    (areSingles : scores.elements = .f32 values)
    (ordered : ∃ score ∈ values.toList, score.isNaN = false) :
    ∃ first place,
      Scores.IsFirstHighest values.toList first ∧
      argmax scores = .ok place ∧
      first ≤ place ∧
      Scores.NumbersBehind values.toList place ∧
      (place = first ↔ Scores.NumbersBehind values.toList first) := by
  obtain ⟨first, isFirst⟩ := Scores.exists_isFirstHighest ordered
  obtain ⟨place, best, atLeast, behind, found⟩ := Scores.argmax?_eq_first_iff isFirst
  refine ⟨first, place, isFirst, ?_, atLeast, behind, found⟩
  rw [argmax, areSingles, Elements.singles, best]

open Single (nan)

/-- The tensor of some single precision scores. -/
def singleScores (values : List Float32) : Tensor :=
  ⟨[values.length], .f32 values.toArray, (Nat.mul_one _).symm⟩

/-- Two equal scores behind one that is not a number: the first of them is found. -/
theorem argmax_singleScores :
    argmax (singleScores [nan, 1, 3, 3, 2]) = .ok 2 ∧
      Scores.IsFirstHighest [nan, 1, 3, 3, 2] 2 := by
  have areSingles : (singleScores [nan, 1, 3, 3, 2]).elements =
      .f32 #[nan, 1, 3, 3, 2] := rfl
  obtain ⟨first, place, isFirst, best, -, -, found⟩ :=
    argmax_eq_first_iff areSingles ⟨1, by simp, by decide +kernel⟩
  have isPlace : argmax (singleScores [nan, 1, 3, 3, 2]) = .ok 2 := by decide +kernel
  have same : place = 2 := Except.ok.inj (best.symm.trans isPlace)
  have behind : Scores.NumbersBehind [nan, 1, 3, 3, 2] first := by
    rintro (_ | later) score isLater isScore
    · cases isLater
    · have numbers : ∀ score ∈ [(1 : Float32), 3, 3, 2], score.isNaN = false := by decide +kernel
      exact numbers score (List.mem_of_getElem? isScore)
  rw [← found.mpr behind, same] at isFirst
  exact ⟨isPlace, isFirst⟩

/-- The highest score is forgotten where something that is not a number follows. -/
theorem argmax_forgets_highest :
    argmax (singleScores [5, nan, 1]) = .ok 2 ∧ Scores.IsFirstHighest [5, nan, 1] 0 := by
  have highest : ∀ other ∈ [(5 : Float32), nan, 1], ¬(5 : Float32) < other := by decide +kernel
  exact ⟨by decide +kernel, ⟨5, rfl, by decide +kernel, highest⟩, fun _ _ => Nat.zero_le _⟩

end Holdout
