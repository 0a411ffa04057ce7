import Mathlib.Data.List.DropRight
import Holdout.Proofs.Scores.Search

/-!
# Where the search begins anew

Behind the last score that is not a number the search finds the first of the highest scores, as if there
were no others. If nothing stands behind it, the search ends with that score itself. So what comes before
it has no influence.
-/

namespace Holdout
namespace Scores

open Single

/-- The place behind the last score that is not a number, or the first place if all of them are. -/
def restart (scores : List Float32) : Nat := (scores.rdropWhile fun score => !score.isNaN).length

/-- From `start` on, no score is higher than the one at a place. -/
def IsMaximumFrom (scores : List Float32) (start place : Nat) : Prop :=
  start ≤ place ∧
    ∃ score, scores[place]? = some score ∧ ∀ other ∈ scores.drop start, other ≤ score

section Restart

variable {scores before others rest : List Float32} {notANumber score : Float32} {place : Nat}

theorem restart_of_numbers (numbers : ∀ score ∈ scores, score.isNaN = false) :
    restart scores = 0 := by
  have dropped : scores.rdropWhile (fun score => !score.isNaN) = [] :=
    List.rdropWhile_eq_nil_iff.mpr fun score among => by rw [numbers score among]; rfl
  rw [restart, dropped, List.length_nil]

theorem restart_append
    (isNaN : notANumber.isNaN = true)
    (numbers : ∀ score ∈ rest, score.isNaN = false)
    (before : List Float32) :
    restart (before ++ notANumber :: rest) = before.length + 1 := by
  have kept : ∀ score ∈ rest.reverse, (!score.isNaN) = true := fun score among => by
    rw [numbers score (List.mem_reverse.mp among)]
    rfl
  have stays : ¬(!notANumber.isNaN) = true := by
    rw [isNaN]
    exact Bool.false_ne_true
  rw [restart, List.rdropWhile, List.reverse_append, List.reverse_cons, List.append_assoc,
    List.dropWhile_append_of_pos kept, List.singleton_append,
    List.dropWhile_cons_of_neg (p := fun score : Float32 => !score.isNaN) stays,
    List.length_reverse, List.length_cons, List.length_reverse]

/-- Scores that are numbers are all of them, or stand behind the last one that is not. -/
theorem restart_cases (scores : List Float32) :
    (restart scores = 0 ∧ ∀ score ∈ scores, score.isNaN = false) ∨
      ∃ before notANumber rest,
        scores = before ++ notANumber :: rest ∧
        notANumber.isNaN = true ∧
        (∀ score ∈ rest, score.isNaN = false) ∧
        restart scores = before.length + 1 := by
  by_cases unordered : ∃ score ∈ scores, score.isNaN = true
  · right
    obtain ⟨before, notANumber, rest, rfl, isNaN, numbers⟩ := exists_last_isNaN unordered
    exact ⟨before, notANumber, rest, rfl, isNaN, numbers, restart_append isNaN numbers before⟩
  · left
    simp only [not_exists, not_and, Bool.not_eq_true] at unordered
    exact ⟨restart_of_numbers unordered, unordered⟩

theorem drop_append_cons (before rest : List Float32) (notANumber : Float32) :
    (before ++ notANumber :: rest).drop (before.length + 1) = rest := by
  rw [List.drop_length_add_append, List.drop_one, List.tail_cons]

/-- Behind a place with nothing but numbers, the highest scores are the maximal ones. -/
theorem isMaximumFrom_iff
    {start : Nat}
    (numbers : ∀ score ∈ scores.drop start, score.isNaN = false) :
    IsMaximumFrom scores start (start + place) ↔ IsHighest (scores.drop start) place := by
  rw [IsMaximumFrom, IsHighest, and_iff_right (Nat.le_add_right start place), List.getElem?_drop]
  apply exists_congr
  intro score
  apply and_congr_right
  intro isScore
  have isNumber : score.isNaN = false :=
    numbers score (List.mem_of_getElem? (List.getElem?_drop.trans isScore))
  rw [and_iff_right isNumber]
  apply forall₂_congr
  intro other among
  rw [lt_iff_rank_lt isNumber (numbers other among), not_lt,
    le_iff_rank_le (numbers other among) isNumber]

theorem isLeast_of_isFirstHighest
    {start : Nat}
    (numbers : ∀ score ∈ scores.drop start, score.isNaN = false)
    (isFirst : IsFirstHighest (scores.drop start) place) :
    IsLeast {place | IsMaximumFrom scores start place} (start + place) := by
  refine ⟨(isMaximumFrom_iff numbers).mpr isFirst.1, ?_⟩
  intro other isMaximum
  obtain ⟨distance, rfl⟩ := Nat.exists_eq_add_of_le isMaximum.1
  exact Nat.add_le_add_left (isFirst.2 ((isMaximumFrom_iff numbers).mp isMaximum)) start

/-- The search ends with the first of the highest scores behind the place where it begins anew. -/
theorem argmax?_of_getLast
    (isLast : scores.getLast? = some score)
    (isNumber : score.isNaN = false) :
    ∃ place,
      argmax? scores = some place ∧
      IsLeast {place | IsMaximumFrom scores (restart scores) place} place := by
  have nonempty : scores ≠ [] := by
    rintro rfl
    cases isLast
  rcases restart_cases scores with
    ⟨atFirst, numbers⟩ | ⟨before, notANumber, rest, rfl, isNaN, numbers, behind⟩
  · obtain ⟨place, best, isFirst⟩ := argmax?_of_numbers nonempty numbers
    have least : IsLeast {place | IsMaximumFrom scores 0 place} (0 + place) :=
      isLeast_of_isFirstHighest numbers isFirst
    rw [Nat.zero_add] at least
    rw [atFirst]
    exact ⟨place, best, least⟩
  · have more : rest ≠ [] := by
      rintro rfl
      rw [List.getLast?_concat, Option.some.injEq] at isLast
      rw [← isLast, isNaN] at isNumber
      cases isNumber
    obtain ⟨place, best, isFirst⟩ := argmax?_append_of_isNaN isNaN more numbers before
    rw [← drop_append_cons before rest notANumber] at isFirst numbers
    rw [behind]
    exact ⟨_, best, isLeast_of_isFirstHighest numbers isFirst⟩

theorem argmax?_of_getLast_isNaN
    (isLast : scores.getLast? = some notANumber)
    (isNaN : notANumber.isNaN = true) :
    argmax? scores = some (scores.length - 1) := by
  obtain ⟨before, rfl⟩ := List.getLast?_eq_some_iff.mp isLast
  rw [argmax?_concat_of_isNaN isNaN, List.length_append, List.length_singleton,
    Nat.add_sub_cancel]

/-- Whatever stands before a score that is not a number, the search ends at the same place. -/
theorem argmax?_append_congr
    (isNaN : notANumber.isNaN = true)
    (numbers : ∀ score ∈ rest, score.isNaN = false)
    (sameLength : others.length = before.length) :
    argmax? (others ++ notANumber :: rest) = argmax? (before ++ notANumber :: rest) := by
  by_cases nonempty : rest = []
  · rw [nonempty, argmax?_concat_of_isNaN isNaN, argmax?_concat_of_isNaN isNaN, sameLength]
  · obtain ⟨one, isOne, isFirst⟩ := argmax?_append_of_isNaN isNaN nonempty numbers others
    obtain ⟨other, isOther, isFirstToo⟩ := argmax?_append_of_isNaN isNaN nonempty numbers before
    rw [isOne, isOther, sameLength, isFirst.unique isFirstToo]

/-- Scores that agree from the last one that is not a number on have their best at the same place. -/
theorem argmax?_congr
    (sameLength : others.length = scores.length)
    (same : others.drop (restart scores - 1) = scores.drop (restart scores - 1)) :
    argmax? others = argmax? scores := by
  rcases restart_cases scores with
    ⟨atFirst, -⟩ | ⟨before, notANumber, rest, rfl, isNaN, numbers, behind⟩
  · rw [atFirst] at same
    exact congrArg argmax? same
  · rw [behind, Nat.add_sub_cancel, List.drop_left] at same
    have split : others = others.take before.length ++ notANumber :: rest := by
      rw [← same, List.take_append_drop]
    have ahead : (others.take before.length).length = before.length := by
      rw [List.length_take, sameLength, List.length_append]
      omega
    rw [split]
    exact argmax?_append_congr isNaN numbers ahead

theorem argmax?_eq_none_iff : argmax? scores = none ↔ scores = [] := by
  constructor
  · intro absent
    by_contra nonempty
    obtain ⟨score, isLast⟩ :=
      Option.ne_none_iff_exists'.mp (mt List.getLast?_eq_none_iff.mp nonempty)
    cases isNumber : score.isNaN with
    | true =>
      rw [argmax?_of_getLast_isNaN isLast isNumber] at absent
      cases absent
    | false =>
      obtain ⟨place, best, -⟩ := argmax?_of_getLast isLast isNumber
      rw [best] at absent
      cases absent
  · rintro rfl
    rfl

end Restart
end Scores

theorem argmax_eq_ok_iff {scores : Tensor} {place : Nat} :
    argmax scores = .ok place ↔ Scores.argmax? scores.elements.singles = some place := by
  rw [argmax]
  cases Scores.argmax? scores.elements.singles with
  | some best => rw [Except.ok.injEq, Option.some.injEq]
  | none => simp only [reduceCtorEq]

theorem exists_argmax_eq_error_iff {scores : Tensor} :
    (∃ failure, argmax scores = .error failure) ↔ scores.elements.singles = [] := by
  rw [← Scores.argmax?_eq_none_iff, argmax]
  cases Scores.argmax? scores.elements.singles with
  | some best => simp only [reduceCtorEq, exists_false]
  | none => exact iff_of_true ⟨_, rfl⟩ rfl

/-- The class that is predicted by scores in single precision. There is one unless there are no scores. If
the last score is not a number, it is the last class, and else it is the first of those that have the
highest score behind the last one that is not a number. Other scores ahead of that one make no difference,
and if all scores are numbers, the class is the first of those that have the highest score at all. -/
theorem argmax_restarts_behind_isNaN
    {scores : Tensor}
    {singles : List Float32}
    (areSingles : scores.elements.singles = singles) :
    ((∃ failure, argmax scores = .error failure) ↔ singles = []) ∧
      (∀ last, singles.getLast? = some last → last.isNaN = true →
        argmax scores = .ok (singles.length - 1)) ∧
      (∀ last, singles.getLast? = some last → last.isNaN = false →
        ∃ place,
          argmax scores = .ok place ∧
          IsLeast {place | Scores.IsMaximumFrom singles (Scores.restart singles) place} place) ∧
      (∀ others : Tensor,
        others.elements.singles.length = singles.length →
        others.elements.singles.drop (Scores.restart singles - 1) =
          singles.drop (Scores.restart singles - 1) →
        argmax others = argmax scores) ∧
      (singles ≠ [] → (∀ score ∈ singles, score.isNaN = false) →
        ∃ place,
          argmax scores = .ok place ∧
          IsLeast {place | Scores.IsMaximumFrom singles 0 place} place) := by
  rw [← areSingles]
  refine ⟨exists_argmax_eq_error_iff, ?_, ?_, ?_, ?_⟩
  · intro last isLast isNaN
    exact argmax_eq_ok_iff.mpr (Scores.argmax?_of_getLast_isNaN isLast isNaN)
  · intro last isLast isNumber
    obtain ⟨place, best, least⟩ := Scores.argmax?_of_getLast isLast isNumber
    exact ⟨place, argmax_eq_ok_iff.mpr best, least⟩
  · intro others sameLength same
    rw [argmax, argmax, Scores.argmax?_congr sameLength same]
  · intro nonempty numbers
    obtain ⟨last, isLast⟩ :=
      Option.ne_none_iff_exists'.mp (mt List.getLast?_eq_none_iff.mp nonempty)
    obtain ⟨place, best, least⟩ :=
      Scores.argmax?_of_getLast isLast (numbers last (List.mem_of_getLast? isLast))
    rw [Scores.restart_of_numbers numbers] at least
    exact ⟨place, argmax_eq_ok_iff.mpr best, least⟩

open Single (nan)

theorem singles_singleScores (values : List Float32) :
    (singleScores values).elements.singles = values := rfl

/-- Behind the second of two scores that are not numbers, the first of two equal scores is found, whatever
the first score is. A third score that is not a number is found itself. -/
theorem argmax_restarts_twice :
    (argmax (singleScores [9, nan, 7, nan, 2, 3, 3]) = .ok 5 ∧
      IsLeast {place | Scores.IsMaximumFrom [9, nan, 7, nan, 2, 3, 3] 4 place} 5) ∧
      argmax (singleScores [1, nan, 7, nan, 2, 3, 3]) = .ok 5 ∧
      argmax (singleScores [1, 5, nan]) = .ok 2 := by
  have starts : Scores.restart [9, nan, 7, nan, 2, 3, 3] = 4 := by decide +kernel
  have isPlace : argmax (singleScores [9, nan, 7, nan, 2, 3, 3]) = .ok 5 := by decide +kernel
  obtain ⟨-, -, behind, same, -⟩ :=
    argmax_restarts_behind_isNaN (singles_singleScores [9, nan, 7, nan, 2, 3, 3])
  obtain ⟨-, atLast, -⟩ := argmax_restarts_behind_isNaN (singles_singleScores [1, 5, nan])
  obtain ⟨place, best, least⟩ := behind 3 rfl (by decide +kernel)
  rw [isPlace, Except.ok.injEq] at best
  rw [starts] at least same
  rw [← best] at least
  refine ⟨⟨isPlace, least⟩, ?_, atLast nan rfl (by decide +kernel)⟩
  have sameBehind : (singleScores [1, nan, 7, nan, 2, 3, 3]).elements.singles.drop (4 - 1) =
      [9, nan, 7, nan, 2, 3, 3].drop (4 - 1) := by
    simp [singles_singleScores]
  have sameLength : (singleScores [1, nan, 7, nan, 2, 3, 3]).elements.singles.length =
      [(9 : Float32), nan, 7, nan, 2, 3, 3].length := by
    simp [singles_singleScores]
  exact (same _ sameLength sameBehind).trans isPlace

end Holdout
