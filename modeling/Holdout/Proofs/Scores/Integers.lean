import Holdout.Proofs.Scores.Search
import Holdout.Proofs.Single.Whole

/-!
# Scores that are integers

Integers are compared as single precision numbers, that is, rounded. So the class that is predicted is
the first one whose rounded score is highest. It never stands behind the first of the highest scores, and
stands before that one just if an earlier score is rounded to the same number.
-/

namespace Holdout
namespace Scores

open Single

variable {α β : Type} {items : List α} {first place : Nat}

/-- The item at a place has the highest key. -/
def HasMaximum [LE β] (key : α → β) (items : List α) (place : Nat) : Prop :=
  ∃ item, items[place]? = some item ∧ ∀ other ∈ items, key other ≤ key item

/-- The place is the first one whose item has the highest key. -/
def IsFirstMaximum [LE β] (key : α → β) (items : List α) (place : Nat) : Prop :=
  IsLeast {place | HasMaximum key items place} place

theorem exists_isFirstMaximum [LinearOrder β] (key : α → β) (nonempty : items ≠ []) :
    ∃ first, IsFirstMaximum key items first := by
  classical
  obtain ⟨top, among, highest⟩ := items.toFinset.exists_max_image key
    (List.toFinset_nonempty_iff items |>.mpr nonempty)
  obtain ⟨place, isTop⟩ := List.mem_iff_getElem?.mp (List.mem_toFinset.mp among)
  have maximum : HasMaximum key items place :=
    ⟨top, isTop, fun other isOther => highest other (List.mem_toFinset.mpr isOther)⟩
  exact ⟨_, isLeast_csInf ⟨place, maximum⟩⟩

/-- Scores that are in the order of keys are highest where the keys are. -/
theorem isHighest_map_iff
    [LE β]
    {key : α → β}
    {score : α → Float32}
    (numbers : ∀ item ∈ items, (score item).isNaN = false)
    (ordered : ∀ item ∈ items, ∀ other ∈ items,
      rank (score other) ≤ rank (score item) ↔ key other ≤ key item) :
    IsHighest (items.map score) place ↔ HasMaximum key items place := by
  have notBelow : ∀ item ∈ items, ∀ other ∈ items,
      ¬score item < score other ↔ key other ≤ key item := by
    intro item among other isOther
    rw [lt_iff_rank_lt (numbers item among) (numbers other isOther), not_lt]
    exact ordered item among other isOther
  constructor
  · rintro ⟨top, isTop, -, highest⟩
    rw [List.getElem?_map] at isTop
    obtain ⟨item, isItem, rfl⟩ := Option.map_eq_some_iff.mp isTop
    refine ⟨item, isItem, ?_⟩
    intro other isOther
    rw [← notBelow item (List.mem_of_getElem? isItem) other isOther]
    exact highest (score other) (List.mem_map_of_mem isOther)
  · rintro ⟨item, isItem, highest⟩
    have among := List.mem_of_getElem? isItem
    refine ⟨score item, by rw [List.getElem?_map, isItem, Option.map_some], numbers item among, ?_⟩
    intro otherScore isScore
    obtain ⟨other, isOther, rfl⟩ := List.mem_map.mp isScore
    exact (notBelow item among other isOther).mpr (highest other isOther)

/-- The best of scores that are in the order of keys stands where the keys are highest first. -/
theorem argmax?_map
    [LE β]
    (key : α → β)
    (score : α → Float32)
    (nonempty : items ≠ [])
    (numbers : ∀ item ∈ items, (score item).isNaN = false)
    (ordered : ∀ item ∈ items, ∀ other ∈ items,
      rank (score other) ≤ rank (score item) ↔ key other ≤ key item) :
    ∃ place, argmax? (items.map score) = some place ∧ IsFirstMaximum key items place := by
  have scores : ∀ number ∈ items.map score, number.isNaN = false := by
    intro number isNumber
    obtain ⟨item, among, rfl⟩ := List.mem_map.mp isNumber
    exact numbers item among
  obtain ⟨place, best, isPlace⟩ := argmax?_of_numbers (List.map_eq_nil_iff.not.mpr nonempty) scores
  simp only [IsFirstHighest, isHighest_map_iff numbers ordered] at isPlace
  exact ⟨place, best, isPlace⟩

section Coarser

variable [LinearOrder β] {γ : Type} [LinearOrder γ] {key : α → β} {coarse : β → γ}

/-- By a coarser key the first of the highest stands no later. -/
theorem IsFirstMaximum.le_of_monotone
    (monotone : Monotone coarse)
    (isFirst : IsFirstMaximum key items first)
    (isPlace : IsFirstMaximum (fun item => coarse (key item)) items place) :
    place ≤ first := by
  obtain ⟨top, isTop, highest⟩ := isFirst.1
  exact isPlace.2 ⟨top, isTop, fun other isOther => monotone (highest other isOther)⟩

/-- It stands at the same place just if the coarser keys before it are less than its own. -/
theorem IsFirstMaximum.eq_iff_of_monotone
    (monotone : Monotone coarse)
    (isFirst : IsFirstMaximum key items first)
    (isPlace : IsFirstMaximum (fun item => coarse (key item)) items place) :
    place = first ↔
      ∀ earlier item top,
        earlier < first → items[earlier]? = some item → items[first]? = some top →
        coarse (key item) < coarse (key top) := by
  constructor
  · rintro rfl earlier item top before isItem isTop
    by_contra notBelow
    obtain ⟨same, isTopToo, highest⟩ := isPlace.1
    obtain rfl := Option.some.inj (isTop.symm.trans isTopToo)
    have maximum : HasMaximum (fun item => coarse (key item)) items earlier :=
      ⟨item, isItem, fun other isOther => (highest other isOther).trans (not_lt.mp notBelow)⟩
    exact absurd (isPlace.2 maximum) before.not_ge
  · intro below
    rcases (isFirst.le_of_monotone monotone isPlace).lt_or_eq with before | same
    · obtain ⟨item, isItem, highest⟩ := isPlace.1
      obtain ⟨top, isTop, -⟩ := isFirst.1
      exact absurd (highest top (List.mem_of_getElem? isTop))
        (below place item top before isItem isTop).not_ge
    · exact same

end Coarser

/-- The first of the highest has only less before it. -/
theorem IsFirstMaximum.lt_of_lt
    [LinearOrder β]
    {key : α → β}
    {earlier : Nat}
    {item top : α}
    (isFirst : IsFirstMaximum key items first)
    (before : earlier < first)
    (isItem : items[earlier]? = some item)
    (isTop : items[first]? = some top) :
    key item < key top :=
  (isFirst.eq_iff_of_monotone (monotone_id : Monotone (id : β → β)) isFirst).mp rfl
    earlier item top before isItem isTop

end Scores

/-- The class that is predicted by scores that are integers of 64 digits: the first whose rounded score
is highest. It does not stand behind the first of the highest scores, and is that one just if every
earlier score is less once rounded, too. So it is with scores that are kept by rounding. -/
theorem argmax_of_integers
    {scores : Tensor}
    {values : Array Int64}
    (areIntegers : scores.elements = .i64 values)
    (nonempty : values.toList ≠ []) :
    ∃ first place,
      Scores.IsFirstMaximum Int64.toInt values.toList first ∧
      Scores.IsFirstMaximum (fun value => singleInt value.toInt) values.toList place ∧
      argmax scores = .ok place ∧
      place ≤ first ∧
      (place = first ↔
        ∀ earlier value top,
          earlier < first → values.toList[earlier]? = some value →
          values.toList[first]? = some top →
          singleInt value.toInt < singleInt top.toInt) ∧
      ((∀ value ∈ values.toList, value.toInt.natAbs ≤ 2 ^ 24) → place = first) := by
  have bounded (value : Int64) : value.toInt.natAbs < 2 ^ 64 := by
    have low := value.le_toInt
    have high := value.toInt_lt
    omega
  have monotone : Monotone singleInt := fun _ _ atMost => singleInt_mono atMost
  obtain ⟨first, isFirst⟩ := Scores.exists_isFirstMaximum Int64.toInt nonempty
  obtain ⟨place, best, isPlace⟩ := Scores.argmax?_map
    (fun value : Int64 => singleInt value.toInt) (fun value => Float32.ofInt value.toInt)
    nonempty (fun value _ => Single.isNaN_ofInt (bounded value))
    (fun value _ other _ => Single.rank_ofInt_le_iff (bounded other) (bounded value))
  have found := isFirst.eq_iff_of_monotone monotone isPlace
  refine ⟨first, place, isFirst, isPlace, ?_, isFirst.le_of_monotone monotone isPlace, found, ?_⟩
  · rw [argmax, areIntegers, Elements.singles, best]
  · intro small
    rw [found]
    intro earlier value top before isValue isTop
    rw [singleInt_of_natAbs_le (small value (List.mem_of_getElem? isValue)),
      singleInt_of_natAbs_le (small top (List.mem_of_getElem? isTop))]
    exact isFirst.lt_of_lt before isValue isTop

/-- The tensor of some scores that are integers. -/
def integerScores (values : List Int64) : Tensor :=
  ⟨[values.length], .i64 values.toArray, (Nat.mul_one _).symm⟩

/-- Of two equal scores the first is found. -/
theorem argmax_integerScores :
    argmax (integerScores [2, 7, 7, -8]) = .ok 1 ∧
      Scores.IsFirstMaximum Int64.toInt [2, 7, 7, -8] 1 := by
  have areIntegers : (integerScores [2, 7, 7, -8]).elements = .i64 #[2, 7, 7, -8] := rfl
  obtain ⟨first, place, isFirst, -, best, -, -, kept⟩ :=
    argmax_of_integers areIntegers (by decide)
  have isPlace : argmax (integerScores [2, 7, 7, -8]) = .ok 1 := by decide +kernel
  have same : place = 1 := Except.ok.inj (best.symm.trans isPlace)
  rw [← kept (by simp), same] at isFirst
  exact ⟨isPlace, isFirst⟩

/-- Two scores that differ are rounded to the same number. -/
theorem argmax_rounds_integers :
    argmax (integerScores [16777216, 16777217]) = .ok 0 ∧
      Scores.IsFirstMaximum Int64.toInt [16777216, 16777217] 1 := by
  refine ⟨by decide +kernel, ⟨16777217, rfl, by simp⟩, ?_⟩
  rintro (_ | place) ⟨value, isValue, highest⟩
  · obtain rfl := Option.some.inj isValue
    exact absurd (highest 16777217 (by simp)) (by simp)
  · exact Nat.succ_le_succ (Nat.zero_le place)

end Holdout
