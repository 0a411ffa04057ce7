import Holdout.Journal

/-!
# Pulling again and again

Something that is pulled from hands out one thing after the other, and nothing once it has
run out. What it still has to hand out is a list that each pull shortens at the front; a
pull from an empty list brings nothing.
-/

namespace Holdout

/-- So many pulls, one after the other, with what each of them brings. -/
def pullTimes (pull : σ → Logged (Option ι × σ)) : Nat → σ → Logged (List (Option ι) × σ)
  | 0, stand => pure ([], stand)
  | count + 1, stand => do
    let (first, stand) ← pull stand
    let (others, stand) ← pullTimes pull count stand
    return (first :: others, stand)

@[simp] theorem pullTimes_zero (pull : σ → Logged (Option ι × σ)) (stand : σ) :
    (pullTimes pull 0 stand).value = ([], stand) := rfl

@[simp] theorem pullTimes_succ (pull : σ → Logged (Option ι × σ)) (count : Nat) (stand : σ) :
    (pullTimes pull (count + 1) stand).value =
      ((pull stand).value.1 :: (pullTimes pull count (pull stand).value.2).value.1,
        (pullTimes pull count (pull stand).value.2).value.2) := rfl

theorem events_pullTimes_succ (pull : σ → Logged (Option ι × σ)) (count : Nat) (stand : σ) :
    (pullTimes pull (count + 1) stand).events =
      (pull stand).events ++ (pullTimes pull count (pull stand).value.2).events :=
  congrArg _ (List.append_nil _)

/-- One pull more. -/
theorem pullTimes_concat (pull : σ → Logged (Option ι × σ)) (count : Nat) (stand : σ) :
    pullTimes pull (count + 1) stand =
      ⟨((pullTimes pull count stand).value.1 ++
          [(pull (pullTimes pull count stand).value.2).value.1],
        (pull (pullTimes pull count stand).value.2).value.2),
        (pullTimes pull count stand).events ++
          (pull (pullTimes pull count stand).value.2).events⟩ := by
  have first (count : Nat) (stand : σ) : pullTimes pull (count + 1) stand =
      ⟨((pull stand).value.1 :: (pullTimes pull count (pull stand).value.2).value.1,
        (pullTimes pull count (pull stand).value.2).value.2),
        (pull stand).events ++ (pullTimes pull count (pull stand).value.2).events⟩ :=
    congrArg (Logged.mk _) (events_pullTimes_succ pull count stand)
  induction count generalizing stand with
  | zero =>
    rw [first]
    simp [pullTimes]
  | succ count inductionHypothesis => rw [first, inductionHypothesis, first]; simp

/-- From wherever the invariant holds, a pull brings the first of the things that are still to
come and keeps the others. -/
def HandsOut
    (pull : σ → Logged (Option ι × σ))
    (invariant : σ → Prop)
    (toCome : σ → List ι) : Prop :=
  ∀ stand, invariant stand →
    (pull stand).value.1 = (toCome stand).head? ∧
      toCome (pull stand).value.2 = (toCome stand).tail ∧
      invariant (pull stand).value.2

/-- Any number of pulls bring the things to come in order, and then nothing more. -/
theorem HandsOut.pullTimes_eq
    {pull : σ → Logged (Option ι × σ)}
    {invariant : σ → Prop}
    {toCome : σ → List ι}
    (handsOut : HandsOut pull invariant toCome)
    (count : Nat)
    {stand : σ}
    (holds : invariant stand) :
    (pullTimes pull count stand).value.1 =
      (List.range count).map fun call => (toCome stand)[call]? := by
  induction count generalizing stand with
  | zero => rfl
  | succ count inductionHypothesis =>
    obtain ⟨first, others, kept⟩ := handsOut stand holds
    rw [pullTimes_succ, List.range_succ_eq_map, List.map_cons, List.map_map]
    simp only [first, inductionHypothesis kept, others, List.head?_eq_getElem?,
      List.getElem?_tail]
    rfl

end Holdout
