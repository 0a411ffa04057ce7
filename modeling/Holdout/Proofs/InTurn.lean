import Mathlib.Data.List.Forall2

/-!
# Reading in turn

A reader that is run over values, one after the other, comes to results just if it reads each of the
values as the result in its place. A state that is taken along keeps what every step keeps.
-/

namespace Holdout

theorem bind_eq_ok_iff {first : Except ε α} {next : α → Except ε β} {result : β} :
    first >>= next = .ok result ↔ ∃ value, first = .ok value ∧ next value = .ok result := by
  constructor
  · intro done
    cases first with
    | error failure => cases done
    | ok value => exact ⟨value, rfl, done⟩
  · rintro ⟨value, rfl, done⟩
    exact done

theorem foldlM_preserves
    {step : σ → α → Except ε σ}
    {Holds : σ → Prop}
    (preserves : ∀ {state value next}, Holds state → step state value = .ok next → Holds next)
    {values : List α}
    {start last : σ}
    (holds : Holds start)
    (done : values.foldlM step start = .ok last) :
    Holds last := by
  induction values generalizing start with
  | nil =>
    rw [← Except.ok.inj done]
    exact holds
  | cons value rest inductionHypothesis =>
    rw [List.foldlM_cons] at done
    obtain ⟨next, stepped, done⟩ := bind_eq_ok_iff.mp done
    exact inductionHypothesis (preserves holds stepped) done

theorem mapM_eq_some_iff {read : α → Option β} {values : List α} {results : List β} :
    values.mapM read = some results ↔
      List.Forall₂ (fun value result => read value = some result) values results := by
  induction values generalizing results with
  | nil =>
    rw [List.mapM_nil, List.forall₂_nil_left_iff]
    exact Option.some_inj.trans eq_comm
  | cons value rest inductionHypothesis =>
    simp only [List.mapM_cons, Option.bind_eq_bind, Option.bind_eq_some_iff, inductionHypothesis,
      List.forall₂_cons_left_iff]
    constructor
    · rintro ⟨result, isRead, others, areRead, same⟩
      exact ⟨result, others, isRead, areRead, (Option.some.inj same).symm⟩
    · rintro ⟨result, others, isRead, areRead, same⟩
      exact ⟨result, isRead, others, areRead, congrArg some same.symm⟩

theorem mapM_eq_ok_iff {read : α → Except ε β} {values : List α} {results : List β} :
    values.mapM read = .ok results ↔
      List.Forall₂ (fun value result => read value = .ok result) values results := by
  constructor
  · intro all
    induction values generalizing results with
    | nil =>
      rw [← Except.ok.inj all]
      exact .nil
    | cons value rest inductionHypothesis =>
      rw [List.mapM_cons] at all
      cases isRead : read value with
      | error failure =>
        rw [isRead] at all
        cases all
      | ok result =>
        cases areRead : rest.mapM read with
        | error failure =>
          rw [isRead, areRead] at all
          cases all
        | ok others =>
          rw [isRead, areRead] at all
          rw [← Except.ok.inj all]
          exact .cons isRead (inductionHypothesis areRead)
  · intro each
    induction each with
    | nil => rfl
    | cons isRead _ inductionHypothesis =>
      rw [List.mapM_cons, isRead, inductionHypothesis]
      rfl

end Holdout
