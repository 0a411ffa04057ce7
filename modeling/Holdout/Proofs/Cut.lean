import Holdout.Proofs.Dataset
import Holdout.Proofs.Source

/-!
# Streams cut short

A stream that ends as soon as it has brought a given number of record results. It has the items of
the stream that is cut, in order, up to the one that brings the last of the results; that one is
shortened if it stands for more results than are left.
-/

namespace Holdout
namespace Source

/-- The source with every stream cut after so many record results. A stream stands at a place of
the stream that is cut, with the number of the results that are left. -/
def cut (source : Source τ σ) (kind : SetKind) (limit : Nat) : Source τ (σ × Nat) where
  openStream memory request := do
    let (opened, memory) ← source.openStream memory request
    return (opened.map (·, limit), memory)
  pull
    | (place, 0) => return (none, place, 0)
    | (place, left + 1) => do
      let (item, place) ← source.pull place
      match item with
      | none => return (none, place, left + 1)
      | some item =>
        return (some (kind.shorten (left + 1) item), place,
          left + 1 - (kind.results item).length)

section Cut

variable {source : Source τ σ} {kind : SetKind} {limit : Nat}

theorem openStream_cut (memory : τ) (request : LoadRequest) :
    ((source.cut kind limit).openStream memory request).value.1 =
      (source.openStream memory request).value.1.map (·, limit) := rfl

theorem pull_cut {place next : σ} {item : ItemResult} {left : Nat}
    (positive : 0 < left)
    (pulled : (source.pull place).value = (some item, next)) :
    ((source.cut kind limit).pull (place, left)).value =
      (some (kind.shorten left item), next, left - (kind.results item).length) := by
  obtain ⟨fewer, isLeft⟩ := Nat.exists_eq_succ_of_ne_zero positive.ne'
  rw [isLeft]
  simp only [cut, Logged.value_bind, pulled, Logged.value_pure]

theorem ends_cut_iff {place : σ} {left : Nat} :
    (source.cut kind limit).Ends (place, left) ↔ left = 0 ∨ source.Ends place := by
  cases left with
  | zero => exact iff_of_true rfl (Or.inl rfl)
  | succ left =>
    rcases pulled : (source.pull place).value with ⟨item, next⟩
    cases item with
    | none =>
      simp only [Ends, cut, Logged.value_bind, pulled, Logged.value_pure]
      simp
    | some item => simp [Ends, pull_cut (Nat.succ_pos left) pulled, pulled]

/-- Items of which each is needed for the results before the cut are brought by the cut stream,
the last of them perhaps shortened. -/
theorem Brings.cut
    {place final : σ}
    {items : List ItemResult}
    (brings : source.Brings place items final)
    (kind : SetKind)
    (limit left : Nat)
    (needed : ∀ earlier last, items = earlier ++ [last] →
      (earlier.flatMap kind.results).length < left) :
    ∃ others,
      (source.cut kind limit).Brings (place, left) others
        (final, left - (items.flatMap kind.results).length) ∧
      others.flatMap kind.results = (items.flatMap kind.results).take left := by
  induction brings generalizing left with
  | nothing place => exact ⟨[], .nothing _, (List.take_nil).symm⟩
  | @item place next final item items pulled _ inductionHypothesis =>
    have positive : 0 < left :=
      Nat.zero_lt_of_lt (needed _ _ (List.dropLast_append_getLast (List.cons_ne_nil _ _)).symm)
    have neededBehind : ∀ earlier last, items = earlier ++ [last] →
        (earlier.flatMap kind.results).length < left - (kind.results item).length := by
      intro earlier last split
      have before := needed (item :: earlier) last (by rw [split, List.cons_append])
      rw [List.flatMap_cons, List.length_append] at before
      omega
    obtain ⟨others, bringsOthers, results⟩ := inductionHypothesis _ neededBehind
    refine ⟨kind.shorten left item :: others, .item (pull_cut positive pulled) ?_, ?_⟩
    · rw [List.flatMap_cons, List.length_append, Nat.sub_add_eq]
      exact bringsOthers
    · rw [List.flatMap_cons, List.flatMap_cons, kind.results_shorten positive, results,
        List.take_append]

/-- A cut stream brings what the stream brings, up to the cut. -/
theorem Brings.of_cut
    {stand final : σ × Nat}
    {others : List ItemResult}
    (brings : (source.cut kind limit).Brings stand others final) :
    ∃ items,
      source.Brings stand.1 items final.1 ∧
      final.2 = stand.2 - (items.flatMap kind.results).length ∧
      others.flatMap kind.results = (items.flatMap kind.results).take stand.2 := by
  induction brings with
  | nothing stand => exact ⟨[], .nothing _, rfl, List.take_nil.symm⟩
  | @item stand next final other others pulled _ inductionHypothesis =>
    obtain ⟨items, brings, left, results⟩ := inductionHypothesis
    obtain ⟨place, count⟩ := stand
    cases count with
    | zero => cases pulled
    | succ count =>
      rcases pulledThere : (source.pull place).value with ⟨item, there⟩
      cases item with
      | none =>
        have ends : (source.cut kind limit).Ends (place, count + 1) :=
          ends_cut_iff.mpr (Or.inr (congrArg Prod.fst pulledThere))
        rw [Ends, pulled] at ends
        cases ends
      | some item =>
        rw [pull_cut (Nat.succ_pos count) pulledThere, Prod.mk.injEq, Option.some.injEq] at pulled
        obtain ⟨isOther, isNext⟩ := pulled
        rw [← isNext] at brings left results
        refine ⟨item :: items, .item pulledThere brings, ?_, ?_⟩
        · rw [left, List.flatMap_cons, List.length_append, Nat.sub_add_eq]
        · rw [← isOther, List.flatMap_cons, List.flatMap_cons,
            kind.results_shorten (Nat.succ_pos count), results, List.take_append]

/-- A beginning of a stream is brought by items of which each is needed for it. -/
theorem BeginsWith.needed
    {place : σ}
    {results : List RecordResult}
    (begins : source.BeginsWith kind place results) :
    ∃ items final,
      source.Brings place items final ∧
      results <+: items.flatMap kind.results ∧
      ∀ earlier last, items = earlier ++ [last] →
        (earlier.flatMap kind.results).length < results.length := by
  obtain ⟨items, final, brings, within⟩ := begins
  induction brings generalizing results with
  | nothing place =>
    refine ⟨[], place, .nothing _, within, ?_⟩
    intro earlier last none
    simp at none
  | @item place next final item items pulled _ inductionHypothesis =>
    rcases List.eq_nil_or_concat results with none | ⟨others, last, split⟩
    · rw [none]
      refine ⟨[], place, .nothing _, List.nil_prefix, ?_⟩
      intro earlier last none
      simp at none
    have one : 0 < results.length := by
      rw [split, List.concat_eq_append, List.length_append, List.length_singleton]
      omega
    rw [List.flatMap_cons] at within
    rcases Nat.lt_or_ge (kind.results item).length results.length with more | enough
    · -- The item is used up, and others bring the results behind it.
      obtain ⟨behind, split⟩ :=
        List.prefix_of_prefix_length_le (List.prefix_append _ _) within more.le
      rw [← split, List.prefix_append_right_inj] at within
      obtain ⟨others, stand, brings, begins, needed⟩ := inductionHypothesis within
      refine ⟨item :: others, stand, .item pulled brings, ?_, ?_⟩
      · rw [← split, List.flatMap_cons, List.prefix_append_right_inj]
        exact begins
      · intro earlier last same
        cases earlier with
        | nil => exact one
        | cons first rest =>
          rw [List.cons_append, List.cons.injEq] at same
          have before := needed rest last same.2
          rw [← split, ← same.1, List.flatMap_cons, List.length_append, List.length_append]
          exact Nat.add_lt_add_left before _
    · refine ⟨[item], next, .item pulled (.nothing _), ?_, ?_⟩
      · rw [List.flatMap_singleton]
        exact List.prefix_of_prefix_length_le within (List.prefix_append _ _) enough
      · intro earlier last same
        cases earlier with
        | nil => exact one
        | cons first rest => simp at same

/-- The results of a cut stream are those of the stream, as many as the limit allows. -/
theorem beginsWith_cut_iff {place : σ} {left : Nat} {results : List RecordResult} :
    (source.cut kind limit).BeginsWith kind (place, left) results ↔
      results.length ≤ left ∧ source.BeginsWith kind place results := by
  constructor
  · rintro ⟨others, final, brings, begins⟩
    obtain ⟨items, bringsItems, -, same⟩ := brings.of_cut
    rw [same, List.prefix_take_iff] at begins
    exact ⟨begins.2, items, final.1, bringsItems, begins.1⟩
  · rintro ⟨within, begins⟩
    obtain ⟨items, final, brings, begun, needed⟩ := begins.needed
    obtain ⟨others, bringsOthers, same⟩ := brings.cut kind limit left
      fun earlier last split => Nat.lt_of_lt_of_le (needed earlier last split) within
    refine ⟨others, _, bringsOthers, ?_⟩
    rw [same, List.prefix_take_iff]
    exact ⟨begun, within⟩

end Cut

end Source
end Holdout
