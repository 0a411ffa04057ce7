import Holdout.Proofs.Dataset
import Holdout.Proofs.Evaluation.Walk
import Holdout.Proofs.Source

/-!
# Streams without malformed items

A malformed item stands for one malformed record and for nothing else, and no other item has such a
record among its results. So the malformed items of a stream can be left out, and the results that
remain are those that are well-formed.
-/

namespace Holdout

/-- The item stands for a malformed record. -/
def SetKind.isMalformedItem (kind : SetKind) (item : ItemResult) : Bool :=
  (kind.results item).any isMalformed

/-- The items that are not malformed. -/
def SetKind.sieve (kind : SetKind) (items : List ItemResult) : List ItemResult :=
  items.filter fun item => !kind.isMalformedItem item

namespace SetKind

@[simp] theorem sieve_append (kind : SetKind) (first second : List ItemResult) :
    kind.sieve (first ++ second) = kind.sieve first ++ kind.sieve second :=
  List.filter_append ..

/-- A malformed item has one result, and the results of any other are well-formed. -/
theorem results_of_isMalformedItem (kind : SetKind) (item : ItemResult) :
    (kind.isMalformedItem item = true ∧
      ∃ dataset flaw, kind.results item = [.error (.malformedRecord dataset flaw)]) ∨
    (kind.isMalformedItem item = false ∧
      ∀ result ∈ kind.results item, isMalformed result = false) := by
  rw [isMalformedItem]
  rcases kind.results_cases item with
    ⟨result, single, -⟩ | ⟨row, questions, isSquad, isRow, read⟩
  · rw [single, List.any_cons, List.any_nil, Bool.or_false]
    cases malformed : isMalformed result with
    | false =>
      right
      exact ⟨rfl, List.forall_mem_singleton.mpr malformed⟩
    | true =>
      left
      cases result with
      | ok record => cases malformed
      | error error =>
        cases error with
        | malformedRecord dataset flaw => exact ⟨rfl, dataset, flaw, rfl⟩
        | _ => cases malformed
  · right
    have wellFormed : ∀ result ∈ kind.results item, isMalformed result = false := by
      rw [isSquad, isRow, results_article read]
      intro result among
      obtain ⟨question, -, isResult⟩ := List.mem_map.mp among
      rw [← isResult]
      rfl
    refine ⟨List.any_eq_false.mpr ?_, wellFormed⟩
    intro result among
    rw [wellFormed result among]
    exact Bool.false_ne_true

/-- The results of the items that are not malformed are the results that are not. -/
theorem flatMap_sieve (kind : SetKind) (items : List ItemResult) :
    (kind.sieve items).flatMap kind.results =
      (items.flatMap kind.results).filter fun result => !isMalformed result := by
  induction items with
  | nil => rfl
  | cons item rest inductionHypothesis =>
    rw [List.flatMap_cons, List.filter_append, ← inductionHypothesis, sieve, List.filter_cons]
    rcases kind.results_of_isMalformedItem item with
      ⟨malformed, dataset, flaw, single⟩ | ⟨unmalformed, wellFormed⟩
    · rw [malformed, single]
      rfl
    · have kept : (kind.results item).filter (fun result => !isMalformed result) =
          kind.results item := by
        apply List.filter_eq_self.mpr
        intro result among
        rw [wellFormed result among]
        rfl
      rw [unmalformed, kept]
      rfl

/-- There are as many malformed records as malformed items. -/
theorem countP_flatMap_results (kind : SetKind) (items : List ItemResult) :
    (items.flatMap kind.results).countP isMalformed = items.countP kind.isMalformedItem := by
  induction items with
  | nil => rfl
  | cons item rest inductionHypothesis =>
    rw [List.flatMap_cons, List.countP_append, inductionHypothesis, List.countP_cons]
    rcases kind.results_of_isMalformedItem item with
      ⟨malformed, dataset, flaw, single⟩ | ⟨unmalformed, wellFormed⟩
    · rw [malformed, single, if_pos rfl, Nat.add_comm]
      rfl
    · have none : (kind.results item).countP isMalformed = 0 := by
        apply List.countP_eq_zero.mpr
        intro result among
        rw [wellFormed result among]
        exact Bool.false_ne_true
      rw [unmalformed, none, if_neg Bool.false_ne_true, Nat.zero_add, Nat.add_zero]

end SetKind

namespace Source

/-- One stream is another without its malformed items: they bring the same items but for these,
and both come to an end or neither does. Only a stream that goes on with malformed items for ever
has no such other. -/
structure Sieved
    (source : Source τ σ)
    (place : σ)
    (sieved : Source υ ρ)
    (other : ρ)
    (kind : SetKind) : Prop where
  /-- Whatever the stream brings, the other brings without the malformed items. -/
  forth : ∀ items stand, source.Brings place items stand →
    ∃ rest, sieved.Brings other (kind.sieve items) rest ∧ (source.Ends stand → sieved.Ends rest)
  /-- The other brings nothing else. -/
  back : ∀ others rest, sieved.Brings other others rest →
    ∃ items stand, source.Brings place items stand ∧ kind.sieve items = others ∧
      (sieved.Ends rest → source.Ends stand)

/-- What two sources open to: nothing for the same reason, or streams of which one is the other
without its malformed items. -/
inductive OpensSieved (source : Source τ σ) (sieved : Source υ ρ) (kind : SetKind) :
    Except Failure σ → Except Failure ρ → Prop
  | unopened (cause : Failure) : OpensSieved source sieved kind (.error cause) (.error cause)
  | opened {place : σ} {other : ρ} :
      source.Sieved place sieved other kind →
        OpensSieved source sieved kind (.ok place) (.ok other)

/-- The malformed items of any list can be left out. -/
theorem sieved_scripted
    (outcome others : Nat → Except Failure (List ItemResult))
    (kind : SetKind)
    (list : List ItemResult) :
    (scripted outcome).Sieved list (scripted others) (kind.sieve list) kind where
  forth items stand brings := by
    rw [brings_scripted_iff] at brings
    refine ⟨kind.sieve stand, brings_scripted_iff.mpr ?_, ?_⟩
    · rw [brings, SetKind.sieve_append]
    · rw [ends_scripted_iff, ends_scripted_iff]
      intro none
      rw [none]
      rfl
  back kept rest brings := by
    rw [brings_scripted_iff] at brings
    by_cases none : rest = []
    · refine ⟨list, [], brings_scripted outcome list, ?_, fun _ => rfl⟩
      rw [brings, none, List.append_nil]
    · obtain ⟨items, stand, split, isKept, -⟩ := List.filter_eq_append_iff.mp brings
      refine ⟨items, stand, brings_scripted_iff.mpr split, isKept, ?_⟩
      rw [ends_scripted_iff]
      exact fun ended => absurd ended none

end Source
end Holdout
