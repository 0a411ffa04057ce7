import Mathlib.Data.ENat.Lattice
import Mathlib.Order.CompletePartialOrder
import Holdout.Dataset

/-!
# What a stream brings

The items that pulling brings one after the other, and the record results that they stand for.
A stream need not end, so the number of its record results may be infinite; if it ends, every
beginning of it belongs to what it has brought by then.
-/

namespace Holdout
namespace Source

/-- Pulling brings these items and leaves the stream at a place. -/
inductive Brings (source : Source τ σ) : σ → List ItemResult → σ → Prop
  | nothing (stand : σ) : Brings source stand [] stand
  | item {stand next final : σ} {item : ItemResult} {items : List ItemResult} :
      (source.pull stand).value = (some item, next) → Brings source next items final →
        Brings source stand (item :: items) final

/-- The next pull tells the end of the stream. -/
def Ends (source : Source τ σ) (stand : σ) : Prop := (source.pull stand).value.1 = none

theorem Brings.append
    {source : Source τ σ}
    {stand middle final : σ}
    {items others : List ItemResult}
    (brings : source.Brings stand items middle)
    (bringsOthers : source.Brings middle others final) :
    source.Brings stand (items ++ others) final := by
  induction brings with
  | nothing stand => exact bringsOthers
  | item pulled _ inductionHypothesis => exact .item pulled (inductionHypothesis bringsOthers)

/-- The longer of two runs of pulls from a place goes on from where the other stops. -/
theorem Brings.rest_of_length_le
    {source : Source τ σ}
    {stand one other : σ}
    {first second : List ItemResult}
    (shorter : source.Brings stand first one)
    (longer : source.Brings stand second other)
    (length : first.length ≤ second.length) :
    ∃ rest, second = first ++ rest ∧ source.Brings one rest other := by
  induction shorter generalizing second with
  | nothing stand => exact ⟨second, rfl, longer⟩
  | item pulled _ inductionHypothesis =>
    cases longer with
    | nothing => cases length
    | item pulledAgain others =>
      rw [pulled, Prod.mk.injEq, Option.some.injEq] at pulledAgain
      obtain ⟨sameItem, samePlace⟩ := pulledAgain
      rw [← samePlace] at others
      obtain ⟨rest, split, behind⟩ :=
        inductionHypothesis others (Nat.le_of_succ_le_succ length)
      rw [← sameItem, split]
      exact ⟨rest, rfl, behind⟩

theorem Brings.prefix_of_length_le
    {source : Source τ σ}
    {stand one other : σ}
    {first second : List ItemResult}
    (shorter : source.Brings stand first one)
    (longer : source.Brings stand second other)
    (length : first.length ≤ second.length) :
    first <+: second := by
  obtain ⟨rest, split, -⟩ := shorter.rest_of_length_le longer length
  exact ⟨rest, split.symm⟩

/-- Nothing is brought beyond the end of a stream. -/
theorem Brings.prefix_of_ends
    {source : Source τ σ}
    {stand final other : σ}
    {items others : List ItemResult}
    (brings : source.Brings stand items final)
    (ends : source.Ends final)
    (bringsOthers : source.Brings stand others other) :
    others <+: items := by
  induction brings generalizing others with
  | nothing stand =>
    cases bringsOthers with
    | nothing => exact List.nil_prefix
    | item pulled _ =>
      rw [Ends, pulled] at ends
      cases ends
  | item pulled _ inductionHypothesis =>
    cases bringsOthers with
    | nothing => exact List.nil_prefix
    | item pulledAgain rest =>
      rw [pulled, Prod.mk.injEq, Option.some.injEq] at pulledAgain
      obtain ⟨sameItem, samePlace⟩ := pulledAgain
      rw [← samePlace] at rest
      rw [sameItem]
      exact List.prefix_cons_inj _ |>.mpr (inductionHypothesis ends rest)

/-- A stream that comes to its end has brought all of its items. -/
theorem Brings.eq_of_ends
    {source : Source τ σ}
    {stand final other : σ}
    {items others : List ItemResult}
    (brings : source.Brings stand items final)
    (ends : source.Ends final)
    (bringsOthers : source.Brings stand others other)
    (endsToo : source.Ends other) :
    items = others :=
  (bringsOthers.prefix_of_ends endsToo brings).eq_of_length_le
    (brings.prefix_of_ends ends bringsOthers).length_le

/-- Pulls that have not come to the end of a stream are followed by others that do. -/
theorem Brings.rest_of_ends
    {source : Source τ σ}
    {stand final other : σ}
    {items others : List ItemResult}
    (brings : source.Brings stand items final)
    (ends : source.Ends final)
    (bringsOthers : source.Brings stand others other) :
    ∃ rest, items = others ++ rest ∧ source.Brings other rest final :=
  bringsOthers.rest_of_length_le brings (brings.prefix_of_ends ends bringsOthers).length_le

/-- Nothing but the end comes at the end of a stream. -/
theorem Brings.eq_nil_of_ends
    {source : Source τ σ}
    {stand final : σ}
    {items : List ItemResult}
    (brings : source.Brings stand items final)
    (ends : source.Ends stand) :
    items = [] ∧ final = stand := by
  cases brings with
  | nothing => exact ⟨rfl, rfl⟩
  | item pulled _ =>
    rw [Ends, pulled] at ends
    cases ends

/-- A place in a stream, with what was done on the way to it. -/
structure Counted (σ : Type) where
  place : σ
  /-- How often the stream was asked for an item. -/
  asked : Nat
  /-- How many items it had. -/
  brought : Nat

/-- The source whose streams count how often they are asked, and what they bring. -/
def counting (source : Source τ σ) : Source τ (Counted σ) where
  openStream memory request := do
    let (opened, memory) ← source.openStream memory request
    return (opened.map (⟨·, 0, 0⟩), memory)
  pull counted := do
    let (item, place) ← source.pull counted.place
    return (item, ⟨place, counted.asked + 1, counted.brought + item.toList.length⟩)

theorem pull_counting (source : Source τ σ) (counted : Counted σ) :
    (source.counting.pull counted).value =
      ((source.pull counted.place).value.1,
        ⟨(source.pull counted.place).value.2, counted.asked + 1,
          counted.brought + (source.pull counted.place).value.1.toList.length⟩) := rfl

theorem events_pull_counting (source : Source τ σ) (counted : Counted σ) :
    (source.counting.pull counted).events = (source.pull counted.place).events :=
  List.append_nil _

/-- Counting does not change what a stream brings. -/
theorem Brings.counting
    {source : Source τ σ}
    {stand final : σ}
    {items : List ItemResult}
    (brings : source.Brings stand items final)
    (asked brought : Nat) :
    source.counting.Brings ⟨stand, asked, brought⟩ items
      ⟨final, asked + items.length, brought + items.length⟩ := by
  induction brings generalizing asked brought with
  | nothing stand => exact .nothing _
  | @item stand next final item items pulled _ inductionHypothesis =>
    have counted : (source.counting.pull ⟨stand, asked, brought⟩).value =
        (some item, ⟨next, asked + 1, brought + 1⟩) := by
      rw [pull_counting, pulled]
      rfl
    refine .item counted ?_
    rw [List.length_cons, Nat.add_comm items.length, ← Nat.add_assoc, ← Nat.add_assoc]
    exact inductionHypothesis (asked + 1) (brought + 1)

/-- Every pull that has brought an item is counted, and no other. -/
theorem Brings.of_counting
    {source : Source τ σ}
    {stand final : Counted σ}
    {items : List ItemResult}
    (brings : source.counting.Brings stand items final) :
    source.Brings stand.place items final.place ∧
      final.asked = stand.asked + items.length ∧
      final.brought = stand.brought + items.length := by
  induction brings with
  | nothing stand => exact ⟨.nothing _, rfl, rfl⟩
  | @item stand next final item items pulled _ inductionHypothesis =>
    obtain ⟨behind, asked, brought⟩ := inductionHypothesis
    rw [pull_counting, Prod.mk.injEq] at pulled
    obtain ⟨isItem, isNext⟩ := pulled
    have place : (source.pull stand.place).value = (some item, next.place) := by
      rw [← isItem, ← isNext]
    have askedNext : next.asked = stand.asked + 1 := by rw [← isNext]
    have broughtNext : next.brought = stand.brought + 1 := by
      rw [← isNext, isItem]
      rfl
    refine ⟨.item place behind, ?_, ?_⟩
    · rw [asked, askedNext, List.length_cons]
      omega
    · rw [brought, broughtNext, List.length_cons]
      omega

/-- A stream that is a list brings the beginnings of the list, and leaves the rest. -/
theorem brings_scripted_iff
    {outcome : Nat → Except Failure (List ItemResult)}
    {list items rest : List ItemResult} :
    (scripted outcome).Brings list items rest ↔ list = items ++ rest := by
  constructor
  · intro brings
    induction brings with
    | nothing list => rfl
    | @item list next rest item items pulled _ inductionHypothesis =>
      cases list with
      | nil => cases pulled
      | cons first others =>
        have same : (some first, others) = (some item, next) := pulled
        rw [Prod.mk.injEq, Option.some.injEq] at same
        rw [same.1, same.2, inductionHypothesis]
        rfl
  · intro split
    rw [split]
    induction items generalizing list with
    | nil => exact .nothing _
    | cons item items inductionHypothesis => exact .item rfl (inductionHypothesis rfl)

/-- It ends behind the last item of the list. -/
theorem ends_scripted_iff
    {outcome : Nat → Except Failure (List ItemResult)}
    {rest : List ItemResult} :
    (scripted outcome).Ends rest ↔ rest = [] := by
  cases rest with
  | nil => exact iff_of_true rfl rfl
  | cons item rest =>
    exact iff_of_false (Option.some_ne_none item) (List.cons_ne_nil item rest)

theorem brings_scripted
    (outcome : Nat → Except Failure (List ItemResult))
    (items : List ItemResult) :
    (scripted outcome).Brings items items [] :=
  brings_scripted_iff.mpr (List.append_nil items).symm

/-- Pulling from a list lets nothing happen but that an item is pulled. -/
theorem events_pull_scripted
    (outcome : Nat → Except Failure (List ItemResult))
    (rest : List ItemResult) :
    ∀ event ∈ ((scripted outcome).pull rest).events, event = .pulled := by
  cases rest with
  | nil => exact List.forall_mem_nil _
  | cons item rest => exact List.forall_mem_singleton.mpr rfl

/-- The record results of the items to come begin with these. -/
def BeginsWith
    (source : Source τ σ)
    (kind : SetKind)
    (stand : σ)
    (results : List RecordResult) : Prop :=
  ∃ items final, source.Brings stand items final ∧ results <+: items.flatMap kind.results

/-- The number of record results before the end of a stream, which need not be finite. -/
noncomputable def resultCount (source : Source τ σ) (kind : SetKind) (stand : σ) : ℕ∞ :=
  ⨆ results : { results // source.BeginsWith kind stand results }, (results.val.length : ℕ∞)

theorem flatMap_prefix
    {items others : List ItemResult}
    (goesOn : items <+: others)
    (kind : SetKind) :
    items.flatMap kind.results <+: others.flatMap kind.results := by
  obtain ⟨more, same⟩ := goesOn
  rw [← same, List.flatMap_append]
  exact List.prefix_append _ _

/-- Two beginnings of a stream agree as far as both go. -/
theorem BeginsWith.prefix_of_length_le
    {source : Source τ σ}
    {kind : SetKind}
    {stand : σ}
    {first second : List RecordResult}
    (one : source.BeginsWith kind stand first)
    (other : source.BeginsWith kind stand second)
    (length : first.length ≤ second.length) :
    first <+: second := by
  obtain ⟨items, _, brings, begins⟩ := one
  obtain ⟨others, _, bringsOthers, beginsToo⟩ := other
  rcases Nat.le_total items.length others.length with shorter | longer
  · have further := flatMap_prefix (brings.prefix_of_length_le bringsOthers shorter) kind
    exact List.prefix_of_prefix_length_le (begins.trans further) beginsToo length
  · have further := flatMap_prefix (bringsOthers.prefix_of_length_le brings longer) kind
    exact List.prefix_of_prefix_length_le begins (beginsToo.trans further) length

theorem BeginsWith.length_le_resultCount
    {source : Source τ σ}
    {kind : SetKind}
    {stand : σ}
    {results : List RecordResult}
    (begins : source.BeginsWith kind stand results) :
    (results.length : ℕ∞) ≤ source.resultCount kind stand :=
  le_iSup (fun results : { results // source.BeginsWith kind stand results } =>
    (results.val.length : ℕ∞)) ⟨results, begins⟩

/-- A stream that ends has the record results of the items before its end. -/
theorem resultCount_of_ends
    {source : Source τ σ}
    {stand final : σ}
    {items : List ItemResult}
    (brings : source.Brings stand items final)
    (ends : source.Ends final)
    (kind : SetKind) :
    source.resultCount kind stand = (items.flatMap kind.results).length := by
  apply le_antisymm
  · apply iSup_le
    intro ⟨results, others, _, bringsOthers, begins⟩
    have within := flatMap_prefix (brings.prefix_of_ends ends bringsOthers) kind
    exact Nat.cast_le.mpr (begins.trans within).length_le
  · have whole : source.BeginsWith kind stand (items.flatMap kind.results) :=
      ⟨items, final, brings, List.prefix_refl _⟩
    exact whole.length_le_resultCount

end Source
end Holdout
