import Mathlib.Data.List.GetD
import Mathlib.Order.Bounds.Basic
import Holdout.Proofs.Nesting
import Holdout.Proofs.RecordStream

/-!
# Results that come when they are asked for

A stream that has handed over some results has pulled the items that they come from and no others:
an item is pulled when all results of the items before it have been handed over and one more is asked
for. So the number of items that have been pulled is the least that brings so many results.
-/

namespace Holdout
namespace RecordStream

/-- A stream has handed over so many results. They come from the items it has taken, of which each
was needed for them, and its source has others up to a place. -/
structure HandedOver
    (source : Source τ σ)
    (kind : SetKind)
    (opened stand : σ)
    (given : Nat)
    (taken rest : List ItemResult)
    (stream : RecordStream σ) : Prop where
  isKind : stream.kind = kind
  streaming : stream.state = .streaming
  brought : source.Brings opened taken stream.items
  brings : source.Brings stream.items rest stand
  pending : stream.pending = (taken.flatMap kind.results).drop given
  enough : given ≤ (taken.flatMap kind.results).length
  needed : ∀ earlier last, taken = earlier ++ [last] →
    (earlier.flatMap kind.results).length < given

variable {source : Source τ σ} {kind : SetKind} {opened stand : σ} {given : Nat}
  {taken rest : List ItemResult} {stream : RecordStream σ}

/-- At the beginning nothing has been pulled. -/
theorem handedOver_new
    (brings : source.Brings opened rest stand) :
    (RecordStream.new kind opened).HandedOver source kind opened stand 0 [] rest where
  isKind := rfl
  streaming := rfl
  brought := .nothing opened
  brings := brings
  pending := rfl
  enough := Nat.zero_le _
  needed earlier last none := by simp at none

/-- What has been handed over has been pulled, and no item too many. -/
theorem HandedOver.isLeast
    (handedOver : stream.HandedOver source kind opened stand given taken rest) :
    IsLeast {count | given ≤ (((taken ++ rest).take count).flatMap kind.results).length}
      taken.length := by
  constructor
  · rw [Set.mem_ofPred_eq, List.take_left]
    exact handedOver.enough
  · intro count many
    by_contra fewer
    rw [Nat.not_le] at fewer
    obtain ⟨earlier, last, split⟩ : ∃ earlier last, taken = earlier ++ [last] := by
      rcases List.eq_nil_or_concat' taken with none | some
      · rw [none] at fewer
        cases fewer
      · exact some
    have within : (taken ++ rest).take count <+: earlier := by
      rw [List.take_append_of_le_length (Nat.le_of_lt fewer), split, List.take_append_of_le_length]
      · exact List.take_prefix _ _
      · rw [split, List.length_append] at fewer
        exact Nat.le_of_lt_succ fewer
    have short := (Source.flatMap_prefix within kind).length_le
    have needed := handedOver.needed earlier last split
    rw [Set.mem_ofPred_eq] at many
    omega

/-- What is pending goes on with the results of further items. -/
theorem HandedOver.pending_append
    (handedOver : stream.HandedOver source kind opened stand given taken rest)
    (further : List ItemResult) :
    stream.pending ++ further.flatMap stream.kind.results =
      ((taken ++ further).flatMap kind.results).drop given := by
  rw [handedOver.isKind, handedOver.pending, List.flatMap_append,
    List.drop_append_of_le_length handedOver.enough]

/-- Feeding a reader of one result hands over the next one. -/
theorem HandedOver.fed
    (handedOver : stream.HandedOver source kind opened stand given taken rest)
    {more others : List ItemResult}
    {left : σ}
    {outcome : Option RecordResult × RecordStream σ}
    (feeds : Feeds source Option.isNone (fun _ result => pure (some result)) stream none more left
      outcome)
    (behind : source.Brings left others stand)
    (comes : outcome.1.isSome = true) :
    outcome.2.HandedOver source kind opened stand (given + 1) (taken ++ more) others := by
  have reader := feeds.reader_eq
  have stops := feeds.stops
  rw [handed, feedPending_one, handedOver.pending_append] at reader stops
  rcases stops with ⟨-, stopped⟩ | ⟨wanted, -⟩
  · rw [stopped]
    refine ⟨handedOver.isKind, rfl, handedOver.brought.append feeds.brings, behind,
      List.tail_drop, ?_, ?_⟩
    · rw [reader, List.isSome_head?, ← List.length_pos_iff, List.length_drop] at comes
      omega
    · intro earlier last same
      rcases List.eq_nil_or_concat' more with none | ⟨before, final, isMore⟩
      · rw [none, List.append_nil] at same
        exact Nat.lt_succ_of_lt (handedOver.needed earlier last same)
      · -- The last item was pulled when nothing of the items before it was left.
        have wanted := feeds.needed before final isMore
        rw [handed, feedPending_one, handedOver.pending_append, Option.isNone_iff_eq_none,
          List.head?_eq_none_iff, List.drop_eq_nil_iff] at wanted
        rw [isMore, ← List.append_assoc] at same
        rw [← (List.append_inj' same rfl).1]
        exact Nat.lt_succ_of_le wanted
  · rw [Option.isNone_iff_eq_none] at wanted
    rw [wanted] at comes
    cases comes

/-- If there is another result, it comes when it is asked for, from the items that are needed. -/
theorem HandedOver.next
    (handedOver : stream.HandedOver source kind opened stand given taken rest)
    (another : given < ((taken ++ rest).flatMap kind.results).length) :
    ∃ run more others,
      (stream.next source).run? = some run ∧
      run.value.1 = ((taken ++ rest).flatMap kind.results).getD given (.error .exhausted) ∧
      rest = more ++ others ∧
      run.value.2.HandedOver source kind opened stand (given + 1) (taken ++ more) others := by
  have nonempty : stream.pending ++ rest.flatMap stream.kind.results ≠ [] := by
    rw [handedOver.pending_append, ← List.length_pos_iff, List.length_drop]
    omega
  have streaming : stream = ⟨stream.kind, stream.items, stream.pending, .streaming⟩ := by
    rw [← handedOver.streaming]
  have owes : stream.OwesUntil source stand
      (stream.pending ++ rest.flatMap stream.kind.results) := by
    rw [streaming]
    exact .streaming handedOver.brings
  obtain ⟨run, isRun, first, -⟩ := next?_of_owesUntil owes (.inl nonempty)
  have pulling : feedPulling source Option.isNone (fun _ result => pure (some result)) stream none =
      some run := by
    rw [next?, feed, handedOver.streaming] at isRun
    exact isRun
  obtain ⟨more, left, feeds⟩ := feeds_of_feedPulling handedOver.streaming pulling
  obtain ⟨others, split, behind⟩ := Feeds.rest handedOver.brings (.inl nonempty) (streaming ▸ feeds)
  have comes : run.value.1.isSome = true := by
    rw [first, List.isSome_head?]
    exact nonempty
  refine ⟨_, more, others, run?_next isRun, ?_, split, handedOver.fed feeds behind comes⟩
  rw [first, handedOver.pending_append, List.head?_drop, List.getD_eq_getElem?_getD]

/-- As many results as there are come when they are asked for, in order. -/
theorem HandedOver.nexts
    (handedOver : stream.HandedOver source kind opened stand given taken rest)
    (count : Nat)
    (enough : given + count ≤ ((taken ++ rest).flatMap kind.results).length) :
    ∃ run more others,
      (RecordStream.nexts source count stream).run? = some run ∧
      run.value.1 = (((taken ++ rest).flatMap kind.results).drop given).take count ∧
      rest = more ++ others ∧
      run.value.2.HandedOver source kind opened stand (given + count) (taken ++ more) others := by
  induction count generalizing stream given taken rest with
  | zero =>
    refine ⟨_, [], rest, rfl, rfl, rfl, ?_⟩
    rw [List.append_nil]
    exact handedOver
  | succ count inductionHypothesis =>
    have another : given < ((taken ++ rest).flatMap kind.results).length := by omega
    obtain ⟨one, more, others, isOne, first, split, behind⟩ := handedOver.next another
    have same : taken ++ rest = taken ++ more ++ others := by rw [split, List.append_assoc]
    have enoughBehind : given + 1 + count ≤
        ((taken ++ more ++ others).flatMap kind.results).length := by
      rw [← same]
      omega
    obtain ⟨run, further, left, areOthers, answers, splitToo, handedOn⟩ :=
      inductionHypothesis behind enoughBehind
    refine ⟨⟨(one.value.1 :: run.value.1, run.value.2), one.events ++ (run.events ++ [])⟩,
      more ++ further, left, ?_, ?_, ?_, ?_⟩
    · rw [RecordStream.nexts, Course.run?_bind, isOne, Option.bind_some, Course.run?_bind,
        areOthers]
      rfl
    · rw [first, answers, ← same, List.drop_eq_getElem_cons another, List.take_succ_cons,
        List.getD_eq_getElem _ _ another]
    · rw [split, splitToo, List.append_assoc]
    · rw [← List.append_assoc, Nat.add_comm count, ← Nat.add_assoc]
      exact handedOn

end RecordStream

/-- The results of a pass over articles are what the items stand for, one item after the other: the
questions of an article in the order in which they are nested, or one error. Whenever results have
been handed over, as few items have been pulled as they can come from. If the items end, so do the
results. An article stands for its questions just if it is well-formed. -/
theorem articles_flatten_lazily
    (source : Source τ σ)
    {opened stand : σ}
    {items : List ItemResult}
    (brings : source.Brings opened items stand) :
    (∀ count ≤ (items.flatMap flattened).length,
      ∃ run,
        (RecordStream.nexts source.counting count (.new .squad ⟨opened, 0, 0⟩)).run? = some run ∧
        run.value.1 = (items.flatMap flattened).take count ∧
        IsLeast {pulled | count ≤ ((items.take pulled).flatMap flattened).length}
          run.value.2.items.asked) ∧
    (source.Ends stand →
      ∀ count, ∃ run,
        (RecordStream.nexts source.counting count (.new .squad ⟨opened, 0, 0⟩)).run? = some run ∧
        run.value.1 = (List.range count).map fun place =>
          (items.flatMap flattened).getD place (.error .exhausted)) ∧
    ∀ article,
      (Demand.firstUnmet? article.articleDemands = none ↔
        ∃ paragraphs, article.IsArticle paragraphs) ∧
      ∀ paragraphs, article.IsArticle paragraphs →
        flattened (.ok (.row article)) =
          questionResults (paragraphs.flatMap Paragraph.records) := by
  have results : SetKind.squad.results = flattened := funext SetKind.results_squad
  have counted := brings.counting 0 0
  refine ⟨?_, ?_, fun article =>
    ⟨firstUnmet?_articleDemands_eq_none_iff, fun paragraphs => flattened_of_isArticle⟩⟩
  · rw [← results]
    intro count enough
    have handedOver : (RecordStream.new .squad ⟨opened, 0, 0⟩).HandedOver source.counting .squad
        ⟨opened, 0, 0⟩ _ 0 [] items := RecordStream.handedOver_new counted
    have within : 0 + count ≤ (([] ++ items).flatMap SetKind.squad.results).length := by
      rw [Nat.zero_add]
      exact enough
    obtain ⟨run, more, others, comes, answers, split, behind⟩ := handedOver.nexts count within
    refine ⟨run, comes, answers, ?_⟩
    have asked : run.value.2.items.asked = more.length :=
      behind.brought.of_counting.2.1.trans (Nat.zero_add _)
    have least := behind.isLeast
    rw [List.nil_append, ← split, Nat.zero_add, ← asked] at least
    exact least
  · rw [← results]
    intro ends count
    have owes : (RecordStream.new .squad ⟨opened, 0, 0⟩).Owes source.counting
        (items.flatMap SetKind.squad.results) := .streaming counted ends
    exact RecordStream.nexts_of_owes owes count

/-- An article without a context, behind a paragraph in which nothing is missing. -/
def contextless : Json :=
  .object [("paragraphs", .array
    [QuestionRecord.paragraph ⟨"Rollo was a Viking.", "Who was Rollo?"⟩,
      .object [("qas", .array [.object []])]])]

/-- Two questions, no question, a flaw, a sample, a failure and a question. -/
def mixedItems : List ItemResult :=
  [.ok (.row (QuestionRecord.article [⟨"c", "q"⟩, ⟨"d", "r"⟩])),
    .ok (.row (QuestionRecord.article [])),
    .ok (.row contextless),
    .ok (.sample (.new "a")),
    .error (.within .io),
    .ok (.row (QuestionRecord.article [⟨"e", "s"⟩]))]

/-- A source of these items. -/
def mixedSource : Source Nat (List ItemResult) := .scripted fun _ => .ok mixedItems

/-- The third result comes from the third item, behind an article without questions, and nothing is
told of the question that the third article has. The last item comes through, and then the end. -/
theorem mixedSource_flattens_lazily :
    mixedSource.Brings mixedItems mixedItems [] ∧ mixedSource.Ends [] ∧
      (∃ run,
        (RecordStream.nexts mixedSource.counting 3 (.new .squad ⟨mixedItems, 0, 0⟩)).run? = some run ∧
        run.value.1 =
          [.ok (.question ⟨"c", "q"⟩), .ok (.question ⟨"d", "r"⟩),
            .error (.malformedRecord "squad-v1.1" (.missingString "context"))] ∧
        run.value.2.items.asked = 3) ∧
      ∃ run,
        (RecordStream.nexts mixedSource.counting 7 (.new .squad ⟨mixedItems, 0, 0⟩)).run? = some run ∧
        run.value.1 =
          [.ok (.question ⟨"c", "q"⟩), .ok (.question ⟨"d", "r"⟩),
            .error (.malformedRecord "squad-v1.1" (.missingString "context")),
            .error (.malformedRecord "squad-v1.1" (.notArticle "sample")),
            .error (.stream (.within .io)), .ok (.question ⟨"e", "s"⟩), .error .exhausted] := by
  have brings : mixedSource.Brings mixedItems mixedItems [] :=
    Source.brings_scripted (fun _ => .ok mixedItems) mixedItems
  obtain ⟨lazily, whole, -⟩ := articles_flatten_lazily mixedSource brings
  refine ⟨brings, rfl, ?_, whole rfl 7⟩
  obtain ⟨run, comes, answers, enough, least⟩ := lazily 3 (by decide +kernel)
  refine ⟨run, comes, answers, ?_⟩
  have atMost : run.value.2.items.asked ≤ 3 := least (by decide +kernel)
  generalize run.value.2.items.asked = asked at enough atMost
  have notFewer : ∀ fewer < 3,
      ¬3 ≤ ((mixedItems.take fewer).flatMap flattened).length := by
    decide +kernel
  by_contra other
  exact notFewer asked (by omega) enough

end Holdout
