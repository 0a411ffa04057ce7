import Mathlib.Order.Bounds.Basic
import Holdout.Proofs.Cut
import Holdout.Proofs.Evaluation.Agreement

/-!
# What a limit does to an evaluation

An evaluation with a limit is an evaluation without one over a stream that is cut short, and it
pulls no item that it does not need for the results that the limit allows.
-/

namespace Holdout
namespace Trial

/-- The trial without its limit. -/
def unlimited (trial : Trial ε) : Trial ε :=
  { trial with options := { trial.options with limit := none } }

/-- A limit does not change what is made of a result. -/
theorem take_unlimited (trial : Trial ε) : trial.unlimited.take = trial.take := rfl

theorem wants_unlimited (trial : Trial ε) (progress : Progress ε) :
    trial.unlimited.wants progress = progress.error.isNone :=
  wants_of_no_limit rfl progress

section Limited

variable {trial : Trial ε} {limit : Nat}

theorem wants_iff_of_limit
    (limited : trial.options.limit = some limit)
    {progress : Progress ε} :
    trial.wants progress = true ↔ progress.error = none ∧ progress.tally.seen < limit := by
  rw [wants, limited, Bool.and_eq_true, Option.isNone_iff_eq_none, decide_eq_true_eq]

/-- A result that does not end the pass is counted as seen. -/
theorem seen_take
    {progress : Progress ε}
    {result : RecordResult}
    (noError : (trial.take progress result).value.error = none) :
    (trial.take progress result).value.tally.seen = progress.tally.seen + 1 := by
  have peaceful : ∀ error, ¬trial.Fatal progress.engine result error := by
    intro error fatal
    rw [take_of_fatal fatal] at noError
    cases noError
  rcases take_of_not_fatal peaceful with
    ⟨_, _, -, -, taken⟩ | ⟨_, _, _, _, -, -, -, -, taken⟩
  · rw [taken]
    rfl
  · rw [taken]
    rfl

theorem through_of_error
    {progress : Progress ε}
    (failed : progress.error ≠ none)
    (results : List RecordResult) :
    trial.through results progress = progress := by
  obtain ⟨error, isError⟩ := Option.ne_none_iff_exists'.mp failed
  exact through_of_satisfied (wants_of_error isError) results

/-- A pass without a limit that has not failed has seen all results. -/
theorem seen_through_unlimited
    {results : List RecordResult}
    {progress : Progress ε}
    (noError : (trial.unlimited.through results progress).error = none) :
    (trial.unlimited.through results progress).tally.seen =
      progress.tally.seen + results.length := by
  induction results generalizing progress with
  | nil => rfl
  | cons result rest inductionHypothesis =>
    by_cases failed : progress.error = none
    · have wanted : trial.unlimited.wants progress = true := by
        rw [wants_unlimited, failed]
        rfl
      rw [through_cons_of_wants wanted] at noError ⊢
      have unfailed : (trial.unlimited.take progress result).value.error = none := by
        by_contra error
        rw [through_of_error error] at noError
        exact error noError
      rw [inductionHypothesis noError, seen_take unfailed, List.length_cons]
      omega
    · rw [through_of_error failed] at noError
      exact absurd noError failed

/-- A pass stands after some results where it would stand without a limit after those that its
limit still allows. -/
theorem through_of_limit
    (limited : trial.options.limit = some limit)
    (results : List RecordResult)
    (progress : Progress ε) :
    trial.through results progress =
      trial.unlimited.through (results.take (limit - progress.tally.seen)) progress := by
  induction results generalizing progress with
  | nil => rw [List.take_nil, through_nil, through_nil]
  | cons result rest inductionHypothesis =>
    by_cases failed : progress.error = none
    · rcases Nat.lt_or_ge progress.tally.seen limit with below | reached
      · have wanted : trial.wants progress = true :=
          (wants_iff_of_limit limited).mpr ⟨failed, below⟩
        have wantedToo : trial.unlimited.wants progress = true := by
          rw [wants_unlimited, failed]
          rfl
        obtain ⟨left, isLeft⟩ := Nat.exists_eq_add_of_lt below
        have allowed : limit - progress.tally.seen = left + 1 := by omega
        rw [allowed, List.take_succ_cons, through_cons_of_wants wanted,
          through_cons_of_wants wantedToo, take_unlimited, inductionHypothesis]
        by_cases failedNow : (trial.take progress result).value.error = none
        · rw [seen_take failedNow, Nat.sub_add_eq, allowed, Nat.add_sub_cancel]
        · rw [through_of_error failedNow, through_of_error failedNow]
      · have satisfied : trial.wants progress = false := by
          rw [← Bool.not_eq_true, wants_iff_of_limit limited]
          omega
        rw [through_of_satisfied satisfied, Nat.sub_eq_zero_of_le reached, List.take_zero,
          through_nil]
    · rw [through_of_error failed, through_of_error failed]

theorem through_outset_of_limit
    (limited : trial.options.limit = some limit)
    (results : List RecordResult)
    (state : ε) :
    trial.through results (trial.outset state) =
      trial.unlimited.through (results.take limit) (trial.outset state) :=
  through_of_limit limited results (trial.outset state)

/-- After the results of a stream a pass wants more if it has not failed and if there were fewer
of them than the limit. -/
theorem wants_through_iff
    (limited : trial.options.limit = some limit)
    (results : List RecordResult)
    (state : ε) :
    trial.wants (trial.through results (trial.outset state)) = true ↔
      (trial.through results (trial.outset state)).error = none ∧ results.length < limit := by
  rw [wants_iff_of_limit limited]
  refine and_congr_right ?_
  intro noError
  have start : (trial.outset state).tally.seen = 0 := rfl
  rw [through_outset_of_limit limited] at noError ⊢
  rw [seen_through_unlimited noError, start, List.length_take]
  omega

/-- The pass without a limit over the stream that is cut at one. -/
def readingCut (trial : Trial ε) (limit : Nat) (source : Source τ σ) (opened : σ) (state : ε) :
    Reading τ (σ × Nat) (Progress ε) :=
  trial.unlimited.reading (source.cut trial.kind limit) (opened, limit) state

section Cut

variable (source : Source τ σ) (opened : σ) (state : ε)

theorem wants_reading_iff
    (limited : trial.options.limit = some limit)
    (items : List ItemResult) :
    (trial.reading source opened state).wants
        ((trial.reading source opened state).after items) = true ↔
      ((trial.reading source opened state).after items).error = none ∧
        (items.flatMap trial.kind.results).length < limit :=
  wants_through_iff limited _ state

/-- Over a cut stream a pass wants more as long as nothing has failed. -/
theorem wants_readingCut_iff (progress : Progress ε) :
    (trial.readingCut limit source opened state).wants progress = false ↔
      progress.error ≠ none := by
  change trial.unlimited.wants progress = false ↔ _
  rw [wants_unlimited, Option.isNone_eq_false_iff, Option.isSome_iff_ne_none]

/-- The reader stands where it would without a limit after the results before the cut. -/
theorem after_readingCut
    (limited : trial.options.limit = some limit)
    {items others : List ItemResult}
    (results : others.flatMap trial.kind.results =
      (items.flatMap trial.kind.results).take limit) :
    (trial.reading source opened state).after items =
      (trial.readingCut limit source opened state).after others :=
  (through_outset_of_limit limited _ state).trans
    (congrArg (trial.unlimited.through · _) results.symm)

variable {source opened state}

/-- What suffices for a limit is enough for the cut stream. -/
theorem enough_cut
    (limited : trial.options.limit = some limit)
    {items : List ItemResult}
    {stand : σ}
    (sufficient : (trial.reading source opened state).Suffices items stand) :
    ∃ others rest,
      (trial.readingCut limit source opened state).Enough others rest ∧
      (trial.reading source opened state).after items =
        (trial.readingCut limit source opened state).after others := by
  have needed : ∀ earlier last, items = earlier ++ [last] →
      (earlier.flatMap trial.kind.results).length < limit := by
    intro earlier last split
    exact ((wants_reading_iff _ _ _ limited earlier).mp
      (sufficient.needed earlier last split)).2
  obtain ⟨others, brings, results⟩ := sufficient.brings.cut trial.kind limit limit needed
  have same := after_readingCut source opened state limited results
  refine ⟨others, _, ⟨brings, ?_⟩, same⟩
  rw [wants_readingCut_iff, ← same]
  by_cases failed : ((trial.reading source opened state).after items).error = none
  · refine Or.inr (Source.ends_cut_iff.mpr ?_)
    rcases sufficient.enough with satisfied | ends
    · rw [← Bool.not_eq_true, wants_reading_iff _ _ _ limited, not_and, Nat.not_lt] at satisfied
      exact Or.inl (Nat.sub_eq_zero_of_le (satisfied failed))
    · exact Or.inr ends
  · exact Or.inl failed

/-- What suffices for the cut stream is enough for the limit. -/
theorem enough_of_cut
    (limited : trial.options.limit = some limit)
    {others : List ItemResult}
    {rest : σ × Nat}
    (sufficient : (trial.readingCut limit source opened state).Suffices others rest) :
    ∃ items stand,
      (trial.reading source opened state).Enough items stand ∧
      (trial.reading source opened state).after items =
        (trial.readingCut limit source opened state).after others := by
  obtain ⟨items, brings, left, results⟩ := sufficient.brings.of_cut
  have same := after_readingCut source opened state limited results
  refine ⟨items, rest.1, ⟨brings, ?_⟩, same⟩
  rw [← Bool.not_eq_true, wants_reading_iff _ _ _ limited]
  rcases sufficient.enough with failed | ends
  · left
    rw [wants_readingCut_iff, ← same] at failed
    exact fun more => failed more.1
  · rcases Source.ends_cut_iff.mp ends with none | endsThere
    · left
      rw [left] at none
      exact fun more => (Nat.sub_ne_zero_of_lt more.2) none
    · exact Or.inr endsThere

end Cut

/-- A pass with a limit comes to what a pass without one comes to over the stream that is cut at
the limit. -/
theorem map_run?_reading_cut
    (limited : trial.options.limit = some limit)
    (source : Source τ σ)
    (opened : σ)
    (state : ε) :
    (trial.reading source opened state).run?.map (fun run => run.value.1.result) =
      (trial.readingCut limit source opened state).run?.map fun run => run.value.1.result := by
  refine Reading.map_run?_eq Progress.result Progress.result ?_ ?_
  · intro items stand sufficient
    obtain ⟨others, rest, enough, same⟩ := enough_cut limited sufficient
    exact ⟨others, rest, enough, congrArg Progress.result same⟩
  · intro others rest sufficient
    obtain ⟨items, stand, enough, same⟩ := enough_of_cut limited sufficient
    exact ⟨items, stand, enough, congrArg Progress.result same⟩

/-- If a stream begins with as many results as the limit allows, the pass ends behind them. -/
theorem run?_reading_of_begins
    (limited : trial.options.limit = some limit)
    {source : Source τ σ}
    {opened : σ}
    {results : List RecordResult}
    (begins : source.BeginsWith trial.kind opened results)
    (length : results.length = limit)
    (state : ε) :
    ∃ run,
      (trial.reading source opened state).run? = some run ∧
      run.value.1 = trial.unlimited.through results (trial.outset state) := by
  obtain ⟨items, stand, brings, within⟩ := begins
  have first : (items.flatMap trial.kind.results).take limit = results := by
    rw [← length]
    exact (List.prefix_iff_eq_take.mp within).symm
  have satisfied : trial.wants (trial.through (items.flatMap trial.kind.results)
      (trial.outset state)) = false := by
    rw [← Bool.not_eq_true, wants_through_iff limited, not_and, Nat.not_lt, ← length]
    exact fun _ => within.length_le
  have enough : (trial.reading source opened state).Enough items stand :=
    ⟨brings, Or.inl satisfied⟩
  obtain ⟨run, ended, reached⟩ := Reading.run?_of_enough enough
  refine ⟨run, ended, reached.trans ?_⟩
  rw [← first]
  exact through_outset_of_limit limited _ state

end Limited

end Trial

section Evaluate

variable (set : ValidationSet) (source : Source τ σ) (memory : τ) (engine : Engine ε) (state : ε)
  (preprocessor : Preprocessor) (skipMalformed : Bool) (limit : Nat)

/-- An evaluation with a limit comes to what one without comes to over streams cut at the limit. -/
theorem evaluate_cut :
    (evaluate set source memory engine state preprocessor ⟨some limit, skipMalformed⟩).run?.map
        (fun run => run.value.result) =
      (evaluate set (source.cut set.kind limit) memory engine state preprocessor
        ⟨none, skipMalformed⟩).run?.map fun run => run.value.result := by
  rw [evaluate_result, evaluate_result, Source.openStream_cut]
  cases (source.openStream memory set.request).value.1 with
  | error cause => rfl
  | ok opened =>
    exact Trial.map_run?_reading_cut
      (show (set.trial engine preprocessor ⟨some limit, skipMalformed⟩).options.limit = _ from rfl)
      source opened state

variable {set source memory limit}

/-- Nothing behind the limit has a part in what an evaluation comes to. -/
theorem evaluate_of_begins
    {opened : σ}
    (isOpened : (source.openStream memory set.request).value.1 = .ok opened)
    {results : List RecordResult}
    (begins : source.BeginsWith set.kind opened results)
    (length : results.length = limit) :
    (evaluate set source memory engine state preprocessor ⟨some limit, skipMalformed⟩).run?.map
        (fun run => run.value.result) =
      some ((set.trial engine preprocessor ⟨none, skipMalformed⟩).through results
        ((set.trial engine preprocessor ⟨none, skipMalformed⟩).outset state)).result := by
  obtain ⟨run, ended, reached⟩ := Trial.run?_reading_of_begins
    (show (set.trial engine preprocessor ⟨some limit, skipMalformed⟩).options.limit = _ from rfl)
    begins length state
  rw [evaluate_result, isOpened]
  simp only [ended, Option.map_some, reached]
  rfl

/-- The items that a pass needs for all results that the limit allows are no more than any others
that bring as many. -/
theorem isLeast_of_suffices
    {trial : Trial ε}
    (limited : trial.options.limit = some limit)
    {opened : σ}
    {items : List ItemResult}
    {stand : σ}
    (sufficient : (trial.reading source opened state).Suffices items stand)
    (all : limit ≤ (items.flatMap trial.kind.results).length) :
    IsLeast {count | ∃ others final, others.length = count ∧
      source.Brings opened others final ∧
      limit ≤ (others.flatMap trial.kind.results).length} items.length := by
  constructor
  · exact ⟨items, stand, rfl, sufficient.brings, all⟩
  · rintro count ⟨others, final, length, brings, enough⟩
    rw [← length]
    by_contra fewer
    rw [Nat.not_le] at fewer
    have nonempty : items ≠ [] := by
      intro none
      rw [none] at fewer
      cases fewer
    have split : items = items.dropLast ++ [items.getLast nonempty] :=
      (List.dropLast_append_getLast nonempty).symm
    have below : (items.dropLast.flatMap trial.kind.results).length < limit :=
      ((Trial.wants_reading_iff _ _ _ limited _).mp (sufficient.needed _ _ split)).2
    have before : others <+: items.dropLast := by
      apply List.prefix_of_prefix_length_le (brings.prefix_of_length_le sufficient.brings fewer.le)
        (List.dropLast_prefix items)
      rw [List.length_dropLast]
      omega
    have within := (Source.flatMap_prefix before trial.kind).length_le
    omega

/-- An evaluation that has succeeded below its limit has pulled as many items as it needed, or all
of the items that there are. -/
theorem evaluate_pulls
    {run : Logged (Evaluation ε σ)}
    {tally : Tally}
    (comes : (evaluate set source memory engine state preprocessor
      ⟨some limit, skipMalformed⟩).run? = some run)
    (succeeded : run.value.outcome = .ok tally) :
    ∃ opened counted stream,
      (source.openStream memory set.request).value.1 = .ok opened ∧
      (evaluate set source.counting memory engine state preprocessor
        ⟨some limit, skipMalformed⟩).run? = some counted ∧
      counted.value.outcome = .ok tally ∧
      counted.value.stream = some stream ∧
      ((stream.items.asked = stream.items.brought ∧
        IsLeast {count | ∃ items final, items.length = count ∧
          source.Brings opened items final ∧
          limit ≤ (items.flatMap set.kind.results).length} stream.items.brought) ∨
      (stream.items.asked = stream.items.brought + 1 ∧
        ∃ items final, items.length = stream.items.brought ∧
          source.Brings opened items final ∧ source.Ends final ∧
          (items.flatMap set.kind.results).length < limit)) := by
  obtain ⟨opened, reading, counted, stream, items, stand, isOpened, isReading, isCounted,
    succeededToo, isStream, sufficient, noError, brought, asked⟩ :=
    counted_of_evaluate comes succeeded
  refine ⟨opened, counted, stream, isOpened, isCounted, succeededToo, isStream, ?_⟩
  have limited : (set.trial engine preprocessor ⟨some limit, skipMalformed⟩).options.limit =
      some limit := rfl
  have stop : reading.wants (reading.after items) = true ↔
      (reading.after items).error = none ∧
        (items.flatMap set.kind.results).length < limit := by
    rw [isReading]
    exact Trial.wants_reading_iff _ _ _ limited items
  rw [brought]
  rcases asked with ⟨satisfied, asked⟩ | ⟨wanted, ends, asked⟩
  · left
    rw [← Bool.not_eq_true, stop, not_and, Nat.not_lt] at satisfied
    rw [isReading] at sufficient
    exact ⟨asked, isLeast_of_suffices _ limited sufficient (satisfied noError)⟩
  · right
    have brings : source.Brings opened items stand := by
      have brings := sufficient.brings
      rw [isReading] at brings
      exact brings
    exact ⟨asked, items, stand, rfl, brings, ends, (stop.mp wanted).2⟩

end Evaluate

/-- An evaluation with a limit comes to what an evaluation without one comes to over streams that
are cut behind the results that the limit allows, and it gives the engine the same bindings.

A cut stream has the results of the stream up to the limit and no others, and whatever two streams
have behind the limit makes no difference. An evaluation that succeeds has asked for no item but
the first ones that stand for all results that the limit allows; if there are fewer results than
that, it has been brought all items and has then been told that there are no others. -/
theorem evaluate_limited_reads_no_further
    (set : ValidationSet)
    (source : Source τ σ)
    (memory : τ)
    (other : Source υ ρ)
    (memoryOther : υ)
    (engine : Engine ε)
    (state : ε)
    (preprocessor : Preprocessor)
    (skipMalformed : Bool)
    (limit : Nat) :
    ((evaluate set source memory engine state preprocessor ⟨some limit, skipMalformed⟩).run?.map
        (fun run => run.value.result) =
      (evaluate set (source.cut set.kind limit) memory engine state preprocessor
        ⟨none, skipMalformed⟩).run?.map fun run => run.value.result) ∧
    ((evaluate set source memory engine.recording (state, []) preprocessor
        ⟨some limit, skipMalformed⟩).run?.map (fun run => run.value.result) =
      (evaluate set (source.cut set.kind limit) memory engine.recording (state, []) preprocessor
        ⟨none, skipMalformed⟩).run?.map fun run => run.value.result) ∧
    (((source.cut set.kind limit).openStream memory set.request).value.1 =
      (source.openStream memory set.request).value.1.map (·, limit)) ∧
    (∀ opened results,
      (source.cut set.kind limit).BeginsWith set.kind (opened, limit) results ↔
        results.length ≤ limit ∧ source.BeginsWith set.kind opened results) ∧
    (∀ opened openedOther results,
      (source.openStream memory set.request).value.1 = .ok opened →
      (other.openStream memoryOther set.request).value.1 = .ok openedOther →
      source.BeginsWith set.kind opened results →
      other.BeginsWith set.kind openedOther results →
      results.length = limit →
      ∃ result,
        (evaluate set source memory engine.recording (state, []) preprocessor
          ⟨some limit, skipMalformed⟩).run?.map (fun run => run.value.result) = some result ∧
        (evaluate set other memoryOther engine.recording (state, []) preprocessor
          ⟨some limit, skipMalformed⟩).run?.map (fun run => run.value.result) = some result) ∧
    (∀ run tally,
      (evaluate set source memory engine state preprocessor
        ⟨some limit, skipMalformed⟩).run? = some run →
      run.value.outcome = .ok tally →
      ∃ opened counted stream,
        (source.openStream memory set.request).value.1 = .ok opened ∧
        (evaluate set source.counting memory engine state preprocessor
          ⟨some limit, skipMalformed⟩).run? = some counted ∧
        counted.value.outcome = .ok tally ∧
        counted.value.stream = some stream ∧
        ((stream.items.asked = stream.items.brought ∧
          IsLeast {count | ∃ items final, items.length = count ∧
            source.Brings opened items final ∧
            limit ≤ (items.flatMap set.kind.results).length} stream.items.brought) ∨
        (stream.items.asked = stream.items.brought + 1 ∧
          ∃ items final, items.length = stream.items.brought ∧
            source.Brings opened items final ∧ source.Ends final ∧
            (items.flatMap set.kind.results).length < limit))) := by
  refine ⟨evaluate_cut .., evaluate_cut .., rfl, fun _ _ => Source.beginsWith_cut_iff, ?_, ?_⟩
  · intro opened openedOther results isOpened isOpenedOther begins beginsOther length
    exact ⟨_, evaluate_of_begins _ _ _ _ isOpened begins length,
      evaluate_of_begins _ _ _ _ isOpenedOther beginsOther length⟩
  · intro run tally comes succeeded
    exact evaluate_pulls _ _ _ _ comes succeeded

/-- An article without questions, one with two, and something that is no article. -/
def articles : List Item :=
  [.row (QuestionRecord.article []),
    .row (QuestionRecord.article [⟨"A whale is a mammal.", "Is it a fish?"⟩,
      ⟨"Rome was built.", "In a day?"⟩]),
    .row .null]

/-- Two articles are pulled for one question, and what is no article is left alone. -/
theorem evaluate_pulls_two_articles :
    ∃ counted stream,
      (evaluate ⟨.squad, "dev.json"⟩ (Source.fixed articles).counting () idle 0 wordlessness
        ⟨some 1, false⟩).run? = some counted ∧
      counted.value.outcome = .ok ⟨"squad-v1.1", 1, 1, 0, 0, 0⟩ ∧
      counted.value.stream = some stream ∧
      stream.items.asked = 2 ∧
      stream.items.brought = 2 := by
  have brings : (Source.fixed articles).Brings (articles.map .ok) ((articles.take 2).map .ok)
      [.ok (.row .null)] := .item rfl (.item rfl (.nothing _))
  have begins : (Source.fixed articles).BeginsWith .squad (articles.map .ok)
      [.ok (.question ⟨"A whale is a mammal.", "Is it a fish?"⟩)] :=
    ⟨_, _, brings, _, rfl⟩
  have isOpened : ((Source.fixed articles).openStream ()
      (ValidationSet.request ⟨.squad, "dev.json"⟩)).value.1 = .ok (articles.map .ok) := rfl
  have ends := evaluate_of_begins idle 0 wordlessness false isOpened begins rfl
  obtain ⟨run, comes, result⟩ := Option.map_eq_some_iff.mp ends
  have succeeded : run.value.outcome = .ok ⟨"squad-v1.1", 1, 1, 0, 0, 0⟩ := by
    refine (congrArg Prod.fst result).trans ?_
    decide +kernel
  have limits := evaluate_limited_reads_no_further ⟨.squad, "dev.json"⟩ (Source.fixed articles) ()
    (Source.fixed articles) () idle 0 wordlessness false 1
  obtain ⟨opened, counted, stream, isOpenedThere, isCounted, succeededToo, isStream, asked⟩ :=
    limits.2.2.2.2.2 run _ comes succeeded
  refine ⟨counted, stream, isCounted, succeededToo, isStream, ?_⟩
  have start : articles.map .ok = opened := Except.ok.inj isOpenedThere
  rw [← start] at asked
  have two : (((articles.take 2).map .ok).flatMap SetKind.squad.results).length = 2 := rfl
  rcases asked with ⟨same, least⟩ | ⟨-, items, final, -, bringsAll, ends, few⟩
  · have atMost : stream.items.brought ≤ 2 :=
      least.2 ⟨_, _, rfl, brings, two.symm ▸ Nat.le_succ 1⟩
    have atLeast : 2 ≤ stream.items.brought := by
      obtain ⟨items, final, length, bringsItems, enough⟩ := least.1
      rw [← length]
      by_contra fewer
      -- The first article alone brings nothing.
      have first : items <+: [.ok (.row (QuestionRecord.article []))] :=
        bringsItems.prefix_of_length_le (.item rfl (.nothing _))
          (Nat.le_of_lt_succ (Nat.lt_of_not_le fewer))
      have none := (Source.flatMap_prefix first .squad).length_le
      exact absurd (enough.trans none) (Nat.not_succ_le_zero 0)
    have all := Nat.le_antisymm atMost atLeast
    exact ⟨same.trans all, all⟩
  · have within := (Source.flatMap_prefix (bringsAll.prefix_of_ends ends brings) .squad).length_le
    rw [two] at within
    change (items.flatMap SetKind.squad.results).length < 1 at few
    omega

end Holdout
