import Holdout.Proofs.Article
import Holdout.Proofs.Evaluation.Agreement
import Holdout.Proofs.Evaluation.Stopping
import Holdout.Proofs.Transform

/-!
# Asking the same questions of two sets

Questions can be read from articles or from rows. The two sets make the same bindings of them, so a
pass over the one goes as a pass over the other does, but for the name of the set in its counts and in
its errors.
-/

namespace Holdout

/-- The mismatch as it is told of another set. -/
def Mismatch.inSet (name : String) : Mismatch → Mismatch
  | .notSingle _ inputs => .notSingle name inputs
  | .recordKind _ kind => .recordKind name kind
  | .needsImage _ kind => .needsImage name kind
  | .needsText _ kind => .needsText name kind
  | mismatch => mismatch

/-- The error as it is told of another set. -/
def DatasetError.inSet (name : String) : DatasetError → DatasetError
  | .contractMismatch mismatch => .contractMismatch (mismatch.inSet name)
  | .malformedRecord _ flaw => .malformedRecord name flaw
  | error => error

/-- The error of a pass as it is told of another set. -/
def EvalError.inSet (name : String) : EvalError → EvalError
  | .dataset error => .dataset (error.inSet name)
  | .failure cause => .failure cause

/-- The counts of a pass over another set. -/
def Tally.inSet (name : String) (tally : Tally) : Tally := { tally with dataset := name }

/-- Where a pass over another set would stand. -/
def Progress.inSet (name : String) (progress : Progress ε) : Progress ε :=
  ⟨progress.engine, progress.tally.inSet name, progress.error.map (EvalError.inSet name)⟩

/-- What a pass over another set would have come to. -/
def outcomeInSet (name : String) (outcome : Except EvalError Tally) : Except EvalError Tally :=
  (outcome.map (Tally.inSet name)).mapError (EvalError.inSet name)

theorem Progress.outcome_inSet (name : String) (progress : Progress ε) :
    (progress.inSet name).outcome = outcomeInSet name progress.outcome := by
  rcases progress with ⟨engine, tally, error⟩
  cases error with
  | none => rfl
  | some error => rfl

/-- What is made of a question is bound alike in all sets, and a failure is told as each of them tells
it. -/
theorem SetKind.bindQuestion_inSet
    (name : String)
    (inputs : List String)
    (made : Except Failure InputBinding) :
    bindQuestion inputs made = (bindQuestion inputs made).mapError (DatasetError.inSet name) := by
  cases made with
  | error cause => rfl
  | ok produced =>
    rw [bindQuestion_ok]
    by_cases same : inputs.Perm produced.names
    · rw [checkNames_of_perm same]
      rfl
    · rw [checkNames_of_not_perm same]
      rfl

/-- The sets of questions make the same binding of a record, or tell the same error of it. -/
theorem SetKind.transform_inSet
    {kind other : SetKind}
    (questions : kind ≠ .imageNet)
    (questionsToo : other ≠ .imageNet)
    (inputs : List String)
    (record : Record)
    (preprocessor : Preprocessor) :
    other.transform inputs record preprocessor =
      (kind.transform inputs record preprocessor).mapError (DatasetError.inSet other.name) := by
  rw [transform, transform, transformWith_of_ne_imageNet questions,
    transformWith_of_ne_imageNet questionsToo]
  cases record with
  | image image => rfl
  | question question =>
    cases preprocessor with
    | image run => rfl
    | text run => exact bindQuestion_inSet other.name inputs _

namespace Trial

/-- The trial with another set. -/
def ofKind (trial : Trial ε) (kind : SetKind) : Trial ε := { trial with kind := kind }

section Questions

variable {trial : Trial ε} {other : SetKind}

/-- Both sets are sets of questions. -/
structure AsksWith (trial : Trial ε) (other : SetKind) : Prop where
  asks : trial.kind ≠ .imageNet
  asksToo : other ≠ .imageNet

theorem AsksWith.symm (asks : trial.AsksWith other) : (trial.ofKind other).AsksWith trial.kind where
  asks := asks.asksToo
  asksToo := asks.asks

theorem AsksWith.binding_ofKind (asks : trial.AsksWith other) (record : Record) :
    (trial.ofKind other).binding record =
      (trial.binding record).mapError (DatasetError.inSet other.name) := by
  exact SetKind.transform_inSet asks.asks asks.asksToo ..

theorem AsksWith.bindings_ofKind (asks : trial.AsksWith other) (results : List RecordResult) :
    (trial.ofKind other).bindings results = trial.bindings results := by
  rw [bindings, bindings]
  congr 1
  funext record
  rw [asks.binding_ofKind]
  cases trial.binding record with
  | error error => rfl
  | ok binding => rfl

theorem AsksWith.after_ofKind (asks : trial.AsksWith other) (state : ε)
    (results : List RecordResult) :
    (trial.ofKind other).after state results = trial.after state results := by
  rw [after, asks.bindings_ofKind]
  rfl

/-- Both sets put a record through the engine alike. -/
theorem AsksWith.judge_ofKind (asks : trial.AsksWith other) (state : ε) (record : Record) :
    (trial.ofKind other).judge state record =
      ((trial.judge state record).1.mapError (EvalError.inSet other.name),
        (trial.judge state record).2) := by
  have same := asks.binding_ofKind record
  cases bound : trial.binding record with
  | error error =>
    rw [bound] at same
    rw [judge_of_unbound bound, judge_of_unbound same]
    rfl
  | ok binding =>
    rw [bound] at same
    have left := asks.after_ofKind state [.ok record]
    cases answered : (trial.engine.run state binding).1 with
    | error cause =>
      have failed : ((trial.ofKind other).engine.run state binding).1 = .error cause := answered
      rw [judge_of_failed_run bound answered, judge_of_failed_run same failed, left]
      rfl
    | ok outputs =>
      have succeeded : ((trial.ofKind other).engine.run state binding).1 = .ok outputs := answered
      rw [judge_of_answer bound answered, judge_of_answer same succeeded, left]
      change ((trial.verdict record outputs).mapError EvalError.failure, _) = _
      cases trial.verdict record outputs with
      | error cause => rfl
      | ok verdict => rfl

/-- Both sets take a record alike. -/
theorem AsksWith.take_ofKind (asks : trial.AsksWith other) (progress : Progress ε)
    (record : Record) :
    ((trial.ofKind other).take (progress.inSet other.name) (.ok record)).value =
      (trial.take progress (.ok record)).value.inSet other.name := by
  have same := asks.judge_ofKind progress.engine record
  rcases judged : trial.judge progress.engine record with ⟨verdict, state⟩
  rw [judged] at same
  have judgedToo : (trial.ofKind other).judge (progress.inSet other.name).engine record = _ := same
  cases verdict with
  | error error =>
    simp only [take, judged, judgedToo]
    rfl
  | ok verdict =>
    simp only [take, judged, judgedToo]
    rfl

theorem wants_ofKind (progress : Progress ε) :
    (trial.ofKind other).wants (progress.inSet other.name) = trial.wants progress := by
  rw [wants, wants]
  congr 1
  exact Option.isNone_map

/-- After any records a pass over the one set stands where a pass over the other does. -/
theorem AsksWith.through_ofKind (asks : trial.AsksWith other) (records : List Record)
    (progress : Progress ε) :
    (trial.ofKind other).through (records.map .ok) (progress.inSet other.name) =
      (trial.through (records.map .ok) progress).inSet other.name := by
  induction records generalizing progress with
  | nil => rfl
  | cons record rest inductionHypothesis =>
    have same : (trial.ofKind other).wants (progress.inSet other.name) = trial.wants progress :=
      wants_ofKind progress
    rw [List.map_cons]
    cases wanted : trial.wants progress with
    | true =>
      rw [wanted] at same
      rw [through_cons_of_wants same, through_cons_of_wants wanted, asks.take_ofKind,
        inductionHypothesis]
    | false =>
      rw [wanted] at same
      rw [through_of_satisfied same, through_of_satisfied wanted]

/-- A record that ends the pass over the one set ends that over the other with the same error. -/
theorem AsksWith.fatal_ofKind
    (asks : trial.AsksWith other)
    {state : ε}
    {record : Record}
    {error : EvalError}
    (fatal : trial.Fatal state (.ok record) error) :
    (trial.ofKind other).Fatal state (.ok record) (error.inSet other.name) := by
  have same := asks.binding_ofKind record
  cases fatal with
  | transform unbound =>
    rw [unbound] at same
    exact .transform same
  | run bound failed =>
    rw [bound] at same
    exact .run same failed
  | scores bound answered isLabel single isScores failed =>
    rw [bound] at same
    exact .scores same answered isLabel single isScores failed

theorem AsksWith.peaceful_ofKind
    (asks : trial.AsksWith other)
    {state : ε}
    {records : List Record}
    (peaceful : trial.Peaceful state (records.map .ok)) :
    (trial.ofKind other).Peaceful state (records.map .ok) := by
  intro before result within error fatal
  have among : result ∈ records.map Except.ok :=
    within.mem (List.mem_append_right _ (List.mem_singleton_self _))
  obtain ⟨record, -, isRecord⟩ := List.mem_map.mp among
  rw [asks.after_ofKind, ← isRecord] at fatal
  rw [← isRecord] at within
  exact peaceful before (.ok record) within _ (asks.symm.fatal_ofKind fatal)

/-- The passes over the two sets fail at the same record. -/
theorem AsksWith.firstFatal_ofKind
    (asks : trial.AsksWith other)
    {state : ε}
    {before : List Record}
    {record : Record}
    {error : EvalError}
    (first : trial.FirstFatal state (before.map .ok) (.ok record) error) :
    (trial.ofKind other).FirstFatal state (before.map .ok) (.ok record)
      (error.inSet other.name) where
  admitted := first.admitted
  peaceful := asks.peaceful_ofKind first.peaceful
  fatal := by
    rw [asks.after_ofKind]
    exact asks.fatal_ofKind first.fatal

end Questions

end Trial

section Evaluate

variable {set : ValidationSet} {source : Source τ σ} {memory : τ} {engine : Engine ε} {state : ε}
  {preprocessor : Preprocessor} {options : EvalOptions}

/-- An evaluation of items that come to an end stands in the end behind their record results. -/
theorem evaluate_of_delivers
    {items : List ItemResult}
    (delivers : set.Delivers source memory items) :
    ∃ run,
      (evaluate set source memory engine state preprocessor options).run? = some run ∧
      run.value.result = ((set.trial engine preprocessor options).through
        (items.flatMap set.kind.results)
        ((set.trial engine preprocessor options).outset state)).result := by
  obtain ⟨opened, stand, isOpened, brings, ends⟩ := delivers
  obtain ⟨run, progress, comes, isProgress, outcome, left⟩ :
      ∃ run progress, (evaluate set source memory engine state preprocessor options).run? =
        some run ∧ _ := evaluate_of_ends isOpened brings ends
  refine ⟨run, comes, ?_⟩
  rw [isProgress] at outcome left
  exact Prod.ext outcome left

/-- An evaluation of questions fails at one of them, if it fails. -/
theorem exists_firstFatal_of_questions
    {items : List ItemResult}
    (delivers : set.Delivers source memory items)
    {questions : List QuestionRecord}
    (asked : items.flatMap set.kind.results = questionResults questions)
    {run : Logged (Evaluation ε σ)}
    (comes : (evaluate set source memory engine state preprocessor options).run? = some run)
    {error : EvalError}
    (failed : run.value.outcome = .error error) :
    ∃ before question rest,
      questions = before ++ question :: rest ∧
      (set.trial engine preprocessor options).FirstFatal state (questionResults before)
        (.ok (.question question)) error := by
  obtain ⟨opened, stand, isOpened, brings, ends⟩ := delivers
  rcases evaluate_failed comes failed with
    ⟨cause, unopened, -⟩ |
    ⟨place, pulled, left, before, result, rest, isPlace, bringsPulled, split, -, first, -⟩
  · rw [isOpened] at unopened
    cases unopened
  · rw [isOpened] at isPlace
    rw [← Except.ok.inj isPlace] at bringsPulled
    obtain ⟨others, all, -⟩ := brings.rest_of_ends ends bringsPulled
    rw [all, List.flatMap_append, split, List.append_assoc, questionResults] at asked
    obtain ⟨questionsBefore, behind, isSplit, isBefore, isBehind⟩ :=
      List.map_eq_append_iff.mp asked.symm
    obtain ⟨question, questionsBehind, isCons, isResult, -⟩ := List.map_eq_cons_iff.mp isBehind
    rw [← isBefore, ← isResult] at first
    rw [isCons] at isSplit
    exact ⟨questionsBefore, question, questionsBehind, isSplit, first⟩

end Evaluate

/-- Articles and the rows of their questions come to the same in an evaluation, but for the name of
the set. -/
theorem evaluate_rows_result
    {articles rows : List Json}
    {contents : List (List Paragraph)}
    (wellFormed : List.Forall₂ Json.IsArticle articles contents)
    (flat : List.Forall₂ Json.IsRow rows (questionsOf contents))
    {place placeOfRows : String}
    {source : Source τ σ}
    {memory : τ}
    {sourceOfRows : Source υ ρ}
    {memoryOfRows : υ}
    (delivers : ValidationSet.Delivers ⟨.squad, place⟩ source memory (rowItems articles))
    (deliversRows :
      ValidationSet.Delivers ⟨.squadHub, placeOfRows⟩ sourceOfRows memoryOfRows (rowItems rows))
    (engine : Engine ε)
    (state : ε)
    (preprocessor : Preprocessor)
    (options : EvalOptions) :
    ∃ run runOfRows,
      (evaluate ⟨.squad, place⟩ source memory engine state preprocessor options).run? = some run ∧
      (evaluate ⟨.squadHub, placeOfRows⟩ sourceOfRows memoryOfRows engine state preprocessor
        options).run? = some runOfRows ∧
      runOfRows.value.outcome = outcomeInSet SetKind.squadHub.name run.value.outcome ∧
      runOfRows.value.engine = run.value.engine := by
  let trial := ValidationSet.trial ⟨.squad, place⟩ engine preprocessor options
  have asks : trial.AsksWith .squadHub := ⟨SetKind.noConfusion, SetKind.noConfusion⟩
  obtain ⟨run, comes, result⟩ : ∃ run,
      (evaluate ⟨.squad, place⟩ source memory engine state preprocessor options).run? =
        some run ∧ _ := evaluate_of_delivers delivers
  obtain ⟨runOfRows, comesToo, resultOfRows⟩ : ∃ run,
      (evaluate ⟨.squadHub, placeOfRows⟩ sourceOfRows memoryOfRows engine state preprocessor
        options).run? = some run ∧ _ := evaluate_of_delivers deliversRows
  have same : ((trial.ofKind .squadHub).through (questionResults (questionsOf contents))
      ((trial.ofKind .squadHub).outset state)) =
        (trial.through (questionResults (questionsOf contents)) (trial.outset state)).inSet
          SetKind.squadHub.name := by
    rw [questionResults_eq_map]
    exact asks.through_ofKind _ (trial.outset state)
  rw [SetKind.flatMap_results_of_articles wellFormed] at result
  rw [SetKind.flatMap_results_of_rows flat] at resultOfRows
  have isResult := resultOfRows.trans (congrArg Progress.result same)
  refine ⟨run, runOfRows, comes, comesToo, ?_, ?_⟩
  · have outcome : run.value.outcome = _ := congrArg Prod.fst result
    rw [outcome]
    exact (congrArg Prod.fst isResult).trans (Progress.outcome_inSet _ _)
  · exact (congrArg Prod.snd isResult).trans (congrArg Prod.snd result).symm

/-- Well-formed articles, and rows that hold their questions one by one in the order in which they
are nested, are the same to an evaluation, but for the name of the set in its counts and errors.

The engine is given the same bindings, which shows in what an engine that keeps its bindings has
kept, and an evaluation that fails does so at the same question either way. Read record by record,
both tell the questions and then, for ever after, their end. -/
theorem evaluate_articles_like_rows
    {articles rows : List Json}
    {contents : List (List Paragraph)}
    (wellFormed : List.Forall₂ Json.IsArticle articles contents)
    (flat : List.Forall₂ Json.IsRow rows (questionsOf contents))
    {place placeOfRows : String}
    {source : Source τ σ}
    {memory : τ}
    {sourceOfRows : Source υ ρ}
    {memoryOfRows : υ}
    (delivers : ValidationSet.Delivers ⟨.squad, place⟩ source memory (rowItems articles))
    (deliversRows :
      ValidationSet.Delivers ⟨.squadHub, placeOfRows⟩ sourceOfRows memoryOfRows (rowItems rows))
    (engine : Engine ε)
    (state : ε)
    (preprocessor : Preprocessor)
    (options : EvalOptions) :
    (∃ run runOfRows,
      (evaluate ⟨.squad, place⟩ source memory engine state preprocessor options).run? = some run ∧
      (evaluate ⟨.squadHub, placeOfRows⟩ sourceOfRows memoryOfRows engine state preprocessor
        options).run? = some runOfRows ∧
      runOfRows.value.outcome = outcomeInSet SetKind.squadHub.name run.value.outcome ∧
      runOfRows.value.engine = run.value.engine ∧
      (∀ error, run.value.outcome = .error error →
        ∃ before question rest,
          questionsOf contents = before ++ question :: rest ∧
          (ValidationSet.trial ⟨.squad, place⟩ engine preprocessor options).FirstFatal state
            (questionResults before) (.ok (.question question)) error ∧
          (ValidationSet.trial ⟨.squadHub, placeOfRows⟩ engine preprocessor options).FirstFatal
            state (questionResults before) (.ok (.question question))
            (error.inSet SetKind.squadHub.name))) ∧
    (∃ recorded recordedOfRows,
      (evaluate ⟨.squad, place⟩ source memory engine.recording (state, []) preprocessor
        options).run? = some recorded ∧
      (evaluate ⟨.squadHub, placeOfRows⟩ sourceOfRows memoryOfRows engine.recording (state, [])
        preprocessor options).run? = some recordedOfRows ∧
      recordedOfRows.value.outcome = outcomeInSet SetKind.squadHub.name recorded.value.outcome ∧
      recordedOfRows.value.engine = recorded.value.engine) ∧
    (∃ stream streamOfRows,
      (ValidationSet.openWith ⟨.squad, place⟩ source memory).value.1 = .ok stream ∧
      (ValidationSet.openWith ⟨.squadHub, placeOfRows⟩ sourceOfRows memoryOfRows).value.1 =
        .ok streamOfRows ∧
      ∀ count, ∃ pass passOfRows,
        (stream.nexts source count).run? = some pass ∧
        (streamOfRows.nexts sourceOfRows count).run? = some passOfRows ∧
        pass.value.1 = ((List.range count).map fun place =>
          (questionResults (questionsOf contents)).getD place (.error .exhausted)) ∧
        passOfRows.value.1 = pass.value.1) := by
  refine ⟨?_, ?_, ?_⟩
  · obtain ⟨run, runOfRows, comes, comesToo, outcome, left⟩ := evaluate_rows_result wellFormed flat
      delivers deliversRows engine state preprocessor options
    refine ⟨run, runOfRows, comes, comesToo, outcome, left, ?_⟩
    intro error failed
    obtain ⟨before, question, rest, split, first⟩ := exists_firstFatal_of_questions delivers
      (SetKind.flatMap_results_of_articles wellFormed) comes failed
    have asks : (ValidationSet.trial ⟨.squad, place⟩ engine preprocessor options).AsksWith
        .squadHub := ⟨SetKind.noConfusion, SetKind.noConfusion⟩
    refine ⟨before, question, rest, split, first, ?_⟩
    rw [questionResults_eq_map] at first ⊢
    exact asks.firstFatal_ofKind first
  · exact evaluate_rows_result wellFormed flat delivers deliversRows engine.recording (state, [])
      preprocessor options
  · obtain ⟨stream, isStream, passes⟩ := delivers.nexts
    obtain ⟨streamOfRows, isStreamOfRows, passesOfRows⟩ := deliversRows.nexts
    refine ⟨stream, streamOfRows, isStream, isStreamOfRows, ?_⟩
    intro count
    obtain ⟨pass, isPass, told⟩ := passes count
    obtain ⟨passOfRows, isPassOfRows, toldOfRows⟩ := passesOfRows count
    rw [SetKind.flatMap_results_of_articles wellFormed] at told
    rw [SetKind.flatMap_results_of_rows flat] at toldOfRows
    exact ⟨pass, passOfRows, isPass, isPassOfRows, told, toldOfRows.trans told.symm⟩

/-- An article with two questions about one paragraph and none about another. -/
def rome : Json :=
  .object [("title", .string "Rome"), ("paragraphs", .array [
    .object [("context", .string "Rome was built."), ("qas", .array [
      .object [("question", .string "In a day?")],
      .object [("id", .integer 7), ("question", .string "By whom?")]])],
    .object [("qas", .array []), ("context", .string "Nothing was asked.")]])]

/-- What the article says. -/
def romeContents : List Paragraph :=
  [⟨"Rome was built.", ["In a day?", "By whom?"]⟩, ⟨"Nothing was asked.", []⟩]

theorem isArticle_rome : rome.IsArticle romeContents :=
  ⟨_, rfl, .cons ⟨rfl, _, rfl, .cons rfl (.cons rfl .nil)⟩ (.cons ⟨rfl, _, rfl, .nil⟩ .nil)⟩

/-- The article and one without paragraphs are two questions, and so are the rows of these. -/
theorem evaluate_rome_like_rows :
    List.Forall₂ Json.IsArticle [rome, .object [("paragraphs", .array [])]] [romeContents, []] ∧
    ∃ run runOfRows,
      (evaluate ⟨.squad, "dev.json"⟩
        (.fixed [.row rome, .row (.object [("paragraphs", .array [])])]) () idle 0 wordlessness
        ⟨none, false⟩).run? = some run ∧
      (evaluate ⟨.squadHub, "squad"⟩
        (.fixed ((questionsOf [romeContents, []]).map fun question => .row question.row)) () idle 0
        wordlessness ⟨none, false⟩).run? = some runOfRows ∧
      run.value.outcome = .ok ⟨"squad-v1.1", 2, 2, 0, 0, 0⟩ ∧
      runOfRows.value.outcome = .ok ⟨"squad-hf", 2, 2, 0, 0, 0⟩ := by
  have wellFormed : List.Forall₂ Json.IsArticle [rome, .object [("paragraphs", .array [])]]
      [romeContents, []] := .cons isArticle_rome (.cons ⟨_, rfl, .nil⟩ .nil)
  have flat : List.Forall₂ Json.IsRow
      ((questionsOf [romeContents, []]).map QuestionRecord.row) (questionsOf [romeContents, []]) :=
    .cons (QuestionRecord.isRow_row _) (.cons (QuestionRecord.isRow_row _) .nil)
  have delivers : ValidationSet.Delivers ⟨.squad, "dev.json"⟩
      (.fixed [.row rome, .row (.object [("paragraphs", .array [])])]) ()
      (rowItems [rome, .object [("paragraphs", .array [])]]) :=
    ⟨_, [], rfl, .item rfl (.item rfl (.nothing _)), rfl⟩
  have deliversRows : ValidationSet.Delivers ⟨.squadHub, "squad"⟩
      (.fixed ((questionsOf [romeContents, []]).map fun question => .row question.row)) ()
      (rowItems ((questionsOf [romeContents, []]).map QuestionRecord.row)) :=
    ⟨_, [], rfl, .item rfl (.item rfl (.nothing _)), rfl⟩
  obtain ⟨⟨run, runOfRows, comes, comesToo, outcome, -⟩, -⟩ := evaluate_articles_like_rows
    wellFormed flat delivers deliversRows idle 0 wordlessness ⟨none, false⟩
  have succeeded : run.value.outcome = .ok ⟨"squad-v1.1", 2, 2, 0, 0, 0⟩ := by
    obtain ⟨same, isSame, result⟩ : ∃ same, (evaluate ⟨.squad, "dev.json"⟩
        (.fixed [.row rome, .row (.object [("paragraphs", .array [])])]) () idle 0 wordlessness
        ⟨none, false⟩).run? = some same ∧ _ := evaluate_of_delivers delivers
    rw [Option.some.inj (isSame.symm.trans comes)] at result
    rw [show run.value.outcome = _ from congrArg Prod.fst result]
    decide +kernel
  refine ⟨wellFormed, run, runOfRows, comes, comesToo, succeeded, ?_⟩
  rw [outcome, succeeded]
  rfl

end Holdout
