import Holdout.Dataset

/-!
# What items stand for

The record results of an item are the records in it, or one error that says why there are none. No
item stands for the end of a stream, and the first so many results of an item are the results of
another: an article can be written for any questions.
-/

namespace Holdout

namespace QuestionRecord

/-- A paragraph that asks the question and no other. -/
def paragraph (record : QuestionRecord) : Json :=
  .object [("context", .string record.context),
    ("qas", .array [.object [("question", .string record.question)]])]

/-- An article that asks questions, each in a paragraph of its own. -/
def article (questions : List QuestionRecord) : Json :=
  .object [("paragraphs", .array (questions.map paragraph))]

theorem ofParagraph_paragraph (record : QuestionRecord) :
    ofParagraph record.paragraph = .ok [record] := by
  simp [ofParagraph, paragraph, stringField, arrayField, bind, Except.bind, pure, Except.pure]

/-- Reading an article gives the questions that it was written for. -/
theorem ofArticle_article (questions : List QuestionRecord) :
    ofArticle (article questions) = .ok questions := by
  have paragraphs : (questions.map paragraph).mapM ofParagraph =
      .ok (questions.map fun question => [question]) := by
    induction questions with
    | nil => rfl
    | cons question rest inductionHypothesis =>
      rw [List.map_cons, List.mapM_cons, ofParagraph_paragraph, inductionHypothesis]
      rfl
  have field : arrayField (article questions) "paragraphs" = .ok (questions.map paragraph) := by
    simp [arrayField, article]
  rw [ofArticle, field]
  change (do
    let found ← (questions.map paragraph).mapM ofParagraph
    return found.flatten) = _
  rw [paragraphs]
  change Except.ok (questions.map fun question => [question]).flatten = _
  rw [← List.flatMap_def, List.flatMap_singleton']

end QuestionRecord

namespace SetKind

/-- No item stands for the end of a stream. -/
theorem exhausted_not_mem_results (kind : SetKind) (item : ItemResult) :
    .error .exhausted ∉ kind.results item := by
  cases item with
  | error cause => simp [results]
  | ok item =>
    cases kind with
    | imageNet => cases read : imageOfItem item <;> simp [results, result, read]
    | squadHub => cases read : questionOfItem item <;> simp [results, result, read]
    | squad => cases read : articleOfItem item <;> simp [results, read]

/-- An item that stands for the first of the results of an item. An article is written anew for
the first of its questions, and any other item is left as it is. -/
def shorten (kind : SetKind) (limit : Nat) : ItemResult → ItemResult
  | .ok (.row row) =>
    match kind, QuestionRecord.ofArticle row with
    | .squad, .ok questions => .ok (.row (QuestionRecord.article (questions.take limit)))
    | _, _ => .ok (.row row)
  | item => item

/-- An item has one result, or it is an article. -/
theorem results_cases (kind : SetKind) (item : ItemResult) :
    (∃ result, kind.results item = [result] ∧ ∀ limit, kind.shorten limit item = item) ∨
    (∃ row questions, kind = .squad ∧ item = .ok (.row row) ∧
      QuestionRecord.ofArticle row = .ok questions) := by
  cases item with
  | error cause => exact Or.inl ⟨_, rfl, fun _ => rfl⟩
  | ok item =>
    cases item with
    | sample sample =>
      left
      cases kind with
      | imageNet => exact ⟨_, rfl, fun _ => rfl⟩
      | squadHub => exact ⟨_, rfl, fun _ => rfl⟩
      | squad => exact ⟨_, rfl, fun _ => rfl⟩
    | row row =>
      cases kind with
      | imageNet => exact Or.inl ⟨_, rfl, fun _ => rfl⟩
      | squadHub => exact Or.inl ⟨_, rfl, fun _ => rfl⟩
      | squad =>
        cases read : QuestionRecord.ofArticle row with
        | error flaw =>
          left
          refine ⟨.error (.malformedRecord squad.name flaw), ?_, ?_⟩
          · simp [results, articleOfItem, read, Except.map]
          · intro limit
            simp only [shorten, read]
        | ok questions => exact Or.inr ⟨row, questions, rfl, rfl, read⟩

theorem results_article {row : Json} {questions : List QuestionRecord}
    (read : QuestionRecord.ofArticle row = .ok questions) :
    squad.results (.ok (.row row)) = questions.map fun question => .ok (.question question) := by
  simp [results, articleOfItem, read, Except.map]

/-- The results of the shortened item are the first results of the item. -/
theorem results_shorten (kind : SetKind) {limit : Nat} (positive : 0 < limit) (item : ItemResult) :
    kind.results (kind.shorten limit item) = (kind.results item).take limit := by
  rcases kind.results_cases item with
    ⟨result, single, unchanged⟩ | ⟨row, questions, isSquad, isRow, read⟩
  · rw [unchanged, single, List.take_of_length_le positive]
  · simp only [isSquad, isRow, shorten, read]
    rw [results_article (QuestionRecord.ofArticle_article _), results_article read, List.map_take]

end SetKind

end Holdout
