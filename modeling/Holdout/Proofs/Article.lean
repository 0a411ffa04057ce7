import Holdout.Proofs.Dataset
import Holdout.Proofs.InTurn

/-!
# What articles and rows say

Values that are well-formed articles, or rows of one question each, described by what stands under
their names: other names do not count, and neither does the order of the names. The two ways to write
questions down stand for the same records.
-/

namespace Holdout

/-- A context and the questions that are asked about it. -/
structure Paragraph where
  context : String
  questions : List String
  deriving DecidableEq, Repr

namespace Paragraph

/-- The questions of a paragraph, each with the context. -/
def records (paragraph : Paragraph) : List QuestionRecord :=
  paragraph.questions.map fun question => ⟨paragraph.context, question⟩

end Paragraph

/-- The questions of articles: article by article, and paragraph by paragraph within each. -/
def questionsOf (articles : List (List Paragraph)) : List QuestionRecord :=
  articles.flatten.flatMap Paragraph.records

theorem questionsOf_cons (article : List Paragraph) (rest : List (List Paragraph)) :
    questionsOf (article :: rest) = article.flatMap Paragraph.records ++ questionsOf rest := by
  rw [questionsOf, List.flatten_cons, List.flatMap_append]
  rfl

namespace Json

/-- There is a text under the name. -/
def HasText (value : Json) (name text : String) : Prop := value.field? name = some (.string text)

/-- There is an array under the name. -/
def HasItems (value : Json) (name : String) (items : List Json) : Prop :=
  value.field? name = some (.array items)

/-- A paragraph is a value with a text and with an array of values that have a question each. -/
structure IsParagraph (value : Json) (paragraph : Paragraph) : Prop where
  context : value.HasText "context" paragraph.context
  questions : ∃ entries, value.HasItems "qas" entries ∧
    List.Forall₂ (HasText · "question") entries paragraph.questions

/-- An article is a value with an array of paragraphs. -/
def IsArticle (value : Json) (paragraphs : List Paragraph) : Prop :=
  ∃ entries, value.HasItems "paragraphs" entries ∧ List.Forall₂ IsParagraph entries paragraphs

/-- A row is a value with a context and a question. -/
structure IsRow (value : Json) (record : QuestionRecord) : Prop where
  context : value.HasText "context" record.context
  question : value.HasText "question" record.question

theorem stringField_of_hasText {value : Json} {name text : String}
    (has : value.HasText name text) :
    stringField value name = .ok text := by
  rw [HasText] at has
  simp only [stringField, has, Option.bind_some, text?_string]

theorem arrayField_of_hasItems {value : Json} {name : String} {items : List Json}
    (has : value.HasItems name items) :
    arrayField value name = .ok items := by
  rw [HasItems] at has
  simp only [arrayField, has, Option.bind_some, items?_array]

end Json

namespace QuestionRecord

theorem ofParagraph_of_isParagraph {value : Json} {paragraph : Paragraph}
    (isParagraph : value.IsParagraph paragraph) :
    ofParagraph value = .ok paragraph.records := by
  obtain ⟨entries, hasEntries, questions⟩ := isParagraph.questions
  have each : List.Forall₂ (fun entry record =>
      (do
        let question ← stringField entry "question"
        return QuestionRecord.mk paragraph.context question) = Except.ok record)
      entries paragraph.records := by
    rw [Paragraph.records, List.forall₂_map_right_iff]
    apply questions.imp
    intro entry question hasQuestion
    rw [Json.stringField_of_hasText hasQuestion]
    rfl
  rw [ofParagraph, Json.stringField_of_hasText isParagraph.context,
    Json.arrayField_of_hasItems hasEntries]
  exact mapM_eq_ok_iff.mpr each

theorem ofArticle_of_isArticle {value : Json} {paragraphs : List Paragraph}
    (isArticle : value.IsArticle paragraphs) :
    ofArticle value = .ok (paragraphs.flatMap Paragraph.records) := by
  obtain ⟨entries, hasEntries, areParagraphs⟩ := isArticle
  have each : List.Forall₂ (fun entry records => ofParagraph entry = .ok records) entries
      (paragraphs.map Paragraph.records) := by
    rw [List.forall₂_map_right_iff]
    apply areParagraphs.imp
    intro entry paragraph isParagraph
    exact ofParagraph_of_isParagraph isParagraph
  rw [ofArticle, Json.arrayField_of_hasItems hasEntries]
  change (do
    let found ← entries.mapM ofParagraph
    return found.flatten) = _
  rw [mapM_eq_ok_iff.mpr each, List.flatMap_def]
  rfl

theorem ofRow_of_isRow {value : Json} {record : QuestionRecord} (isRow : value.IsRow record) :
    ofRow value = .ok record := by
  rw [ofRow, Json.stringField_of_hasText isRow.context, Json.stringField_of_hasText isRow.question]
  rfl

/-- The row that holds a question and nothing else. -/
def row (record : QuestionRecord) : Json :=
  .object [("context", .string record.context), ("question", .string record.question)]

theorem isRow_row (record : QuestionRecord) : record.row.IsRow record where
  context := rfl
  question := rfl

end QuestionRecord

/-- Values as the items of a source. -/
def rowItems (values : List Json) : List ItemResult := values.map fun value => .ok (.row value)

/-- Questions as the results of a stream. -/
def questionResults (questions : List QuestionRecord) : List RecordResult :=
  questions.map fun question => .ok (.question question)

theorem questionResults_eq_map (questions : List QuestionRecord) :
    questionResults questions = (questions.map Record.question).map Except.ok :=
  List.map_map.symm

namespace SetKind

/-- Well-formed articles stand for their questions. -/
theorem flatMap_results_of_articles
    {articles : List Json}
    {contents : List (List Paragraph)}
    (wellFormed : List.Forall₂ Json.IsArticle articles contents) :
    (rowItems articles).flatMap squad.results = questionResults (questionsOf contents) := by
  induction wellFormed with
  | nil => rfl
  | cons isArticle _ inductionHypothesis =>
    rw [rowItems, List.map_cons, List.flatMap_cons,
      results_article (QuestionRecord.ofArticle_of_isArticle isArticle), questionsOf_cons,
      questionResults, List.map_append]
    exact congrArg _ inductionHypothesis

/-- Rows stand for the question that each of them holds. -/
theorem flatMap_results_of_rows
    {rows : List Json}
    {questions : List QuestionRecord}
    (hold : List.Forall₂ Json.IsRow rows questions) :
    (rowItems rows).flatMap squadHub.results = questionResults questions := by
  induction hold with
  | nil => rfl
  | @cons row question _ _ isRow _ inductionHypothesis =>
    have one : squadHub.results (.ok (.row row)) = [.ok (.question question)] := by
      simp only [results, questionOfItem, QuestionRecord.ofRow_of_isRow isRow]
      rfl
    rw [rowItems, List.map_cons, List.flatMap_cons, one]
    exact congrArg _ inductionHypothesis

end SetKind
end Holdout
