import Holdout.Proofs.Article

/-!
# What an article needs

The fields that an article needs, in the order in which they are nested: its paragraphs, and in each
paragraph the context, the questions and the text of each question. An article stands for all of its
questions if it has what it needs, and otherwise for the first field that is missing or is something
else.
-/

namespace Holdout

/-- A field that a value needs, and what there has to be. -/
inductive Demand
  | text (value : Json) (name : String)
  | items (value : Json) (name : String)

namespace Demand

/-- There is what there has to be. -/
def isMet : Demand → Bool
  | .text value name => ((value.field? name).bind Json.text?).isSome
  | .items value name => ((value.field? name).bind Json.items?).isSome

/-- What is told if there is not. -/
def flaw : Demand → Flaw
  | .text _ name => .missingString name
  | .items _ name => .missingArray name

/-- The first demand that is not met. -/
def firstUnmet? (demands : List Demand) : Option Demand :=
  demands.find? fun demand => !demand.isMet

end Demand

namespace Json

/-- The text under a name, or no text if there is none. -/
def textAt (value : Json) (name : String) : String := ((value.field? name).bind text?).getD ""

/-- The items under a name, or no items if there are none. -/
def itemsAt (value : Json) (name : String) : List Json := ((value.field? name).bind items?).getD []

/-- What a paragraph needs. -/
def paragraphDemands (paragraph : Json) : List Demand :=
  .text paragraph "context" :: .items paragraph "qas" ::
    (paragraph.itemsAt "qas").map fun entry => .text entry "question"

/-- What an article needs. -/
def articleDemands (article : Json) : List Demand :=
  .items article "paragraphs" :: (article.itemsAt "paragraphs").flatMap paragraphDemands

/-- The questions of a paragraph, each with the context. -/
def paragraphQuestions (paragraph : Json) : List QuestionRecord :=
  (paragraph.itemsAt "qas").map fun entry => ⟨paragraph.textAt "context", entry.textAt "question"⟩

/-- The questions of an article, in the order in which they are nested. -/
def articleQuestions (article : Json) : List QuestionRecord :=
  (article.itemsAt "paragraphs").flatMap paragraphQuestions

end Json

/-- The record results that an item stands for where items are articles. -/
def flattened : ItemResult → List RecordResult
  | .error cause => [.error (.stream cause)]
  | .ok (.sample _) => [.error (.malformedRecord SetKind.squad.name (.notArticle "sample"))]
  | .ok (.row article) =>
    match Demand.firstUnmet? article.articleDemands with
    | some demand => [.error (.malformedRecord SetKind.squad.name demand.flaw)]
    | none => questionResults article.articleQuestions

section Checked

/-- A value, or the flaw of the first demand that is not met. -/
def checked (demands : List Demand) (value : α) : Except Flaw α :=
  match Demand.firstUnmet? demands with
  | some demand => .error demand.flaw
  | none => .ok value

/-- What is checked after something else comes behind it in the order of demands. -/
theorem checked_bind
    {demands more : List Demand}
    {value : α}
    {next : α → Except Flaw β}
    {result : β}
    (goesOn : next value = checked more result) :
    (checked demands value >>= next) = checked (demands ++ more) result := by
  rw [checked, checked, Demand.firstUnmet?, Demand.firstUnmet?, List.find?_append]
  cases demands.find? fun demand => !demand.isMet with
  | none => exact goesOn
  | some demand => rfl

/-- What is done with a checked value makes no further demands. -/
theorem checked_map (demands : List Demand) (value : α) (change : α → β) :
    (checked demands value >>= fun value => pure (change value)) =
      checked demands (change value) := by
  have nothing : (fun value => pure (change value) : α → Except Flaw β) value =
      checked [] (change value) := rfl
  have whole : (checked demands value >>= fun value => pure (change value)) =
      checked (demands ++ []) (change value) := checked_bind nothing
  rw [whole, List.append_nil]

/-- Values that are checked one after the other make all their demands in order. -/
theorem mapM_eq_checked
    {read : α → Except Flaw β}
    {demands : α → List Demand}
    {content : α → β}
    (each : ∀ value, read value = checked (demands value) (content value))
    (values : List α) :
    values.mapM read = checked (values.flatMap demands) (values.map content) := by
  induction values with
  | nil => rfl
  | cons value rest inductionHypothesis =>
    have behind : (rest.mapM read >>= fun contents => pure (content value :: contents)) =
        checked (rest.flatMap demands) (content value :: rest.map content) := by
      rw [inductionHypothesis, checked_map]
    rw [List.mapM_cons, each, List.flatMap_cons, List.map_cons]
    exact checked_bind behind

theorem stringField_eq_checked (value : Json) (name : String) :
    stringField value name = checked [.text value name] (value.textAt name) := by
  rw [stringField, checked, Demand.firstUnmet?, List.find?_singleton, Demand.isMet, Json.textAt]
  cases (value.field? name).bind Json.text? with
  | none => rfl
  | some text => rfl

theorem arrayField_eq_checked (value : Json) (name : String) :
    arrayField value name = checked [.items value name] (value.itemsAt name) := by
  rw [arrayField, checked, Demand.firstUnmet?, List.find?_singleton, Demand.isMet, Json.itemsAt]
  cases (value.field? name).bind Json.items? with
  | none => rfl
  | some items => rfl

end Checked

namespace QuestionRecord

/-- Reading a paragraph checks what it needs and gives its questions. -/
theorem ofParagraph_eq_checked (paragraph : Json) :
    ofParagraph paragraph = checked paragraph.paragraphDemands paragraph.paragraphQuestions := by
  have questions : ((paragraph.itemsAt "qas").mapM fun entry => do
        let question ← stringField entry "question"
        return QuestionRecord.mk (paragraph.textAt "context") question) =
      checked ((paragraph.itemsAt "qas").map fun entry => .text entry "question")
        paragraph.paragraphQuestions := by
    rw [List.map_eq_flatMap]
    apply mapM_eq_checked
    intro entry
    rw [stringField_eq_checked, checked_map]
  rw [ofParagraph, stringField_eq_checked, arrayField_eq_checked]
  exact checked_bind (checked_bind questions)

/-- Reading an article checks what it needs and gives its questions. -/
theorem ofArticle_eq_checked (article : Json) :
    ofArticle article = checked article.articleDemands article.articleQuestions := by
  have paragraphs : ((article.itemsAt "paragraphs").mapM ofParagraph >>= fun questions =>
        pure questions.flatten) =
      checked ((article.itemsAt "paragraphs").flatMap Json.paragraphDemands)
        article.articleQuestions := by
    rw [mapM_eq_checked ofParagraph_eq_checked, checked_map, ← List.flatMap_def]
    rfl
  rw [ofArticle, arrayField_eq_checked]
  exact checked_bind paragraphs

end QuestionRecord

/-- The results of an item are what it stands for. -/
theorem SetKind.results_squad (item : ItemResult) : squad.results item = flattened item := by
  match item with
  | .error cause => rfl
  | .ok (.sample sample) => rfl
  | .ok (.row article) =>
    rw [results, flattened, articleOfItem, QuestionRecord.ofArticle_eq_checked, checked]
    cases Demand.firstUnmet? article.articleDemands with
    | some demand => rfl
    | none => exact (questionResults_eq_map _).symm

section WellFormed

variable {value paragraph article : Json} {name : String}

theorem Json.hasText_of_isMet (met : (Demand.text value name).isMet = true) :
    value.HasText name (value.textAt name) := by
  obtain ⟨text, found⟩ := Option.isSome_iff_exists.mp met
  obtain ⟨content, isContent, isText⟩ := Option.bind_eq_some_iff.mp found
  rw [Json.HasText, Json.textAt, found, isContent, Option.getD_some]
  cases content with
  | string held => rw [← Option.some.inj isText]
  | _ => cases isText

theorem Json.hasItems_of_isMet (met : (Demand.items value name).isMet = true) :
    value.HasItems name (value.itemsAt name) := by
  obtain ⟨items, found⟩ := Option.isSome_iff_exists.mp met
  obtain ⟨content, isContent, areItems⟩ := Option.bind_eq_some_iff.mp found
  rw [Json.HasItems, Json.itemsAt, found, isContent, Option.getD_some]
  cases content with
  | array held => rw [← Option.some.inj areItems]
  | _ => cases areItems

/-- A paragraph that has what it needs is well-formed. -/
theorem Json.isParagraph_of_met (met : ∀ demand ∈ paragraph.paragraphDemands, demand.isMet = true) :
    paragraph.IsParagraph
      ⟨paragraph.textAt "context", (paragraph.itemsAt "qas").map (textAt · "question")⟩ := by
  rw [Json.paragraphDemands, List.forall_mem_cons, List.forall_mem_cons, List.forall_mem_map] at met
  refine ⟨Json.hasText_of_isMet met.1, _, Json.hasItems_of_isMet met.2.1, ?_⟩
  rw [List.forall₂_map_right_iff, List.forall₂_same]
  exact fun entry among => Json.hasText_of_isMet (met.2.2 entry among)

/-- The articles that have what they need are those that are well-formed. -/
theorem firstUnmet?_articleDemands_eq_none_iff :
    Demand.firstUnmet? article.articleDemands = none ↔
      ∃ paragraphs, article.IsArticle paragraphs := by
  constructor
  · intro noneUnmet
    have met : ∀ demand ∈ article.articleDemands, demand.isMet = true := by
      intro demand among
      have isMet := List.find?_eq_none.mp noneUnmet demand among
      rw [Bool.not_eq_true, Bool.not_eq_false'] at isMet
      exact isMet
    rw [Json.articleDemands, List.forall_mem_cons, List.forall_mem_flatMap] at met
    refine ⟨(article.itemsAt "paragraphs").map fun paragraph =>
        ⟨paragraph.textAt "context", (paragraph.itemsAt "qas").map (Json.textAt · "question")⟩,
      _, Json.hasItems_of_isMet met.1, ?_⟩
    rw [List.forall₂_map_right_iff, List.forall₂_same]
    exact fun paragraph among => Json.isParagraph_of_met (met.2 paragraph among)
  · rintro ⟨paragraphs, isArticle⟩
    have read := QuestionRecord.ofArticle_of_isArticle isArticle
    rw [QuestionRecord.ofArticle_eq_checked, checked] at read
    cases unmet : Demand.firstUnmet? article.articleDemands with
    | none => rfl
    | some demand =>
      rw [unmet] at read
      cases read

/-- A well-formed article stands for its questions, paragraph by paragraph. -/
theorem flattened_of_isArticle
    {paragraphs : List Paragraph}
    (isArticle : article.IsArticle paragraphs) :
    flattened (.ok (.row article)) = questionResults (paragraphs.flatMap Paragraph.records) := by
  rw [← SetKind.results_squad,
    SetKind.results_article (QuestionRecord.ofArticle_of_isArticle isArticle)]
  rfl

end WellFormed

end Holdout
