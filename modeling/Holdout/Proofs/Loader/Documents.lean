import Holdout.Loader.Basic
import Holdout.Proofs.Article
import Holdout.Proofs.Document
import Holdout.Proofs.Json.Lines
import Holdout.Proofs.RecordStream
import Holdout.Proofs.Text.Bytes

/-!
# Documents of a loader

What a loader makes of a document with one value, or with values on lines of their own: the items of
the arrays that the values hold under a name, or a failure to open if one of the values does not have
that name. From there the articles of a document become questions.
-/

namespace Holdout

/-- A list with one part exchanged stays in step with another whose part is exchanged as well. -/
theorem forall₂_set
    {related : α → β → Prop}
    {first : List α}
    {second : List β}
    (inStep : List.Forall₂ related first second)
    {one : α}
    {other : β}
    (areRelated : related one other)
    (index : Nat) :
    List.Forall₂ related (first.set index one) (second.set index other) := by
  induction inStep generalizing index with
  | nil => exact .nil
  | cons heads tails inductionHypothesis =>
    cases index with
    | zero => exact .cons areRelated tails
    | succ index => exact .cons heads (inductionHypothesis index)

namespace Json

/-- A document of articles is a value with an array of well-formed articles. -/
def IsDocument (value : Json) (contents : List (List Paragraph)) : Prop :=
  ∃ articles, value.HasItems "data" articles ∧ List.Forall₂ IsArticle articles contents

/-- The value is not an object, or it has nothing under the name. -/
def Lacks (value : Json) (name : String) : Prop :=
  ∀ fields, value = .object fields → name ∉ fields.map Prod.fst

theorem field?_of_lacks {value : Json} {name : String} (lacks : value.Lacks name) :
    value.field? name = none := by
  cases value with
  | object fields =>
    rw [field?_object, Option.map_eq_none_iff, List.find?_eq_none]
    intro field member same
    exact lacks fields rfl (List.mem_map.mpr ⟨field, member, of_decide_eq_true same⟩)
  | _ => rfl

/-- Documents have arrays of articles, which are well-formed all together. -/
theorem exists_articles_of_isDocument
    {values : List Json}
    {contents : List (List (List Paragraph))}
    (documents : List.Forall₂ IsDocument values contents) :
    ∃ arrays,
      List.Forall₂ (HasItems · "data") values arrays ∧
      List.Forall₂ IsArticle arrays.flatten contents.flatten := by
  induction documents with
  | nil => exact ⟨[], .nil, .nil⟩
  | cons isDocument _ inductionHypothesis =>
    obtain ⟨articles, hasArticles, wellFormed⟩ := isDocument
    obtain ⟨arrays, haveArrays, others⟩ := inductionHypothesis
    exact ⟨articles :: arrays, .cons hasArticles haveArrays, List.rel_append wellFormed others⟩

end Json

namespace Document

/-- A document of values on lines of their own has these values. -/
theorem values_joinLines
    {texts : List (List UInt8)}
    {values : List Json}
    (parsed : List.Forall₂ (fun text value => Json.parse? text = some value) texts values) :
    Document.values (joinLines texts) = .ok values :=
  values_eq_ok_iff.mpr (Json.parseAll?_joinLines parsed)

/-- The records of values with arrays under a name are the items of one array after the other. -/
theorem select_of_hasItems
    {name : String}
    {values : List Json}
    {arrays : List (List Json)}
    (haveArrays : List.Forall₂ (Json.HasItems · name) values arrays) :
    select (some name) values = .ok arrays.flatten := by
  refine select_some_eq_ok_iff.mpr ⟨arrays.map Json.array, ?_, ?_⟩
  · rw [List.forall₂_map_right_iff]
    exact haveArrays.imp fun {_ _} hasItems => Json.hasField_iff.mpr hasItems
  · rw [List.flatMap_map]
    exact List.flatMap_id

/-- If one value has nothing under a name, nothing is chosen from any of them. -/
theorem mapM_selectField_of_lacks
    {name : String}
    {values : List Json}
    {value : Json}
    (member : value ∈ values)
    (lacks : value.Lacks name) :
    values.mapM (selectField name) = .error (.missingField name) := by
  induction values with
  | nil => cases member
  | cons first others inductionHypothesis =>
    rw [List.mapM_cons]
    cases found : first.field? name with
    | none =>
      rw [selectField, found]
      rfl
    | some inner =>
      have among : value ∈ others := by
        rcases List.mem_cons.mp member with same | among
        · rw [← same, Json.field?_of_lacks lacks] at found
          cases found
        · exact among
      rw [selectField, found, inductionHypothesis among]
      rfl

theorem select_of_lacks
    {name : String}
    {values : List Json}
    {value : Json}
    (member : value ∈ values)
    (lacks : value.Lacks name) :
    select (some name) values = .error (.missingField name) := by
  rw [select_some, mapM_selectField_of_lacks member lacks]
  rfl

end Document

namespace Loader

/-- The loader has a document with these bytes, which can be read to its end. -/
def Serves (loader : Loader) (location : String) (bytes : List UInt8) : Prop :=
  ∃ body contents, (loader.fetcher.fetch location).value = .ok body ∧
    body.readAll? = some contents ∧ contents.toList = bytes

/-- A document that is registered under a location is served there. -/
theorem serves_ofDocuments
    {documents : NameMap Body}
    {location : String}
    {bytes : List UInt8}
    (registered : documents.find? location = some (.ofBytes ⟨bytes.toArray⟩))
    (config : LoaderConfig) :
    Loader.Serves ⟨.ofDocuments documents, config⟩ location bytes := by
  refine ⟨.ofBytes ⟨bytes.toArray⟩, ⟨bytes.toArray⟩, ?_, rfl, ?_⟩
  · simp only [Fetcher.ofDocuments, Logged.value_bind, registered]
    rfl
  · rw [Text.toList_eq_data_toList]

section Serves

variable {loader : Loader} {location split : String} {texts : List (List UInt8)}
  {values : List Json}

/-- The rows of a document that is served are chosen from its values, or else it is not opened. -/
theorem openStream_of_serves
    (serves : loader.Serves location (joinLines texts))
    (parsed : List.Forall₂ (fun text value => Json.parse? text = some value) texts values)
    (field : Option String) :
    (loader.source.openStream () ⟨.json, location, split, field⟩).value.1 =
      ((Document.select field values).mapError (.during (.selecting location))).map fun rows =>
        .rows (rowItems rows) := by
  obtain ⟨body, contents, fetched, read, same⟩ := serves
  have ofBody : Document.ofBody body location field =
      (Document.select field values).mapError (.during (.selecting location)) := by
    rw [Document.ofBody, read]
    simp only [same, Document.values_joinLines parsed]
    rfl
  simp only [source, openStream, openDocument, Logged.value_bind, fetched, Document.rows, ofBody]
  cases Document.select field values with
  | error cause => rfl
  | ok rows => rfl

/-- Rows that are at hand are brought one by one. -/
theorem brings_rows (loader : Loader) (items : List ItemResult) :
    loader.source.Brings (.rows items) items (.rows []) := by
  induction items with
  | nil => exact .nothing _
  | cons item items inductionHypothesis => exact .item rfl inductionHypothesis

/-- Documents that are served deliver the articles of one after the other. -/
theorem delivers_of_serves
    {arrays : List (List Json)}
    (serves : loader.Serves location (joinLines texts))
    (parsed : List.Forall₂ (fun text value => Json.parse? text = some value) texts values)
    (haveArrays : List.Forall₂ (Json.HasItems · "data") values arrays) :
    ValidationSet.Delivers ⟨.squad, location⟩ loader.source () (rowItems arrays.flatten) := by
  refine ⟨.rows (rowItems arrays.flatten), .rows [], ?_, loader.brings_rows _, rfl⟩
  change (loader.source.openStream () ⟨.json, location, "val", some "data"⟩).value.1 = _
  rw [openStream_of_serves serves parsed, Document.select_of_hasItems haveArrays]
  rfl

end Serves

end Loader

/-- Documents of articles, written on lines of their own, come through as their questions: document
by document, article by article and paragraph by paragraph, and then the end for ever after. White
space around a value is part of its line, so there may be empty lines and any other ends of lines.

If another value stands in place of one of the documents, one that is not an object or has nothing
under the name of the articles, the set does not open at all. -/
theorem openWith_documents_on_lines
    {texts : List (List UInt8)}
    {values : List Json}
    {contents : List (List (List Paragraph))}
    (parsed : List.Forall₂ (fun text value => Json.parse? text = some value) texts values)
    (documents : List.Forall₂ Json.IsDocument values contents)
    (location : String) :
    (∀ loader : Loader, loader.Serves location (joinLines texts) →
      ∃ stream,
        (ValidationSet.openWith ⟨.squad, location⟩ loader.source ()).value.1 = .ok stream ∧
        ∀ count, ∃ pass,
          (stream.nexts loader.source count).run? = some pass ∧
          pass.value.1 = (List.range count).map fun place =>
            (questionResults (questionsOf contents.flatten)).getD place (.error .exhausted)) ∧
    (∀ (loader : Loader) (index : Nat) (text : List UInt8) (value : Json),
      index < texts.length →
      Json.parse? text = some value →
      value.Lacks "data" →
      loader.Serves location (joinLines (texts.set index text)) →
      (ValidationSet.openWith ⟨.squad, location⟩ loader.source ()).value.1 =
        .error (.sourceUnavailable location
          (.during (.selecting location) (.missingField "data")))) := by
  constructor
  · intro loader serves
    obtain ⟨arrays, haveArrays, wellFormed⟩ := Json.exists_articles_of_isDocument documents
    obtain ⟨stream, isOpened, passes⟩ :=
      (Loader.delivers_of_serves serves parsed haveArrays).nexts
    refine ⟨stream, isOpened, ?_⟩
    intro count
    obtain ⟨pass, comes, told⟩ := passes count
    rw [SetKind.flatMap_results_of_articles wellFormed] at told
    exact ⟨pass, comes, told⟩
  · intro loader index text value inside isParsed lacks serves
    have member : value ∈ values.set index value := by
      apply List.mem_set
      rw [← parsed.length_eq]
      exact inside
    apply ValidationSet.openWith_of_unopened
    change (loader.source.openStream () ⟨.json, location, "val", some "data"⟩).value.1 = _
    rw [Loader.openStream_of_serves serves (forall₂_set parsed isParsed index),
      Document.select_of_lacks member lacks]
    rfl

/-- A document with two questions about one paragraph. -/
def shortDocument : List UInt8 :=
  Text.bytes ("\x7b\"data\":[\x7b\"paragraphs\":[\x7b\"context\":\"Rain.\"," ++
    "\"qas\":[\x7b\"question\":\"Where?\"\x7d,\x7b\"question\":\"Why?\"\x7d]\x7d]\x7d]\x7d")

/-- What the document holds. -/
def shortValue : Json :=
  .object [("data", .array [.object [("paragraphs", .array [
    .object [("context", .string "Rain."), ("qas", .array [
      .object [("question", .string "Where?")], .object [("question", .string "Why?")]])]])]])]

/-- A document with an article that says nothing. -/
def silentDocument : List UInt8 :=
  Text.bytes "\x7b \"data\": [\x7b\"paragraphs\": []\x7d] \x7d\n"

set_option maxRecDepth 2000 in
theorem parse?_shortDocument : Json.parse? shortDocument = some shortValue := by
  with_unfolding_all rfl

theorem parse?_silentDocument : Json.parse? silentDocument =
    some (.object [("data", .array [.object [("paragraphs", .array [])]])]) := by
  with_unfolding_all rfl

/-- A loader that has nothing but these lines. -/
def Loader.ofLines (texts : List (List UInt8)) : Loader :=
  ⟨.ofDocuments (NameMap.empty.insert "mem://dev.json" (.ofBytes ⟨(joinLines texts).toArray⟩)),
    .standard⟩

theorem Loader.serves_ofLines (texts : List (List UInt8)) :
    (Loader.ofLines texts).Serves "mem://dev.json" (joinLines texts) := by
  apply Loader.serves_ofDocuments
  rw [NameMap.find?_insert, if_pos rfl]

/-- A silent document between two others does not show. With a number in its place, not even the
questions of the first document are read. -/
theorem openWith_document_twice :
    (∃ stream,
      (ValidationSet.openWith ⟨.squad, "mem://dev.json"⟩
        (Loader.ofLines [shortDocument, silentDocument, shortDocument]).source ()).value.1 =
          .ok stream ∧
      ∃ pass,
        (stream.nexts (Loader.ofLines [shortDocument, silentDocument, shortDocument]).source
          6).run? = some pass ∧
        pass.value.1 = [.ok (.question ⟨"Rain.", "Where?"⟩), .ok (.question ⟨"Rain.", "Why?"⟩),
          .ok (.question ⟨"Rain.", "Where?"⟩), .ok (.question ⟨"Rain.", "Why?"⟩),
          .error .exhausted, .error .exhausted]) ∧
    (ValidationSet.openWith ⟨.squad, "mem://dev.json"⟩
      (Loader.ofLines [shortDocument, [55], shortDocument]).source ()).value.1 =
        .error (.sourceUnavailable "mem://dev.json"
          (.during (.selecting "mem://dev.json") (.missingField "data"))) := by
  have parsed : List.Forall₂ (fun text value => Json.parse? text = some value)
      [shortDocument, silentDocument, shortDocument] [shortValue, _, shortValue] :=
    .cons parse?_shortDocument (.cons parse?_silentDocument (.cons parse?_shortDocument .nil))
  have isDocument : shortValue.IsDocument [[⟨"Rain.", ["Where?", "Why?"]⟩]] :=
    ⟨_, rfl, .cons ⟨_, rfl, .cons ⟨rfl, _, rfl, .cons rfl (.cons rfl .nil)⟩ .nil⟩ .nil⟩
  have isSilent : Json.IsDocument
      (.object [("data", .array [.object [("paragraphs", .array [])]])]) [[]] :=
    ⟨_, rfl, .cons ⟨_, rfl, .nil⟩ .nil⟩
  obtain ⟨delivers, refuses⟩ := openWith_documents_on_lines parsed
    (.cons isDocument (.cons isSilent (.cons isDocument .nil))) "mem://dev.json"
  constructor
  · obtain ⟨stream, isOpened, passes⟩ := delivers _ (Loader.serves_ofLines _)
    obtain ⟨pass, comes, told⟩ := passes 6
    exact ⟨stream, isOpened, pass, comes, told⟩
  · have lacks : (Json.integer 7).Lacks "data" := fun _ isObject => Json.noConfusion isObject
    exact refuses _ 1 [55] (.integer 7) (by decide) rfl lacks (Loader.serves_ofLines _)

end Holdout
