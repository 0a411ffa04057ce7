import Holdout.Failure
import Holdout.Item
import Holdout.Text.Blank
import Holdout.Text.Decimal
import Holdout.Word

/-!
# Records

What the validation sets are made of. Items of a source become records here, so the
rest of the library never looks inside samples and rows.
-/

namespace Holdout

/-- One image of a classification set. -/
structure ImageRecord where
  /-- The key of the image's sample. -/
  key : String
  /-- The encoded image. -/
  jpeg : ByteArray
  /-- The class of the image, where the set tells it. -/
  label : Option Int

/-- A question about a paragraph of text. -/
structure QuestionRecord where
  context : String
  question : String
  deriving DecidableEq, Repr

/-- A record of a validation set. -/
inductive Record
  | image (value : ImageRecord)
  | question (value : QuestionRecord)

namespace Record

/-- The word for the kind of record in messages. -/
def kind : Record → String
  | .image _ => "image"
  | .question _ => "question"

/-- The class that the record tells. -/
def label? : Record → Option Int
  | .image value => value.label
  | .question _ => none

end Record

/-- The range of class labels. -/
def inLabelRange (value : Int) : Bool := -(Word.signedLimit : Int) ≤ value && value < Word.signedLimit

/-- A class label: UTF-8 text that holds a 64 bit integer between white space. -/
def readLabel? (bytes : ByteArray) : Option Int := do
  let text ← String.fromUTF8? bytes
  let value ← Text.integer? (Text.dropBlankEnds text.toList)
  if inLabelRange value then some value else none

namespace ImageRecord

/-- The encoded image of a sample. -/
def imageMember? (members : NameMap ByteArray) : Option ByteArray :=
  match members.find? "jpeg" with
  | some data => some data
  | none => members.find? "jpg"

/-- The class label of a sample, where it has one. -/
def readMemberLabel (key : String) (members : NameMap ByteArray) : Except Flaw (Option Int) :=
  match members.find? "cls" with
  | none => .ok none
  | some bytes =>
    match readLabel? bytes with
    | some value => .ok (some value)
    | none => .error (.unreadableLabel key)

/-- Read an image record from a sample. -/
def ofSample (sample : Sample) : Except Flaw ImageRecord :=
  match imageMember? sample.members with
  | none => .error (.noImage sample.key sample.members.names)
  | some jpeg => do
    let label ← readMemberLabel sample.key sample.members
    return ⟨sample.key, jpeg, label⟩

end ImageRecord

/-- The text under a name of an object. -/
def stringField (value : Json) (name : String) : Except Flaw String :=
  match (value.field? name).bind Json.text? with
  | some text => .ok text
  | none => .error (.missingString name)

/-- The items under a name of an object. -/
def arrayField (value : Json) (name : String) : Except Flaw (List Json) :=
  match (value.field? name).bind Json.items? with
  | some items => .ok items
  | none => .error (.missingArray name)

namespace QuestionRecord

/-- Read a question from a row with a `question` and a `context`. -/
def ofRow (row : Json) : Except Flaw QuestionRecord := do
  let context ← stringField row "context"
  let question ← stringField row "question"
  return ⟨context, question⟩

/-- The questions that a paragraph asks about its context. -/
def ofParagraph (paragraph : Json) : Except Flaw (List QuestionRecord) := do
  let context ← stringField paragraph "context"
  let entries ← arrayField paragraph "qas"
  entries.mapM fun entry => do
    let question ← stringField entry "question"
    return ⟨context, question⟩

/-- The questions of an article, paragraph by paragraph. -/
def ofArticle (article : Json) : Except Flaw (List QuestionRecord) := do
  let paragraphs ← arrayField article "paragraphs"
  let questions ← paragraphs.mapM ofParagraph
  return questions.flatten

end QuestionRecord

end Holdout
