import Holdout.Binding
import Holdout.Record
import Holdout.Request
import Holdout.Source

/-!
# Validation sets

The three sets that can be evaluated. A set says what to ask of a source, which
records an item of the source holds, and how a record becomes a binding.
-/

namespace Holdout

/-- The validation sets. -/
inductive SetKind
  /-- The ILSVRC 2012 validation images, read from an archive. -/
  | imageNet
  /-- The SQuAD questions, read from their own document. -/
  | squad
  /-- The SQuAD questions, read as rows of a hosted dataset. -/
  | squadHub
  deriving DecidableEq, Repr

namespace SetKind

/-- The name that stands for the set in reports and arguments. -/
def name : SetKind → String
  | .imageNet => "imagenet-2012-val"
  | .squad => "squad-v1.1"
  | .squadHub => "squad-hf"

/-- All sets. -/
def all : List SetKind := [.imageNet, .squad, .squadHub]

/-- The names of all sets. -/
def names : List String := all.map name

/-- The set of a name. -/
def ofName? (name : String) : Option SetKind := all.find? fun kind => kind.name = name

/-- Where the set is read from unless told otherwise. -/
def defaultLocator : SetKind → String
  | .imageNet => "https://image-net.org/data/ILSVRC/2012/ILSVRC2012_img_val.tar"
  | .squad =>
    "https://raw.githubusercontent.com/rajpurkar/SQuAD-explorer/master/dataset/dev-v1.1.json"
  | .squadHub => "squad"

/-- What the set asks of a source for data at `location`. -/
def request (kind : SetKind) (location : String) : LoadRequest :=
  match kind with
  | .imageNet => ⟨.webDataset, location, "val", none⟩
  | .squad => ⟨.json, location, "val", some "data"⟩
  | .squadHub => ⟨.hub, location, "validation", none⟩

end SetKind

/-- A record of a stream, or the error in its place. -/
abbrev RecordResult := Except DatasetError Record

namespace SetKind

/-- A record, or the flaw that keeps it from being one, as a result of this set. -/
def result (kind : SetKind) : Except Flaw Record → RecordResult
  | .ok record => .ok record
  | .error flaw => .error (.malformedRecord kind.name flaw)

/-- The record of an archive's sample. -/
def imageOfItem : Item → Except Flaw Record
  | .sample sample => (ImageRecord.ofSample sample).map .image
  | item => .error (.notSample item.kind)

/-- The record of a row with one question. -/
def questionOfItem : Item → Except Flaw Record
  | .row row => (QuestionRecord.ofRow row).map .question
  | item => .error (.notRow item.kind)

/-- The records of a row with an article. -/
def articleOfItem : Item → Except Flaw (List Record)
  | .row article => (QuestionRecord.ofArticle article).map (List.map .question)
  | item => .error (.notArticle item.kind)

/-- The results that an item of the source stands for: always one, except that an article stands
for all of its questions. -/
def results (kind : SetKind) : ItemResult → List RecordResult
  | .error cause => [.error (.stream cause)]
  | .ok item =>
    match kind with
    | .imageNet => [kind.result (imageOfItem item)]
    | .squadHub => [kind.result (questionOfItem item)]
    | .squad =>
      match articleOfItem item with
      | .ok records => records.map .ok
      | .error flaw => [.error (.malformedRecord kind.name flaw)]

end SetKind

/-- The greatest sequence length that a text preprocessor is asked for. -/
def maxSequenceLength : Nat := 384

/-- How a record becomes tensors; the caller brings it. -/
inductive Preprocessor
  /-- Turns an encoded image into a tensor. -/
  | image (run : ByteArray → Except Failure Tensor)
  /-- Turns a question, its context and a greatest length into named tensors. -/
  | text (run : String → String → Nat → Except Failure InputBinding)

/-- A preprocessor each of whose calls is an action of `m`. -/
inductive Preprocessor.Acting (m : Type → Type)
  | image (run : ByteArray → m (Except Failure Tensor))
  | text (run : String → String → Nat → m (Except Failure InputBinding))

/-- What a preprocessor is asked in one call. -/
inductive Preprocessor.Call
  | image (jpeg : ByteArray)
  | text (question context : String) (length : Nat)

namespace Preprocessor

/-- The word for the kind of preprocessor in messages. -/
def kind : Preprocessor → String
  | .image _ => "image"
  | .text _ => "text"

/-- The preprocessor as it is shown for inspection. -/
def shown (preprocessor : Preprocessor) : String := "Preprocessor::" ++ preprocessor.kind

/-- The word for the kind of preprocessor in messages. -/
def Acting.kind : Acting m → String
  | .image _ => "image"
  | .text _ => "text"

/-- The preprocessor, whose calls do nothing beside. -/
def acting (m : Type → Type) [Monad m] : Preprocessor → Acting m
  | .image run => .image fun jpeg => return run jpeg
  | .text run => .text fun question context length => return run question context length

/-- The preprocessor that also keeps what it was asked, the last call first. -/
def recording : Preprocessor → Acting (StateM (List Call))
  | .image run => .image fun jpeg => do
    modify (.image jpeg :: ·)
    return run jpeg
  | .text run => .text fun question context length => do
    modify (.text question context length :: ·)
    return run question context length

end Preprocessor

/-- A failure of preprocessing as an error of the dataset. -/
def preprocessed : Except Failure α → Except DatasetError α
  | .ok value => .ok value
  | .error cause => .error (.preprocess cause)

namespace SetKind

/-- The binding of an image: the tensor that was made, of the one accepted shape, under the one
input's name. -/
def bindImage (input : String) (made : Except Failure Tensor) :
    Except DatasetError InputBinding := do
  let tensor ← preprocessed made
  checkShape input tensor imageInputShape
  return NameMap.empty.insert input tensor

/-- The binding of a question: what was made of it, if the names are the inputs. -/
def bindQuestion (inputs : List String) (made : Except Failure InputBinding) :
    Except DatasetError InputBinding := do
  let binding ← preprocessed made
  checkNames inputs binding
  return binding

section Transform

variable [Monad m]

/-- Turn an image into the binding for a model with one input. -/
def transformImage (kind : SetKind) (inputs : List String) (record : Record)
    (preprocessor : Preprocessor.Acting m) : m (Except DatasetError InputBinding) :=
  match inputs with
  | [input] =>
    match record with
    | .question _ => return .error (.contractMismatch (.recordKind kind.name record.kind))
    | .image image =>
      match preprocessor with
      | .text _ => return .error (.contractMismatch (.needsImage kind.name preprocessor.kind))
      | .image run => return bindImage input (← run image.jpeg)
  | _ => return .error (.contractMismatch (.notSingle kind.name inputs))

/-- Turn a question into the binding for a model with these inputs. -/
def transformQuestion (kind : SetKind) (inputs : List String) (record : Record)
    (preprocessor : Preprocessor.Acting m) : m (Except DatasetError InputBinding) :=
  match record with
  | .image _ => return .error (.contractMismatch (.recordKind kind.name record.kind))
  | .question question =>
    match preprocessor with
    | .image _ => return .error (.contractMismatch (.needsText kind.name preprocessor.kind))
    | .text run =>
      return bindQuestion inputs
        (← run question.question question.context maxSequenceLength)

/-- Turn a record of the set into the binding for a model with these inputs, by a preprocessor whose
calls are actions. -/
def transformWith (kind : SetKind) (inputs : List String) (record : Record)
    (preprocessor : Preprocessor.Acting m) : m (Except DatasetError InputBinding) :=
  match kind with
  | .imageNet => kind.transformImage inputs record preprocessor
  | .squad => kind.transformQuestion inputs record preprocessor
  | .squadHub => kind.transformQuestion inputs record preprocessor

end Transform

/-- Turn a record of the set into the binding for a model with these inputs. -/
def transform (kind : SetKind) (inputs : List String) (record : Record)
    (preprocessor : Preprocessor) : Except DatasetError InputBinding :=
  (kind.transformWith inputs record (preprocessor.acting Id)).run

end SetKind

/-- A validation set and where it is read from. -/
structure ValidationSet where
  kind : SetKind
  locator : String
  deriving DecidableEq, Repr

namespace ValidationSet

/-- The set of a name, read from its own place. -/
def ofName (name : String) : Except Failure ValidationSet :=
  match SetKind.ofName? name with
  | some kind => .ok ⟨kind, kind.defaultLocator⟩
  | none => .error (.unknownDataset name SetKind.names)

/-- The set read from another place, if one is given. -/
def at? (set : ValidationSet) (locator : Option String) : ValidationSet :=
  match locator with
  | some place => { set with locator := place }
  | none => set

/-- The name of the set. -/
def name (set : ValidationSet) : String := set.kind.name

/-- What the set asks of a source. -/
def request (set : ValidationSet) : LoadRequest := set.kind.request set.locator

end ValidationSet

end Holdout
