import Holdout.Command.Outcome
import Holdout.Image.Decode
import Holdout.Model.Onnx

/-!
# Classifying an image

A model's verdict on one image, by the label of its best score, and whether the name of the
image says the same.
-/

namespace Holdout
namespace Command

/-- The lines of a text. -/
def splitLines : List Char → List (List Char)
  | [] => [[]]
  | c :: rest =>
    if c = '\n' then [] :: splitLines rest
    else match splitLines rest with
      | line :: lines => (c :: line) :: lines
      | [] => [[c]]

/-- The labels in a text, one for each line; white space at the end of a line does not count. -/
def labelsOf (text : String) : List String :=
  (splitLines text.toList).map fun line => Text.trimEnd (String.ofList line)

/-- Read labels from a file. -/
def readLabels (disk : Disk) (path : List UInt8) : Except Failure (List String) :=
  match (disk.read? path).bind String.fromUTF8? with
  | some text => .ok (labelsOf text)
  | none => .error (.during (.readingLabels path) (.within .io))

/-- A text is found inside another one. -/
def isWithin (sought : List Char) : List Char → Bool
  | [] => sought.isEmpty
  | c :: rest => sought.isPrefixOf (c :: rest) || isWithin sought rest

/-- The words of a label, joined by underscores, are found in the name of an image. -/
def isRecognized (label : String) (image : List UInt8) : Bool :=
  match (FilePath.fileStem? image).bind fun stem => String.fromUTF8? ⟨stem.toArray⟩ with
  | some stem => isWithin (String.intercalate "_" (Text.words label)).toList stem.toList
  | none => false

/-- The scores of a run: the first of the model's outputs. -/
def firstScores (model : Model) (outputs : Outputs) : Except Failure Tensor :=
  match model.outputs.head?.bind fun output => outputs.find? output.1 with
  | some scores => .ok scores
  | none => .error .noOutputs

/-- The label of the best score. -/
def verdictLabel (labels : List String) (scores : Tensor) : Except Failure String := do
  let best ← argmax scores
  match labels[best]? with
  | some label => return label
  | none => throw (.classOutOfRange best labels.length)

/-- The line that tells the verdict on an image. -/
def verdictLine (image label : String) : String :=
  (if isRecognized label image.toUTF8.toList then "Correctly" else "Incorrectly") ++
    " recognized " ++ image ++ " as " ++ label

/-- A failure as the error of a command. -/
def failing : Except Failure α → Except EvalError α
  | .ok value => .ok value
  | .error cause => .error (.failure cause)

/-- An error of a dataset as the error of a command. -/
def failingSet : Except DatasetError α → Except EvalError α
  | .ok value => .ok value
  | .error error => .error (.dataset error)

/-- The binding for an image that has been read. -/
def imageBinding (model : Model) (image : String) (jpeg : ByteArray) :
    Except EvalError InputBinding :=
  failingSet (SetKind.imageNet.transform model.engine.inputNames (.image ⟨image, jpeg, none⟩)
    classifierPreprocessor)

/-- The label that a model gives to the image of a binding. -/
def judgeBinding (model : Model) (labels : List String) (binding : InputBinding) :
    Except EvalError String := do
  let outputs ← failing (model.run binding)
  let scores ← failing (firstScores model outputs)
  failing (verdictLabel labels scores)

/-- Classify an image with a model that is ready. -/
def classifyWith (disk : Disk) (model : Model) (labels : List String) (image : String) :
    Logged (Except EvalError String) := do
  Logged.note (.loadingImage image)
  match disk.read? image.toUTF8.toList with
  | none => return .error (.failure (.during (.readingFile image.toUTF8.toList) (.within .io)))
  | some jpeg =>
    match imageBinding model image jpeg with
    | .error error => return .error error
    | .ok binding => do
      Logged.note .inferring
      return judgeBinding model labels binding

/-- Classify an image: the labels are read first, then the model, then the image. -/
def classifyImage (disk : Disk) (modelPath labelsPath : String) (image : Option String) :
    Logged Outcome :=
  match readLabels disk labelsPath.toUTF8.toList with
  | .error cause => pure (.failed (.failure cause))
  | .ok labels => do
    match ← Onnx.loadPath disk modelPath.toUTF8.toList, image with
    | .error cause, _ => return .failed (.failure cause)
    | .ok _, none => return .failed (.failure .noImages)
    | .ok model, some image =>
      match ← classifyWith disk model labels image with
      | .error error => return .failed error
      | .ok label => return .lines [verdictLine image label]

end Command
end Holdout
