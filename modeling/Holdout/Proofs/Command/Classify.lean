import Mathlib.Tactic.FinCases
import Holdout.Command.Classify

/-!
# Verdicts by a file of labels

A file of labels has a line feed behind each of them. Cut at its line feeds it has one line more than
labels, with nothing on it, and this line counts as a label, too. So the first class without a label is
given the empty one, and only classes behind it are out of range.
-/

namespace Holdout
namespace Command

/-! ## Files of labels -/

/-- A label as a file tells it: on one line, and without white space at its end. -/
structure IsLabel (label : String) : Prop where
  oneLine : '\n' ∉ label.toList
  trimmed : Text.trimEnd label = label

/-- The text that has each label on a line of its own, with a line feed behind it. -/
def labelText (labels : List String) : String := String.join (labels.map (· ++ "\n"))

theorem toList_labelText (labels : List String) :
    (labelText labels).toList = labels.flatMap fun label => label.toList ++ ['\n'] := by
  rw [labelText, String.toList_join, List.flatMap_map]
  simp only [String.toList_append]
  rfl

/-- What stands before the first line feed is the first line. -/
theorem splitLines_append
    {line : List Char}
    (oneLine : '\n' ∉ line)
    (rest : List Char) :
    splitLines (line ++ '\n' :: rest) = line :: splitLines rest := by
  induction line with
  | nil => rw [List.nil_append, splitLines, if_pos rfl]
  | cons c line inductionHypothesis =>
    rw [List.mem_cons, not_or] at oneLine
    rw [List.cons_append, splitLines, if_neg (Ne.symm oneLine.1), inductionHypothesis oneLine.2]

/-- Behind the line feed of the last label there is one more line, with nothing on it. -/
theorem splitLines_flatMap
    {labels : List String}
    (areLabels : ∀ label ∈ labels, IsLabel label) :
    splitLines (labels.flatMap fun label => label.toList ++ ['\n']) =
      labels.map String.toList ++ [[]] := by
  induction labels with
  | nil => rfl
  | cons label labels inductionHypothesis =>
    rw [List.flatMap_cons, List.append_assoc, List.singleton_append,
      splitLines_append (areLabels label List.mem_cons_self).oneLine,
      inductionHypothesis fun other among => areLabels other (List.mem_cons_of_mem _ among),
      List.map_cons, List.cons_append]

/-- A file of labels is read as the labels and an empty one. -/
theorem labelsOf_labelText
    {labels : List String}
    (areLabels : ∀ label ∈ labels, IsLabel label) :
    labelsOf (labelText labels) = labels ++ [""] := by
  have kept : labels.map (fun label => Text.trimEnd (String.ofList label.toList)) = labels := by
    apply (List.map_congr_left _).trans (List.map_id labels)
    intro label among
    rw [String.ofList_toList, (areLabels label among).trimmed, id]
  rw [labelsOf, toList_labelText, splitLines_flatMap areLabels, List.map_append, List.map_map]
  exact congrArg (· ++ [""]) kept

theorem readLabels_of_labelText
    {disk : Disk}
    {path : List UInt8}
    {labels : List String}
    (areLabels : ∀ label ∈ labels, IsLabel label)
    (isFile : disk.read? path = some (labelText labels).toUTF8) :
    readLabels disk path = .ok (labels ++ [""]) := by
  have read : String.fromUTF8? (labelText labels).toUTF8 = some (labelText labels) := by
    rw [String.fromUTF8?, String.toUTF8_eq_toByteArray, dif_pos (labelText labels).isValidUTF8]
    rfl
  rw [readLabels, isFile, Option.bind_some, read, ← labelsOf_labelText areLabels]

/-! ## Verdicts -/

/-- The class that the model at a path predicts for the image at another, if inference succeeds. -/
def predictedClass (disk : Disk) (modelPath image : String) : Option Nat := do
  let model ← (Onnx.loadPath disk modelPath.toUTF8.toList).value.toOption
  let jpeg ← disk.read? image.toUTF8.toList
  let binding ← (imageBinding model image jpeg).toOption
  let outputs ← (model.run binding).toOption
  let scores ← (firstScores model outputs).toOption
  (argmax scores).toOption

theorem toOption_eq_some_iff {result : Except ε α} {value : α} :
    result.toOption = some value ↔ result = .ok value := by
  cases result with
  | error _ => simp [Except.toOption]
  | ok _ => simp [Except.toOption]

/-- Once the labels are read and inference has succeeded, the verdict is told by the label at the place
of the class. -/
theorem classifyImage_of_readLabels
    {disk : Disk}
    {modelPath labelsPath image : String}
    {labels : List String}
    {place : Nat}
    (read : readLabels disk labelsPath.toUTF8.toList = .ok labels)
    (predicted : predictedClass disk modelPath image = some place) :
    (classifyImage disk modelPath labelsPath (some image)).value =
      match labels[place]? with
      | some label => .lines [verdictLine image label]
      | none => .failed (.failure (.classOutOfRange place labels.length)) := by
  simp only [predictedClass, Option.bind_eq_bind, Option.bind_eq_some_iff, toOption_eq_some_iff]
    at predicted
  obtain ⟨model, loaded, jpeg, isImage, binding, bound, outputs, ran, scores, first, best⟩ :=
    predicted
  have judged : judgeBinding model labels binding =
      match labels[place]? with
      | some label => .ok label
      | none => .error (.failure (.classOutOfRange place labels.length)) := by
    simp only [judgeBinding, verdictLabel, ran, first, best, failing, bind, Except.bind]
    cases labels[place]? <;> rfl
  simp only [classifyImage, read, Logged.value_bind, loaded, classifyWith, isImage, bound,
    Logged.value_pure, judged]
  cases labels[place]? <;> rfl

/-- The empty label is found in every name that an image can have. -/
theorem verdictLine_empty
    {image stem : String}
    (named : (FilePath.fileStem? image.toUTF8.toList).bind
      (fun stem => String.fromUTF8? ⟨stem.toArray⟩) = some stem) :
    verdictLine image "" = "Correctly recognized " ++ image ++ " as " := by
  have within : isWithin [] stem.toList = true := by
    cases stem.toList <;> rfl
  have recognized : isRecognized "" image.toUTF8.toList = true := by
    rw [isRecognized, named]
    exact within
  rw [verdictLine, if_pos recognized, String.append_empty]
  rfl

/-- By a file of labels, a class before their number gets the verdict for the label on its line, and
one behind their number is out of range. The class at their number has no label either, but gets the
verdict for the empty one, which calls the image correctly recognized; and labels are counted with one
too many. -/
theorem classifyImage_by_labels
    {disk : Disk}
    {modelPath labelsPath image : String}
    {labels : List String}
    {place : Nat}
    (areLabels : ∀ label ∈ labels, IsLabel label)
    (isFile : disk.read? labelsPath.toUTF8.toList = some (labelText labels).toUTF8)
    (predicted : predictedClass disk modelPath image = some place) :
    (∀ inside : place < labels.length,
      (classifyImage disk modelPath labelsPath (some image)).value =
        .lines [verdictLine image labels[place]]) ∧
    (place = labels.length →
      (classifyImage disk modelPath labelsPath (some image)).value =
        .lines [verdictLine image ""] ∧
      ∀ stem,
        (FilePath.fileStem? image.toUTF8.toList).bind
          (fun stem => String.fromUTF8? ⟨stem.toArray⟩) = some stem →
        verdictLine image "" = "Correctly recognized " ++ image ++ " as ") ∧
    (labels.length < place →
      (classifyImage disk modelPath labelsPath (some image)).value =
        .failed (.failure (.classOutOfRange place (labels.length + 1)))) := by
  have read := readLabels_of_labelText areLabels isFile
  rw [classifyImage_of_readLabels read predicted]
  refine ⟨?_, ?_, ?_⟩
  · intro inside
    rw [List.getElem?_append_left inside, List.getElem?_eq_getElem inside]
  · intro atEnd
    rw [atEnd, List.getElem?_concat_length]
    exact ⟨rfl, fun _ named => verdictLine_empty named⟩
  · intro outside
    have none : (labels ++ [""])[place]? = none := by
      rw [List.getElem?_eq_none_iff, List.length_append, List.length_singleton]
      exact outside
    rw [none, List.length_append, List.length_singleton]

/-! ## A small model -/

/-- A model that gives an image the scores 0, 0 and 1, whatever it shows. -/
def lastOfThree : ByteArray :=
  .mk #[
    0x08, 0x07, 0x3a, 0x47, 0x2a, 0x15, 0x08, 0x03, 0x10, 0x01, 0x42, 0x01, 0x73, 0x4a, 0x0c, 0x00,
    0x00, 0x00, 0x00, 0x00, 0x00, 0x00, 0x00, 0x00, 0x00, 0x80, 0x3f, 0x5a, 0x1d, 0x0a, 0x01, 0x78,
    0x12, 0x18, 0x0a, 0x16, 0x08, 0x01, 0x12, 0x12, 0x0a, 0x02, 0x08, 0x01, 0x0a, 0x02, 0x08, 0x03,
    0x0a, 0x03, 0x08, 0xe0, 0x01, 0x0a, 0x03, 0x08, 0xe0, 0x01, 0x62, 0x0f, 0x0a, 0x01, 0x73, 0x12,
    0x0a, 0x0a, 0x08, 0x08, 0x01, 0x12, 0x04, 0x0a, 0x02, 0x08, 0x03]

/-- The picture of one dark grey point. -/
def greyPoint : ByteArray :=
  .mk #[
    0x89, 0x50, 0x4e, 0x47, 0x0d, 0x0a, 0x1a, 0x0a, 0x00, 0x00, 0x00, 0x0d, 0x49, 0x48, 0x44, 0x52,
    0x00, 0x00, 0x00, 0x01, 0x00, 0x00, 0x00, 0x01, 0x08, 0x00, 0x00, 0x00, 0x00, 0x3a, 0x7e, 0x9b,
    0x55, 0x00, 0x00, 0x00, 0x0d, 0x49, 0x44, 0x41, 0x54, 0x78, 0x01, 0x01, 0x02, 0x00, 0xfd, 0xff,
    0x00, 0x01, 0x00, 0x03, 0x00, 0x02, 0xdb, 0xae, 0x1f, 0xef, 0x00, 0x00, 0x00, 0x00, 0x49, 0x45,
    0x4e, 0x44, 0xae, 0x42, 0x60, 0x82]

/-- The model, the picture and a file with some labels. -/
def deskWith (labels : List String) : Disk :=
  .ofContents [
    ("m.onnx".toUTF8.toList, .ofBytes lastOfThree),
    ("x.png".toUTF8.toList, .ofBytes greyPoint),
    ("l.txt".toUTF8.toList, .ofBytes (labelText labels).toUTF8)]

/-- The last of three labels is told. -/
theorem classifyImage_by_three_labels :
    (∀ label ∈ ["a", "b", "x"], IsLabel label) ∧
      predictedClass (deskWith ["a", "b", "x"]) "m.onnx" "x.png" = some 2 ∧
      (classifyImage (deskWith ["a", "b", "x"]) "m.onnx" "l.txt" (some "x.png")).value =
        .lines ["Correctly recognized x.png as x"] := by
  have areLabels : ∀ label ∈ ["a", "b", "x"], IsLabel label := by
    intro label among
    fin_cases among <;> exact ⟨by decide, by decide⟩
  have predicted : predictedClass (deskWith ["a", "b", "x"]) "m.onnx" "x.png" = some 2 := by
    decide +kernel
  have isFile : (deskWith ["a", "b", "x"]).read? "l.txt".toUTF8.toList =
      some (labelText ["a", "b", "x"]).toUTF8 := by decide +kernel
  have told := (classifyImage_by_labels areLabels isFile predicted).1 (by decide)
  exact ⟨areLabels, predicted, told.trans (by decide +kernel)⟩

/-- A class without a label is told as if it had one. -/
theorem classifyImage_without_label :
    (∀ label ∈ ["a", "b"], label ≠ "" ∧ IsLabel label) ∧
      (deskWith ["a", "b"]).read? "l.txt".toUTF8.toList = some (labelText ["a", "b"]).toUTF8 ∧
      predictedClass (deskWith ["a", "b"]) "m.onnx" "x.png" = some ["a", "b"].length ∧
      (classifyImage (deskWith ["a", "b"]) "m.onnx" "l.txt" (some "x.png")).value =
        .lines ["Correctly recognized x.png as "] := by
  refine ⟨?_, by decide +kernel, by decide +kernel, by decide +kernel⟩
  intro label among
  fin_cases among <;> exact ⟨by decide, by decide, by decide⟩

end Command
end Holdout
