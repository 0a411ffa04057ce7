import Holdout.Proofs.Command.Classify
import Holdout.Proofs.FilePath
import Holdout.Proofs.Text.Bytes
import Holdout.Proofs.Text.Words

/-!
# Images named by labels

An image is recognized if its name shows the words of a label, joined by underscores: they stand
together somewhere in the stem of the file name. A label without words has nothing to show, and is
found in every name that is a text.
-/

namespace Holdout
namespace Command

/-- The name of an image has this text for its stem. -/
def HasStem (image : List UInt8) (stem : String) : Prop :=
  ∃ name, FilePath.fileName? image = some name ∧ FilePath.IsStemOf name (Text.bytes stem)

/-- The words stand in the stem of an image's name, joined by underscores. -/
def IsNamedBy (image : List UInt8) (words : List (List Char)) : Prop :=
  ∃ stem, HasStem image stem ∧ ['_'].intercalate words <:+: stem.toList

theorem isWithin_iff {sought text : List Char} : isWithin sought text = true ↔ sought <:+: text := by
  induction text with
  | nil => rw [isWithin, List.isEmpty_iff, List.infix_nil]
  | cons c rest inductionHypothesis =>
    rw [isWithin, Bool.or_eq_true, List.isPrefixOf_iff_prefix, inductionHypothesis,
      List.infix_cons_iff]

section Recognition

variable {label : String} {image : List UInt8} {words : List (List Char)}

/-- The stem that is read from the name of an image. -/
theorem stemText?_eq_some_iff {stem : String} :
    ((FilePath.fileStem? image).bind fun stem => String.fromUTF8? ⟨stem.toArray⟩) = some stem ↔
      HasStem image stem := by
  rw [Option.bind_eq_some_iff]
  constructor
  · rintro ⟨written, isStem, isText⟩
    rw [Text.text?_eq_some_iff.mp isText, FilePath.fileStem?_eq_some_iff] at isStem
    exact isStem
  · intro hasStem
    exact ⟨Text.bytes stem, FilePath.fileStem?_eq_some_iff.mpr hasStem, Text.text?_bytes stem⟩

/-- The text that is looked for joins the words of the label. -/
theorem toList_intercalate_words (hasWords : Text.HasWords label.toList words) :
    (String.intercalate "_" (Text.words label)).toList = ['_'].intercalate words := by
  have same : (Text.words label).map String.toList = words := by
    rw [Text.words, Text.hasWords_iff.mp hasWords, List.map_map]
    exact List.map_id'' (fun _ => String.toList_ofList) words
  rw [String.toList_intercalate, same]
  rfl

/-- An image is recognized just if it is named by the words of the label, however few. -/
theorem isRecognized_iff_isNamedBy (hasWords : Text.HasWords label.toList words) :
    isRecognized label image = true ↔ IsNamedBy image words := by
  rw [isRecognized, toList_intercalate_words hasWords]
  cases found : (FilePath.fileStem? image).bind fun stem => String.fromUTF8? ⟨stem.toArray⟩ with
  | none =>
    constructor
    · intro recognized
      cases recognized
    · rintro ⟨stem, hasStem, -⟩
      rw [stemText?_eq_some_iff.mpr hasStem] at found
      cases found
  | some stem =>
    rw [isWithin_iff]
    constructor
    · exact fun within => ⟨stem, stemText?_eq_some_iff.mp found, within⟩
    · rintro ⟨other, hasStem, within⟩
      rw [stemText?_eq_some_iff.mpr hasStem, Option.some.injEq] at found
      rwa [← found]

/-- Every image whose stem is a text is named by no words at all. -/
theorem isNamedBy_nil_iff : IsNamedBy image [] ↔ ∃ stem, HasStem image stem :=
  exists_congr fun _ => and_iff_left List.nil_infix

/-- A label with at least one word recognizes just the images that its words name. A label without
words recognizes every image with a text for its stem, though it names none; so what is recognized is
named by an actual label just if the label has a word or the stem is no text. -/
theorem isRecognized_by_words
    (hasWords : Text.HasWords label.toList words)
    (image : List UInt8) :
    (words ≠ [] → (isRecognized label image = true ↔ IsNamedBy image words)) ∧
      (words = [] → (isRecognized label image = true ↔ ∃ stem, HasStem image stem)) ∧
      ((isRecognized label image = true ↔ words ≠ [] ∧ IsNamedBy image words) ↔
        words ≠ [] ∨ ∀ stem, ¬HasStem image stem) := by
  rw [isRecognized_iff_isNamedBy hasWords]
  by_cases wordless : words = []
  · rw [wordless, isNamedBy_nil_iff]
    simp
  · simp [wordless]

/-- A label of two words names an image in a directory, with a second dot in its name. -/
theorem isRecognized_tabby_cat :
    Text.HasWords "tabby \tcat".toList ["tabby".toList, "cat".toList] ∧
      isRecognized "tabby \tcat" "cats/a_tabby_cat.v2.jpg".toUTF8.toList = true ∧
      ¬IsNamedBy "cats/tabby.cat.jpg".toUTF8.toList ["tabby".toList, "cat".toList] := by
  have hasWords : Text.HasWords "tabby \tcat".toList ["tabby".toList, "cat".toList] :=
    Text.hasWords_iff.mpr (by decide)
  refine ⟨hasWords, by decide +kernel, ?_⟩
  rw [← (isRecognized_by_words hasWords _).1 (List.cons_ne_nil _ _)]
  decide +kernel

/-- A blank line among the labels recognizes an image. -/
theorem isRecognized_without_word :
    Text.HasWords "".toList [] ∧
      isRecognized "" "x.png".toUTF8.toList = true ∧
      predictedClass (deskWith ["a", "b", "", "c"]) "m.onnx" "x.png" = some 2 ∧
      (classifyImage (deskWith ["a", "b", "", "c"]) "m.onnx" "l.txt" (some "x.png")).value =
        .lines ["Correctly recognized x.png as "] :=
  ⟨Text.hasWords_iff.mpr rfl, by decide +kernel, by decide +kernel, by decide +kernel⟩

end Recognition

end Command
end Holdout
