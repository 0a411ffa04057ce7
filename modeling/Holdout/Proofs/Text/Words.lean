import Holdout.Proofs.Text.Blank

/-!
# Words of a text

A text falls apart into words in one way only: words are maximal runs of characters that are not white
space, and between them, before the first and behind the last there is nothing but white space.
-/

namespace Holdout
namespace Text

/-- A word: characters of which none is white space. -/
structure IsWord (word : List Char) : Prop where
  nonempty : word ≠ []
  solid : ∀ c ∈ word, isBlank c = false

/-- The maximal words of a text, from the first one to the last. -/
inductive HasWords : List Char → List (List Char) → Prop
  | blank {gap : List Char} : AllBlank gap → HasWords gap []
  | word {gap word rest : List Char} {words : List (List Char)} :
      AllBlank gap →
      IsWord word →
      (∀ c ∈ rest.head?, isBlank c = true) →
      HasWords rest words →
      HasWords (gap ++ word ++ rest) (word :: words)

section Words

variable {text gap word rest begun : List Char} {words : List (List Char)}

/-- White space before a text does not change its words. -/
theorem HasWords.cons_blank {c : Char} (isBlankChar : isBlank c = true)
    (hasWords : HasWords text words) : HasWords (c :: text) words := by
  cases hasWords with
  | blank allBlank => exact .blank (List.forall_mem_cons.mpr ⟨isBlankChar, allBlank⟩)
  | @word gap word rest words allBlank isWord ended hasWords =>
    have more : AllBlank (c :: gap) := List.forall_mem_cons.mpr ⟨isBlankChar, allBlank⟩
    exact HasWords.word more isWord ended hasWords

theorem wordsAfter_cons_blank {c : Char} (isBlankChar : isBlank c = true) (text : List Char) :
    wordsAfter [] (c :: text) = wordsAfter [] text := by
  rw [wordsAfter, if_pos isBlankChar]
  rfl

theorem wordsAfter_append_of_allBlank (allBlank : AllBlank gap) (text : List Char) :
    wordsAfter [] (gap ++ text) = wordsAfter [] text := by
  induction gap with
  | nil => rfl
  | cons c gap inductionHypothesis =>
    obtain ⟨isBlankChar, allBlank⟩ := List.forall_mem_cons.mp allBlank
    rw [List.cons_append, wordsAfter_cons_blank isBlankChar, inductionHypothesis allBlank]

/-- What is no white space is added to the word that has been begun. -/
theorem wordsAfter_append_of_solid
    (solid : ∀ c ∈ word, isBlank c = false)
    (begun text : List Char) :
    wordsAfter begun (word ++ text) = wordsAfter (word.reverse ++ begun) text := by
  induction word generalizing begun with
  | nil => rfl
  | cons c word inductionHypothesis =>
    obtain ⟨notBlank, solid⟩ := List.forall_mem_cons.mp solid
    rw [List.cons_append, wordsAfter, notBlank, if_neg Bool.false_ne_true,
      inductionHypothesis solid, List.reverse_cons, List.append_assoc, List.singleton_append]

/-- White space and the end of the text end a word. -/
theorem wordsAfter_of_ended
    (nonempty : begun ≠ [])
    (ended : ∀ c ∈ rest.head?, isBlank c = true) :
    wordsAfter begun rest = begun.reverse :: wordsAfter [] rest := by
  have notEmpty : begun.isEmpty = false := List.isEmpty_eq_false_iff.mpr nonempty
  cases rest with
  | nil =>
    rw [wordsAfter, notEmpty, if_neg Bool.false_ne_true]
    rfl
  | cons c rest =>
    rw [wordsAfter, if_pos (ended c rfl), notEmpty, if_neg Bool.false_ne_true,
      wordsAfter_cons_blank (ended c rfl)]

/-- A text has the words that are found in it, where the first of them may have been begun. -/
theorem hasWords_wordsAfter (text : List Char) (solid : ∀ c ∈ begun, isBlank c = false) :
    HasWords (begun.reverse ++ text) (wordsAfter begun text) := by
  induction text generalizing begun with
  | nil =>
    by_cases empty : begun = []
    · rw [empty]
      exact .blank allBlank_nil
    · have isWord : IsWord begun.reverse :=
        ⟨mt List.reverse_eq_nil_iff.mp empty, fun c member => solid c (List.mem_reverse.mp member)⟩
      have ended : ∀ c ∈ ([] : List Char).head?, isBlank c = true := nofun
      rw [wordsAfter_of_ended empty ended]
      exact HasWords.word allBlank_nil isWord ended (.blank allBlank_nil)
  | cons c rest inductionHypothesis =>
    by_cases isBlankChar : isBlank c = true
    · have hasWords : HasWords (c :: rest) (wordsAfter [] rest) :=
        HasWords.cons_blank isBlankChar (inductionHypothesis (List.forall_mem_nil _))
      have same : wordsAfter [] (c :: rest) = wordsAfter [] rest :=
        wordsAfter_cons_blank isBlankChar rest
      have ended : ∀ d ∈ (c :: rest).head?, isBlank d = true := by
        intro d isHead
        rwa [← Option.some.inj isHead]
      by_cases empty : begun = []
      · rw [empty, same]
        exact hasWords
      · have isWord : IsWord begun.reverse :=
          ⟨mt List.reverse_eq_nil_iff.mp empty, fun c member => solid c (List.mem_reverse.mp member)⟩
        rw [wordsAfter_of_ended empty ended, same]
        exact HasWords.word allBlank_nil isWord ended hasWords
    · rw [Bool.not_eq_true] at isBlankChar
      have more : ∀ d ∈ c :: begun, isBlank d = false :=
        List.forall_mem_cons.mpr ⟨isBlankChar, solid⟩
      have hasWords := inductionHypothesis more
      rw [wordsAfter, isBlankChar, if_neg Bool.false_ne_true]
      rwa [List.reverse_cons, List.append_assoc, List.singleton_append] at hasWords

/-- The words that are found in a text are its maximal words, and it has no others. -/
theorem hasWords_iff : HasWords text words ↔ wordsAfter [] text = words := by
  constructor
  · intro hasWords
    induction hasWords with
    | @blank gap allBlank =>
      rw [← List.append_nil gap, wordsAfter_append_of_allBlank allBlank]
      rfl
    | @word gap word rest words allBlank isWord ended _ inductionHypothesis =>
      have begunNonempty : word.reverse ≠ [] := mt List.reverse_eq_nil_iff.mp isWord.nonempty
      rw [List.append_assoc, wordsAfter_append_of_allBlank allBlank,
        wordsAfter_append_of_solid isWord.solid, List.append_nil,
        wordsAfter_of_ended begunNonempty ended, List.reverse_reverse, inductionHypothesis]
  · intro found
    rw [← found]
    exact hasWords_wordsAfter text (List.forall_mem_nil _)

end Words

end Text
end Holdout
