import Mathlib.Data.List.DropRight
import Holdout.Text.Blank

/-!
# Trimmed text

Trimming cuts away white space around a text and nothing else, and what it leaves neither begins nor
ends with white space.
-/

namespace Holdout
namespace Text

/-- There is nothing but white space. -/
def AllBlank (text : List Char) : Prop := ∀ c ∈ text, isBlank c = true

instance (text : List Char) : Decidable (AllBlank text) :=
  List.decidableBAll (fun c => isBlank c = true) text

theorem allBlank_nil : AllBlank [] := List.forall_mem_nil _

/-- Neither the first character nor the last one is white space. -/
structure IsTrimmed (text : List Char) : Prop where
  first : ∀ c ∈ text.head?, isBlank c = false
  last : ∀ c ∈ text.getLast?, isBlank c = false

section Trimming

variable {text front behind : List Char}

theorem dropBlankEnd_eq_rdropWhile (text : List Char) :
    dropBlankEnd text = text.rdropWhile isBlank := rfl

/-- White space at the end is cut away, and then more of what stands before it. -/
theorem dropBlankEnd_append (blank : AllBlank behind) (text : List Char) :
    dropBlankEnd (text ++ behind) = dropBlankEnd text := by
  rw [dropBlankEnd, List.reverse_append, List.dropWhile_append_of_pos, dropBlankEnd]
  intro c member
  exact blank c (List.mem_reverse.mp member)

theorem dropBlankEnd_of_isTrimmed (trimmed : IsTrimmed text) : dropBlankEnd text = text := by
  rw [dropBlankEnd_eq_rdropWhile, List.rdropWhile_eq_self_iff]
  intro nonempty
  rw [trimmed.last _ (List.getLast?_eq_some_getLast nonempty)]
  exact Bool.false_ne_true

/-- White space around a trimmed text is cut away. -/
theorem dropBlankEnds_append
    (blankFront : AllBlank front)
    (trimmed : IsTrimmed text)
    (blankBehind : AllBlank behind) :
    dropBlankEnds (front ++ text ++ behind) = text := by
  rw [dropBlankEnds, List.append_assoc, List.dropWhile_append_of_pos blankFront]
  cases text with
  | nil =>
    have none : behind.dropWhile isBlank = [] := List.dropWhile_eq_nil_iff.mpr blankBehind
    rw [List.nil_append, none]
    rfl
  | cons c rest =>
    have kept : isBlank c = false := trimmed.first c rfl
    rw [List.cons_append, List.dropWhile_cons, kept, if_neg Bool.false_ne_true, ← List.cons_append,
      dropBlankEnd_append blankBehind, dropBlankEnd_of_isTrimmed trimmed]

/-- Only white space is cut away. -/
theorem exists_eq_append_dropBlankEnds (text : List Char) :
    ∃ front behind,
      AllBlank front ∧ AllBlank behind ∧ text = front ++ dropBlankEnds text ++ behind := by
  refine ⟨text.takeWhile isBlank, (text.dropWhile isBlank).rtakeWhile isBlank, ?_, ?_, ?_⟩
  · exact fun c member => List.mem_takeWhile_imp member
  · exact fun c member => List.mem_rtakeWhile_imp member
  · rw [dropBlankEnds, dropBlankEnd_eq_rdropWhile, List.append_assoc,
      List.rdropWhile_append_rtakeWhile, List.takeWhile_append_dropWhile]

end Trimming

end Text
end Holdout
