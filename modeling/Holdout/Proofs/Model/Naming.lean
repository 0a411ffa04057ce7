import Holdout.Model.Interface

/-!
# Names that are cleaned

A cleaned name is what stands up to the first colon, without the number of a first output. Two names
become one when they agree up to there, or when one of them has the number and the other is the same
without it.
-/

namespace Holdout

/-- The ending of a first output's name. -/
def outputNumber : List Char := ['_', '0']

/-- The characters of a name up to its first colon. -/
def upToColon (name : String) : List Char := name.toList.takeWhile (· ≠ ':')

/-- Up to its first colon the name ends in the number of a first output. -/
def IsNumbered (name : String) : Prop := outputNumber <:+ upToColon name

instance (name : String) : Decidable (IsNumbered name) :=
  inferInstanceAs (Decidable (outputNumber <:+ upToColon name))

/-- The names become one when they are cleaned. -/
inductive NamesClash (one other : String) : Prop
  | same : upToColon one = upToColon other → NamesClash one other
  | first : upToColon one = upToColon other ++ outputNumber → ¬IsNumbered other →
      NamesClash one other
  | second : upToColon other = upToColon one ++ outputNumber → ¬IsNumbered one →
      NamesClash one other

theorem dropOutputNumber_append (name : List Char) :
    dropOutputNumber (name ++ outputNumber) = name := by
  simp [dropOutputNumber, outputNumber]

theorem dropOutputNumber_of_not_suffix {name : List Char} (unnumbered : ¬outputNumber <:+ name) :
    dropOutputNumber name = name := by
  unfold dropOutputNumber
  split
  · rename_i rest reversed
    rw [List.reverse_eq_iff] at reversed
    refine absurd ⟨rest.reverse, ?_⟩ unnumbered
    rw [reversed, outputNumber]
    simp
  · rfl

/-- Either the number is dropped, or there is none. -/
theorem dropOutputNumber_cases (name : String) :
    (IsNumbered name ∧ upToColon name = dropOutputNumber (upToColon name) ++ outputNumber) ∨
      (¬IsNumbered name ∧ dropOutputNumber (upToColon name) = upToColon name) := by
  by_cases numbered : IsNumbered name
  · left
    refine ⟨numbered, ?_⟩
    obtain ⟨bare, split⟩ := numbered
    rw [← split, dropOutputNumber_append]
  · exact Or.inr ⟨numbered, dropOutputNumber_of_not_suffix numbered⟩

theorem cleanName_eq_iff_dropOutputNumber {one other : String} :
    cleanName one = cleanName other ↔
      dropOutputNumber (upToColon one) = dropOutputNumber (upToColon other) :=
  String.ofList_inj

/-- Cleaning makes two names one just if they clash. -/
theorem cleanName_eq_cleanName_iff {one other : String} :
    cleanName one = cleanName other ↔ NamesClash one other := by
  rw [cleanName_eq_iff_dropOutputNumber]
  rcases dropOutputNumber_cases one with ⟨numbered, split⟩ | ⟨unnumbered, bare⟩ <;>
    rcases dropOutputNumber_cases other with ⟨numberedToo, splitToo⟩ | ⟨unnumberedToo, bareToo⟩
  · constructor
    · intro equal
      exact .same (by rw [split, splitToo, equal])
    · rintro (same | ⟨-, unnumbered⟩ | ⟨-, unnumbered⟩)
      · rw [same]
      · exact absurd numberedToo unnumbered
      · exact absurd numbered unnumbered
  · constructor
    · intro equal
      rw [bareToo] at equal
      exact .first (by rw [split, equal]) unnumberedToo
    · rintro (same | ⟨longer, -⟩ | ⟨-, unnumbered⟩)
      · rw [same]
      · rw [longer, dropOutputNumber_append, bareToo]
      · exact absurd numbered unnumbered
  · constructor
    · intro equal
      rw [bare] at equal
      exact .second (by rw [splitToo, ← equal]) unnumbered
    · rintro (same | ⟨-, unnumberedToo⟩ | ⟨longer, -⟩)
      · rw [same]
      · exact absurd numberedToo unnumberedToo
      · rw [longer, dropOutputNumber_append, bare]
  · constructor
    · intro equal
      rw [bare, bareToo] at equal
      exact .same equal
    · rintro (same | ⟨longer, -⟩ | ⟨longer, -⟩)
      · rw [same]
      · exact absurd ⟨_, longer.symm⟩ unnumbered
      · exact absurd ⟨_, longer.symm⟩ unnumberedToo

/-- Cleaned names are pairwise different just if no two of the names clash. -/
theorem nodup_map_cleanName_iff {names : List String} :
    (names.map cleanName).Nodup ↔ names.Pairwise fun one other => ¬NamesClash one other := by
  rw [List.Nodup, List.pairwise_map]
  simp only [ne_eq, cleanName_eq_cleanName_iff]

end Holdout
