import Holdout.Proofs.Text.Blank
import Holdout.Text.Decimal

/-!
# Numerals

The texts that stand for an integer: one or more decimal digits after at most one sign. Reading
accepts these texts and no others, with the value they stand for. The decimal text of an integer is
one of them, also with more zeros before its digits.
-/

namespace Holdout
namespace Text

/-- One or more decimal digits that have a value. -/
structure IsDigits (digits : List Char) (value : Nat) : Prop where
  nonempty : digits ≠ []
  areDigits : ∀ digit ∈ digits, digit.isDigit = true
  value_eq : Nat.ofDigitChars 10 digits 0 = value

/-- Digits that have a value, after at most one sign. -/
inductive IsNumeral : List Char → Int → Prop
  | unsigned {digits : List Char} {value : Nat} : IsDigits digits value → IsNumeral digits value
  | plus {digits : List Char} {value : Nat} :
      IsDigits digits value → IsNumeral ('+' :: digits) value
  | minus {digits : List Char} {value : Nat} :
      IsDigits digits value → IsNumeral ('-' :: digits) (-value)

/-- The decimal text of an integer, with more zeros before its digits. -/
def paddedDecimal (zeros : Nat) (value : Int) : List Char :=
  (if value < 0 then ['-'] else []) ++ List.replicate zeros '0' ++ (toString value.natAbs).toList

section Reading

variable {text digits : List Char}

theorem natural?_eq_some_iff {value : Nat} :
    natural? digits = some value ↔ IsDigits digits value := by
  rw [natural?, Option.ite_none_right_eq_some, Option.some.injEq, List.all_eq_true]
  exact ⟨fun ⟨⟨nonempty, areDigits⟩, same⟩ => ⟨nonempty, areDigits, same⟩,
    fun ⟨nonempty, areDigits, same⟩ => ⟨⟨nonempty, areDigits⟩, same⟩⟩

/-- A sign is no digit. -/
theorem IsDigits.not_cons_sign {value : Nat} {sign : Char} (notDigit : sign.isDigit = false) :
    ¬IsDigits (sign :: digits) value := by
  rintro ⟨-, areDigits, -⟩
  rw [areDigits sign List.mem_cons_self] at notDigit
  exact Bool.noConfusion notDigit

/-- Reading accepts numerals and nothing else, and gives their value. -/
theorem integer?_eq_some_iff {value : Int} :
    integer? text = some value ↔ IsNumeral text value := by
  constructor
  · intro read
    unfold integer? at read
    split at read <;> obtain ⟨number, isNumber, same⟩ := Option.map_eq_some_iff.mp read <;>
      rw [← same]
    · exact .plus (natural?_eq_some_iff.mp isNumber)
    · exact .minus (natural?_eq_some_iff.mp isNumber)
    · exact .unsigned (natural?_eq_some_iff.mp isNumber)
  · intro numeral
    cases numeral with
    | @unsigned digits number isDigits =>
      have read := natural?_eq_some_iff.mpr isDigits
      unfold integer?
      split
      · exact absurd isDigits (IsDigits.not_cons_sign rfl)
      · exact absurd isDigits (IsDigits.not_cons_sign rfl)
      · rw [read]
        rfl
    | plus isDigits =>
      rw [integer?, natural?_eq_some_iff.mpr isDigits]
      rfl
    | minus isDigits =>
      rw [integer?, natural?_eq_some_iff.mpr isDigits]
      rfl

end Reading

section Blanks

variable {text digits : List Char}

theorem isBlank_of_isDigit {digit : Char} (isDigit : digit.isDigit = true) :
    isBlank digit = false := by
  rw [Char.isDigit, Bool.and_eq_true, decide_eq_true_iff, decide_eq_true_iff,
    ge_iff_le, UInt32.le_iff_toNat_le, UInt32.le_iff_toNat_le] at isDigit
  have bounds : 48 ≤ digit.toNat ∧ digit.toNat ≤ 57 := isDigit
  simp only [isBlank, Bool.or_eq_false_iff, Bool.and_eq_false_iff, decide_eq_false_iff_not,
    beq_eq_false_iff_ne]
  omega

theorem IsDigits.isTrimmed {value : Nat} (isDigits : IsDigits digits value) : IsTrimmed digits where
  first digit member :=
    isBlank_of_isDigit (isDigits.areDigits digit (List.mem_of_mem_head? member))
  last digit member :=
    isBlank_of_isDigit (isDigits.areDigits digit (List.mem_of_mem_getLast? member))

/-- Digits behind something that is no white space. -/
theorem IsDigits.isTrimmed_cons {value : Nat} {sign : Char}
    (isDigits : IsDigits digits value) (notBlank : isBlank sign = false) :
    IsTrimmed (sign :: digits) where
  first c member := by
    rw [← Option.some.inj member]
    exact notBlank
  last c member := by
    rw [List.getLast?_cons_of_ne_nil isDigits.nonempty] at member
    exact isDigits.isTrimmed.last c member

/-- A numeral neither begins nor ends with white space. -/
theorem IsNumeral.isTrimmed {value : Int} (numeral : IsNumeral text value) : IsTrimmed text := by
  cases numeral with
  | unsigned isDigits => exact isDigits.isTrimmed
  | plus isDigits => exact isDigits.isTrimmed_cons rfl
  | minus isDigits => exact isDigits.isTrimmed_cons rfl

end Blanks

section Writing

/-- Zeros before digits do not change their value. -/
theorem ofDigitChars_replicate_append (zeros : Nat) (digits : List Char) :
    Nat.ofDigitChars 10 (List.replicate zeros '0' ++ digits) 0 = Nat.ofDigitChars 10 digits 0 := by
  induction zeros with
  | zero => rfl
  | succ zeros inductionHypothesis =>
    rw [List.replicate_succ, List.cons_append]
    exact inductionHypothesis

theorem isDigits_padded (zeros value : Nat) :
    IsDigits (List.replicate zeros '0' ++ (toString value).toList) value := by
  rw [Nat.toString_eq_repr, Nat.repr_eq_ofList_toDigits, String.toList_ofList]
  refine ⟨?_, ?_, ?_⟩
  · exact List.append_ne_nil_of_right_ne_nil _ Nat.toDigits_ne_nil
  · intro digit member
    rcases List.mem_append.mp member with isZero | isDigit
    · rw [(List.mem_replicate.mp isZero).2]
      rfl
    · exact Nat.isDigit_of_mem_toDigits (by decide) (by decide) isDigit
  · rw [ofDigitChars_replicate_append, Nat.ofDigitChars_toDigits (by decide) (by decide)]

/-- Different numbers are written in different ways. -/
theorem eq_of_toString_eq {value other : Nat} (same : toString value = toString other) :
    value = other := by
  have digits := natural?_eq_some_iff.mpr (isDigits_padded 0 value)
  have digitsToo := natural?_eq_some_iff.mpr (isDigits_padded 0 other)
  rw [same] at digits
  exact Option.some.inj (digits.symm.trans digitsToo)

/-- The decimal text of an integer stands for it, whatever zeros are before its digits. -/
theorem isNumeral_paddedDecimal (zeros : Nat) (value : Int) :
    IsNumeral (paddedDecimal zeros value) value := by
  have digits := isDigits_padded zeros value.natAbs
  rw [paddedDecimal, List.append_assoc]
  by_cases negative : value < 0
  · have numeral := IsNumeral.minus digits
    rw [if_pos negative]
    rwa [Int.ofNat_natAbs_of_nonpos (Int.le_of_lt negative), Int.neg_neg] at numeral
  · have numeral := IsNumeral.unsigned digits
    rw [if_neg negative]
    rwa [Int.natAbs_of_nonneg (Int.not_lt.mp negative)] at numeral

end Writing

end Text
end Holdout
