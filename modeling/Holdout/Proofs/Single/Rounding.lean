import Mathlib.Algebra.Order.Ring.Int
import Holdout.Dyadic

/-!
# Whole numbers rounded to single precision

A single precision number keeps 24 binary digits. A whole number with more of them is rounded to the
nearest multiple of a power of two, and of two that are equally near to the even one. Rounding keeps the
order of whole numbers, but not all their differences.
-/

namespace Holdout

/-! ## Rounded quotients -/

section Quotients

variable {numerator other denominator : ℕ}

theorem roundedQuotient_mul_right
    {factor : ℕ}
    (positive : 0 < factor)
    (numerator denominator : ℕ) :
    roundedQuotient (numerator * factor) (denominator * factor) =
      roundedQuotient numerator denominator := by
  have quotient : numerator * factor / (denominator * factor) = numerator / denominator :=
    Nat.mul_div_mul_right _ _ positive
  have below : 2 * (numerator % denominator * factor) < denominator * factor ↔
      2 * (numerator % denominator) < denominator := by
    rw [← Nat.mul_assoc, Nat.mul_lt_mul_right positive]
  have half : 2 * (numerator % denominator * factor) = denominator * factor ↔
      2 * (numerator % denominator) = denominator := by
    rw [← Nat.mul_assoc, Nat.mul_left_inj positive.ne']
  simp only [roundedQuotient, Nat.mul_mod_mul_right, quotient, below, half]

theorem roundedQuotient_one (numerator : ℕ) : roundedQuotient numerator 1 = numerator := by
  rw [roundedQuotient, Nat.mod_one, Nat.div_one]
  exact if_pos (.inl Nat.one_pos)

/-- A quotient without a remainder is not changed. -/
theorem roundedQuotient_mul_self (positive : 0 < denominator) (numerator : ℕ) :
    roundedQuotient (numerator * denominator) denominator = numerator := by
  have rounded := roundedQuotient_mul_right positive numerator 1
  rwa [Nat.one_mul, roundedQuotient_one] at rounded

theorem roundedQuotient_mono (atMost : numerator ≤ other) :
    roundedQuotient numerator denominator ≤ roundedQuotient other denominator := by
  have quotients : numerator / denominator ≤ other / denominator := Nat.div_le_div_right atMost
  have parts := Nat.div_add_mod numerator denominator
  have otherParts := Nat.div_add_mod other denominator
  rcases quotients.lt_or_eq with below | same
  · rw [roundedQuotient, roundedQuotient]
    split <;> split <;> omega
  · have remainders : numerator % denominator ≤ other % denominator := by
      rw [same] at parts
      omega
    rw [roundedQuotient, roundedQuotient, same]
    split <;> split <;> omega

end Quotients

/-! ## Rounded numbers -/

/-- The whole number that a natural number becomes in single precision. -/
def singleNat (whole : ℕ) : ℕ :=
  roundedQuotient whole (2 ^ (whole.log2 - 23)) * 2 ^ (whole.log2 - 23)

/-- The whole number that an integer becomes in single precision. -/
def singleInt (whole : ℤ) : ℤ := whole.sign * singleNat whole.natAbs

section Numbers

variable {whole other shift length : ℕ}

/-- Rounding to multiples of a power of two stays between larger powers of two. -/
theorem pow_le_roundedQuotient (atLeast : 2 ^ (length + shift) ≤ whole) :
    2 ^ length ≤ roundedQuotient whole (2 ^ shift) := by
  rw [pow_add] at atLeast
  calc
    2 ^ length = roundedQuotient (2 ^ length * 2 ^ shift) (2 ^ shift) :=
      (roundedQuotient_mul_self (Nat.two_pow_pos shift) _).symm
    _ ≤ roundedQuotient whole (2 ^ shift) := roundedQuotient_mono atLeast

theorem roundedQuotient_le_pow (atMost : whole ≤ 2 ^ (length + shift)) :
    roundedQuotient whole (2 ^ shift) ≤ 2 ^ length := by
  rw [pow_add] at atMost
  calc
    roundedQuotient whole (2 ^ shift) ≤ roundedQuotient (2 ^ length * 2 ^ shift) (2 ^ shift) :=
      roundedQuotient_mono atMost
    _ = 2 ^ length := roundedQuotient_mul_self (Nat.two_pow_pos shift) _

theorem pow_log2_le_singleNat (positive : 0 < whole) : 2 ^ whole.log2 ≤ singleNat whole := by
  have length : whole.log2 - (whole.log2 - 23) + (whole.log2 - 23) = whole.log2 := by omega
  calc
    2 ^ whole.log2 = 2 ^ (whole.log2 - (whole.log2 - 23)) * 2 ^ (whole.log2 - 23) := by
      rw [← pow_add, length]
    _ ≤ singleNat whole := by
      apply Nat.mul_le_mul_right
      apply pow_le_roundedQuotient
      rw [length]
      exact Nat.log2_self_le positive.ne'

theorem singleNat_le_pow (whole : ℕ) : singleNat whole ≤ 2 ^ (whole.log2 + 1) := by
  have length : whole.log2 + 1 - (whole.log2 - 23) + (whole.log2 - 23) = whole.log2 + 1 := by omega
  calc
    singleNat whole ≤ 2 ^ (whole.log2 + 1 - (whole.log2 - 23)) * 2 ^ (whole.log2 - 23) := by
      apply Nat.mul_le_mul_right
      apply roundedQuotient_le_pow
      rw [length]
      exact Nat.lt_log2_self.le
    _ = 2 ^ (whole.log2 + 1) := by rw [← pow_add, length]

theorem singleNat_of_log2_le (short : whole.log2 ≤ 23) : singleNat whole = whole := by
  rw [singleNat, Nat.sub_eq_zero_of_le short, pow_zero, roundedQuotient_one, mul_one]

/-- Natural numbers up to 2 ^ 24 are kept. -/
theorem singleNat_of_le (small : whole ≤ 2 ^ 24) : singleNat whole = whole := by
  rcases small.lt_or_eq with below | same
  · apply singleNat_of_log2_le
    by_cases positive : whole = 0
    · rw [positive]
      decide
    · exact Nat.le_of_lt_succ ((Nat.log2_lt positive).mpr below)
  · rw [same]
    decide

/-- Rounding keeps the order, also where a longer number is rounded to multiples of a larger power. -/
theorem singleNat_mono (atMost : whole ≤ other) : singleNat whole ≤ singleNat other := by
  by_cases positive : whole = 0
  · rw [positive, singleNat_of_le (Nat.zero_le _)]
    exact Nat.zero_le _
  · have lengths : whole.log2 ≤ other.log2 :=
      (Nat.le_log2 (by omega)).mpr ((Nat.log2_self_le positive).trans atMost)
    rcases lengths.lt_or_eq with shorter | same
    · calc
        singleNat whole ≤ 2 ^ (whole.log2 + 1) := singleNat_le_pow whole
        _ ≤ 2 ^ other.log2 := Nat.pow_le_pow_right (by decide) shorter
        _ ≤ singleNat other := pow_log2_le_singleNat (by omega)
    · rw [singleNat, singleNat, same]
      exact Nat.mul_le_mul_right _ (roundedQuotient_mono atMost)

end Numbers

section Integers

variable {whole other : ℤ}

theorem singleInt_natCast (whole : ℕ) : singleInt whole = singleNat whole := by
  rcases whole.eq_zero_or_pos with rfl | positive
  · decide
  · rw [singleInt, Int.natAbs_natCast, Int.sign_eq_one_of_pos (Int.natCast_pos.mpr positive), one_mul]

theorem singleInt_neg (whole : ℤ) : singleInt (-whole) = -singleInt whole := by
  rw [singleInt, singleInt, Int.natAbs_neg, Int.sign_neg, neg_mul]

theorem singleInt_mono (atMost : whole ≤ other) : singleInt whole ≤ singleInt other := by
  obtain ⟨size, rfl | rfl⟩ := Int.eq_nat_or_neg whole <;>
    obtain ⟨otherSize, rfl | rfl⟩ := Int.eq_nat_or_neg other <;>
    simp only [singleInt_neg, singleInt_natCast]
  · exact Int.ofNat_le.mpr (singleNat_mono (Int.ofNat_le.mp atMost))
  · obtain ⟨rfl, rfl⟩ : size = 0 ∧ otherSize = 0 := by omega
    decide
  · omega
  · have sizes : otherSize ≤ size := by omega
    exact neg_le_neg (Int.ofNat_le.mpr (singleNat_mono sizes))

/-- Integers of at most 2 ^ 24 are kept, with either sign. -/
theorem singleInt_of_natAbs_le (small : whole.natAbs ≤ 2 ^ 24) : singleInt whole = whole := by
  rw [singleInt, singleNat_of_le small, Int.sign_mul_natAbs]

end Integers
end Holdout
