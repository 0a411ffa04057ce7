import Holdout.Proofs.Single.Order
import Holdout.Proofs.Single.Rounding

/-!
# Integers as single precision numbers

A single precision number is rounded by shifting its mantissa to 24 binary digits, where two bits tell
what has been shifted out. A natural number of at most 64 digits is converted as its own mantissa with
zeros behind it, which makes it the rounded number in full length; an integer keeps its sign. Numbers of
full length are in the order of the integers that they stand for.
-/

namespace Holdout
namespace Single

open Float.Model (Format UnpackedFloat totalExponent)
open Float.Model.UnpackedFloat

/-! ## Mantissas that are shifted -/

/-- An extended mantissa holds a quotient: its whole part, whether at least a half is left over, and
whether what is left over is anything but nothing and a half. -/
structure Holds (extended : ExtendedMantissa) (numerator denominator : ℕ) : Prop where
  mantissa : extended.mantissa = numerator / denominator
  round : extended.roundBit = true ↔ denominator ≤ 2 * (numerator % denominator)
  sticky : extended.stickyBit = true ↔
    2 * (numerator % denominator) ≠ 0 ∧ 2 * (numerator % denominator) ≠ denominator

section Shifting

variable {extended : ExtendedMantissa} {numerator denominator : ℕ}

theorem holds_exact (numerator : ℕ) :
    Holds (ExtendedMantissa.ofMantissaAndAccuracy numerator .exact) numerator 1 where
  mantissa := (Nat.div_one numerator).symm
  round := by simp [ExtendedMantissa.ofMantissaAndAccuracy, Nat.mod_one]
  sticky := by simp [ExtendedMantissa.ofMantissaAndAccuracy, Nat.mod_one]

theorem Holds.shiftRightOne
    (holds : Holds extended numerator denominator)
    (positive : 0 < denominator) :
    Holds extended.shiftRightOne numerator (denominator * 2) := by
  have rest : numerator % (denominator * 2) =
      numerator % denominator + denominator * (numerator / denominator % 2) := Nat.mod_mul
  have below : numerator % denominator < denominator := Nat.mod_lt _ positive
  have bit : numerator / denominator % 2 = 0 ∨ numerator / denominator % 2 = 1 := by omega
  refine ⟨?_, ?_, ?_⟩
  · rw [ExtendedMantissa.shiftRightOne, holds.mantissa, Nat.div_div_eq_div_mul]
  · rw [ExtendedMantissa.shiftRightOne, holds.mantissa, bne_iff_ne, rest]
    rcases bit with even | odd
    · rw [even]
      omega
    · rw [odd]
      omega
  · rw [ExtendedMantissa.shiftRightOne, Bool.or_eq_true, holds.round, holds.sticky, rest]
    rcases bit with even | odd
    · rw [even]
      omega
    · rw [odd]
      omega

theorem holds_shiftRight (numerator shift : ℕ) :
    Holds (ExtendedMantissa.ofMantissaAndAccuracy numerator .exact >>> shift) numerator
      (2 ^ shift) := by
  induction shift with
  | zero => exact holds_exact numerator
  | succ shift inductionHypothesis =>
    rw [pow_succ]
    exact inductionHypothesis.shiftRightOne (Nat.two_pow_pos shift)

/-- The mantissa is rounded as the quotient that it holds. -/
theorem Holds.roundedMantissa_eq
    (holds : Holds extended numerator denominator)
    (positive : 0 < denominator) :
    extended.roundedMantissa = roundedQuotient numerator denominator := by
  obtain ⟨mantissa, roundBit, stickyBit⟩ := extended
  obtain ⟨rfl, round, sticky⟩ := holds
  have below : numerator % denominator < denominator := Nat.mod_lt _ positive
  cases roundBit <;> cases stickyBit <;>
    simp only [Bool.false_eq_true, false_iff, true_iff] at round sticky <;>
    simp only [ExtendedMantissa.roundedMantissa, ExtendedMantissa.accuracy,
      Accuracy.roundToNearestEven, roundedQuotient] <;>
    split <;> omega

end Shifting

/-! ## Rounding -/

theorem log2_mul_pow {whole : ℕ} (positive : 0 < whole) (power : ℕ) :
    (whole * 2 ^ power).log2 = whole.log2 + power := by
  rw [Nat.log2_eq_iff (Nat.mul_pos positive (Nat.two_pow_pos power)).ne', pow_add, add_right_comm,
    pow_add]
  exact ⟨Nat.mul_le_mul_right _ (Nat.log2_self_le positive.ne'),
    Nat.mul_lt_mul_of_pos_right Nat.lt_log2_self (Nat.two_pow_pos power)⟩

section Rounding

variable {mantissa : ℕ} {exponent : ℤ}

/-- A mantissa of 24 digits or more is cut down to 24 digits. -/
theorem shiftToTargetExponent_eq
    (long : 23 ≤ mantissa.log2)
    (low : -149 ≤ exponent) :
    shiftToTargetExponent .binary32 mantissa exponent .exact =
      (ExtendedMantissa.ofMantissaAndAccuracy mantissa .exact >>> (mantissa.log2 - 23),
        exponent + (mantissa.log2 - 23 : ℕ)) := by
  have target : Format.binary32.targetExponent (totalExponent mantissa exponent) =
      exponent + (mantissa.log2 - 23 : ℕ) := by
    change max ((mantissa.log2 : ℤ) + 1 + exponent - 24) (-149) = _
    omega
  have amount : (exponent + (mantissa.log2 - 23 : ℕ) - exponent).toNat = mantissa.log2 - 23 := by
    omega
  rw [shiftToTargetExponent, target, shiftToExponent, amount]

/-- A rounded quotient may have one digit more, which is a zero and is cut off again. -/
theorem carry_eq {quotient : ℕ} (atLeast : 2 ^ 23 ≤ quotient) (atMost : quotient ≤ 2 ^ 24) :
    2 ^ 23 ≤ quotient / 2 ^ (quotient.log2 - 23) ∧
      quotient / 2 ^ (quotient.log2 - 23) < 2 ^ 24 ∧
      quotient.log2 - 23 ≤ 1 ∧
      quotient / 2 ^ (quotient.log2 - 23) * 2 ^ (quotient.log2 - 23) = quotient := by
  rcases atMost.lt_or_eq with below | same
  · have length : quotient.log2 < 24 := (Nat.log2_lt (by omega)).mpr below
    rw [show quotient.log2 - 23 = 0 by omega, pow_zero, Nat.div_one, mul_one]
    exact ⟨atLeast, below, Nat.zero_le 1, rfl⟩
  · rw [same, Nat.log2_two_pow]
    decide

/-- Rounding an exact mantissa of 24 digits or more leaves one of 24 digits: the rounded quotient, which
may carry into the exponent. -/
theorem roundWithAccuracy_eq
    (sign : Sign)
    (exponent : ℤ)
    (long : 2 ^ 23 ≤ mantissa)
    (low : -149 ≤ exponent) :
    ∃ rounded carry positive,
      roundWithAccuracy .binary32 sign mantissa exponent .exact =
        .finite sign rounded (exponent + (mantissa.log2 - 23 : ℕ) + (carry : ℕ)) positive ∧
      2 ^ 23 ≤ rounded ∧ rounded < 2 ^ 24 ∧ carry ≤ 1 ∧
      rounded * 2 ^ carry = roundedQuotient mantissa (2 ^ (mantissa.log2 - 23)) := by
  have isLong : 23 ≤ mantissa.log2 := (Nat.le_log2 (by omega)).mpr long
  have isRounded := (holds_shiftRight mantissa (mantissa.log2 - 23)).roundedMantissa_eq
    (Nat.two_pow_pos _)
  have atLeast : 2 ^ 23 ≤ roundedQuotient mantissa (2 ^ (mantissa.log2 - 23)) := by
    apply pow_le_roundedQuotient
    rw [Nat.add_sub_of_le isLong]
    exact Nat.log2_self_le (by omega)
  have atMost : roundedQuotient mantissa (2 ^ (mantissa.log2 - 23)) ≤ 2 ^ 24 := by
    apply roundedQuotient_le_pow
    rw [show 24 + (mantissa.log2 - 23) = mantissa.log2 + 1 by omega]
    exact Nat.lt_log2_self.le
  generalize roundedQuotient mantissa (2 ^ (mantissa.log2 - 23)) = quotient at *
  have quotientIsLong : 23 ≤ quotient.log2 := (Nat.le_log2 (by omega)).mpr atLeast
  have lowToo : -149 ≤ exponent + (mantissa.log2 - 23 : ℕ) := by omega
  have carry := carry_eq atLeast atMost
  refine ⟨quotient / 2 ^ (quotient.log2 - 23), quotient.log2 - 23, by omega, ?_, carry⟩
  rw [roundWithAccuracy, shiftToTargetExponent_eq isLong low]
  dsimp only
  rw [isRounded, shiftToTargetExponent_eq quotientIsLong lowToo]
  dsimp only
  rw [(holds_shiftRight quotient _).mantissa, dif_neg (by omega)]

end Rounding

/-! ## Numbers that stand for whole numbers -/

/-- A mantissa of 24 digits and its exponent stand for a natural number. -/
structure StandsFor (mantissa : ℕ) (exponent : ℤ) (whole : ℕ) : Prop where
  atLeast : 2 ^ 23 ≤ mantissa
  below : mantissa < 2 ^ 24
  low : -23 ≤ exponent
  high : exponent ≤ 104
  value : mantissa * 2 ^ (exponent + 23).toNat = whole * 2 ^ 23

/-- The quotient that is left of a natural number with some zeros behind it, in full length. -/
theorem roundedQuotient_mul_pow
    {whole power : ℕ}
    (long : 23 ≤ whole.log2 + power) :
    roundedQuotient (whole * 2 ^ power) (2 ^ (whole.log2 + power - 23)) * 2 ^ whole.log2 =
      singleNat whole * 2 ^ 23 := by
  rcases le_or_gt 23 whole.log2 with isLong | isShort
  · have shift : whole.log2 + power - 23 = whole.log2 - 23 + power := by omega
    have length : whole.log2 = whole.log2 - 23 + 23 := by omega
    rw [shift, pow_add, roundedQuotient_mul_right (Nat.two_pow_pos power), singleNat, mul_assoc,
      ← pow_add, ← length]
  · have zeros : 2 ^ power = 2 ^ (23 - whole.log2) * 2 ^ (whole.log2 + power - 23) := by
      rw [← pow_add]
      congr 1
      omega
    rw [zeros, ← mul_assoc, roundedQuotient_mul_self (Nat.two_pow_pos _),
      singleNat_of_log2_le isShort.le, mul_assoc, ← pow_add, Nat.sub_add_cancel isShort.le]

/-- A natural number with some zeros behind it is rounded to what it becomes in single precision. -/
theorem roundWithAccuracy_standsFor
    {whole : ℕ}
    (sign : Sign)
    (power : ℕ)
    (positive : 0 < whole)
    (bounded : whole < 2 ^ 64)
    (long : 2 ^ 23 ≤ whole * 2 ^ power)
    (few : power ≤ 149) :
    ∃ mantissa exponent isPositive,
      roundWithAccuracy .binary32 sign (whole * 2 ^ power) (-power) .exact =
        .finite sign mantissa exponent isPositive ∧
      StandsFor mantissa exponent (singleNat whole) := by
  have length : (whole * 2 ^ power).log2 = whole.log2 + power := log2_mul_pow positive power
  have isLong : 23 ≤ whole.log2 + power := by
    rw [← length]
    exact (Nat.le_log2 (by omega)).mpr long
  have isBounded : whole.log2 < 64 := (Nat.log2_lt positive.ne').mpr bounded
  obtain ⟨mantissa, carry, isPositive, rounded, atLeast, below, single, value⟩ :=
    roundWithAccuracy_eq sign (-power) long (by omega)
  rw [length] at rounded value
  refine ⟨mantissa, _, isPositive, rounded, atLeast, below, by omega, by omega, ?_⟩
  have exponent : (-(power : ℤ) + (whole.log2 + power - 23 : ℕ) + carry + 23).toNat =
      carry + whole.log2 := by omega
  rw [exponent, pow_add, ← mul_assoc, value, roundedQuotient_mul_pow isLong]

section Packing

variable {mantissa whole : ℕ} {exponent : ℤ}

theorem toNat_leading_one (mantissa : ℕ) (atLeast : 2 ^ 23 ≤ mantissa) (below : mantissa < 2 ^ 24) :
    (1#1 ++ BitVec.ofNat 23 mantissa).toNat = mantissa := by
  rw [BitVec.toNat_append, ← Nat.shiftLeft_add_eq_or_of_lt (BitVec.ofNat 23 mantissa).isLt,
    BitVec.toNat_ofNat, BitVec.toNat_ofNat, Nat.shiftLeft_eq]
  omega

/-- A number of full length has its exponent, moved by 150, and its mantissa without the first digit in
its bits. -/
theorem pack_eq
    (sign : Sign)
    (atLeast : 2 ^ 23 ≤ mantissa)
    (below : mantissa < 2 ^ 24)
    (high : exponent ≤ 104)
    (positive : 0 < mantissa) :
    UnpackedFloat.pack .binary32 (.finite sign mantissa exponent positive) =
      packComponents .binary32 sign (BitVec.ofNat 8 (exponent + 150).toNat)
        (BitVec.ofNat 23 mantissa) := by
  have length : mantissa.log2 = 23 := (Nat.log2_eq_iff positive.ne').mpr ⟨atLeast, below⟩
  have biased : exponent + 127 + 23 = exponent + 150 := by omega
  change (if 2 ^ 8 ≤ (exponent + 127 + 23).toNat + 1 then packedInfinity .binary32 sign
    else if mantissa.log2 + 1 = 24 then
      packComponents .binary32 sign (BitVec.ofNat 8 (exponent + 127 + 23).toNat)
        (BitVec.ofNat 23 mantissa)
    else packComponents .binary32 sign 0#8 (BitVec.ofNat 23 mantissa)) = _
  rw [biased, if_neg (by omega), if_pos (by rw [length])]

/-- The sign stands in front of the other bits. -/
theorem ofBitVec_unpackSign {format : Format} (sign : Sign) (exponent : BitVec format.exponentBits)
    (mantissa : BitVec format.mantissaBitsWithoutImplicit) :
    Sign.ofBitVec (unpackSign (packComponents format sign exponent mantissa)) = sign := by
  have bits : unpackSign (packComponents format sign exponent mantissa) = sign.toBitVec := by
    delta unpackSign
    ext place (_ | ⟨⟨⟩⟩)
    simp +arith [packComponents, BitVec.getElem_append]
  rw [bits]
  cases sign <;> rfl

/-- A number is what its sign, its mantissa and its exponent are. -/
theorem finite_eq_finite
    {sign next : Sign}
    {mantissa other : ℕ}
    {exponent another : ℤ}
    {positive : 0 < mantissa}
    {positiveToo : 0 < other}
    (sameSign : sign = next)
    (sameMantissa : mantissa = other)
    (sameExponent : exponent = another) :
    UnpackedFloat.finite sign mantissa exponent positive =
      .finite next other another positiveToo := by
  subst sameSign sameMantissa sameExponent
  rfl

/-- Bits whose exponent is neither that of infinity nor that of zero are those of a number with a
leading one. -/
theorem exists_unpack_eq
    (bits : BitVec Format.binary32.numBits)
    (notLast : unpackExponent bits ≠ -1#8)
    (notFirst : unpackExponent bits ≠ 0#8) :
    ∃ positive, UnpackedFloat.unpack .binary32 bits =
      .finite (Sign.ofBitVec (unpackSign bits)) (1#1 ++ unpackMantissa bits).toNat
        ((unpackExponent bits).toNat - (127 + 23)) positive :=
  ⟨_, (if_neg notLast).trans (if_neg notFirst)⟩

/-- A number of full length is kept in its 32 bits. -/
theorem unpack_pack
    (sign : Sign)
    (atLeast : 2 ^ 23 ≤ mantissa)
    (below : mantissa < 2 ^ 24)
    (low : -149 ≤ exponent)
    (high : exponent ≤ 104)
    (positive : 0 < mantissa) :
    UnpackedFloat.unpack .binary32
      (UnpackedFloat.pack .binary32 (.finite sign mantissa exponent positive)) =
        .finite sign mantissa exponent positive := by
  have bits : (BitVec.ofNat 8 (exponent + 150).toNat).toNat = (exponent + 150).toNat := by
    rw [BitVec.toNat_ofNat]
    omega
  have notLast : BitVec.ofNat 8 (exponent + 150).toNat ≠ -1#8 := by
    rw [Ne, ← BitVec.toNat_inj, bits]
    change _ ≠ 255
    omega
  have notFirst : BitVec.ofNat 8 (exponent + 150).toNat ≠ 0#8 := by
    rw [Ne, ← BitVec.toNat_inj, bits]
    change _ ≠ 0
    omega
  obtain ⟨_, unpacked⟩ := exists_unpack_eq
    (packComponents .binary32 sign (BitVec.ofNat 8 (exponent + 150).toNat) (BitVec.ofNat 23 mantissa))
    (by rw [unpackExponent_packComponents]; exact notLast)
    (by rw [unpackExponent_packComponents]; exact notFirst)
  rw [pack_eq sign atLeast below high positive, unpacked]
  refine finite_eq_finite (ofBitVec_unpackSign sign _ _) ?_ ?_
  · rw [unpackMantissa_packComponents]
    exact toNat_leading_one mantissa atLeast below
  · rw [unpackExponent_packComponents]
    change ((BitVec.ofNat 8 (exponent + 150).toNat).toNat : ℤ) - (127 + 23) = exponent
    rw [bits]
    omega

theorem StandsFor.unpack_pack
    (stands : StandsFor mantissa exponent whole)
    (sign : Sign)
    (positive : 0 < mantissa) :
    UnpackedFloat.unpack .binary32
      (UnpackedFloat.pack .binary32 (.finite sign mantissa exponent positive)) =
        .finite sign mantissa exponent positive :=
  Single.unpack_pack sign stands.atLeast stands.below (by have := stands.low; omega) stands.high
    positive

/-- A natural number of fewer digits stands with zeros behind it. -/
theorem StandsFor.exists_power
    (stands : StandsFor mantissa exponent whole)
    (short : whole < 2 ^ 23) :
    ∃ power : ℕ, power ≤ 23 ∧ mantissa = whole * 2 ^ power ∧ exponent = -power := by
  have low := stands.low
  have value := stands.value
  have negative : exponent < 0 := by
    by_contra nonnegative
    have scale : 2 ^ 23 ≤ 2 ^ (exponent + 23).toNat :=
      Nat.pow_le_pow_right (by decide) (by omega)
    have product := Nat.mul_le_mul stands.atLeast scale
    omega
  refine ⟨(-exponent).toNat, by omega, ?_, by omega⟩
  have zeros : 2 ^ 23 = 2 ^ (-exponent).toNat * 2 ^ (exponent + 23).toNat := by
    rw [← pow_add]
    congr 1
    omega
  rw [zeros, ← mul_assoc] at value
  exact Nat.mul_right_cancel (Nat.two_pow_pos _) value

end Packing

/-! ## Conversion -/

section Conversion

variable {whole : ℕ}

/-- A short natural number that is taken as a machine word has zeros put behind it. -/
theorem ofUInt64_standsFor
    (positive : 0 < whole)
    (short : whole < 2 ^ 23) :
    ∃ mantissa exponent isPositive,
      UnpackedFloat.ofUInt64 .binary32 (UInt64.ofNat whole) =
        .finite .positive mantissa exponent isPositive ∧
      StandsFor mantissa exponent whole := by
  have word : (UInt64.ofNat whole).toNat = whole := by
    rw [UInt64.toNat_ofNat']
    exact Nat.mod_eq_of_lt (by omega)
  have isShort : whole.log2 < 23 := (Nat.log2_lt positive.ne').mpr short
  have target : Format.binary32.targetExponent (totalExponent whole 0) = whole.log2 - 23 := by
    change max ((whole.log2 : ℤ) + 1 + 0 - 24) (-149) = _
    omega
  have amount : (0 - ((whole.log2 : ℤ) - 23)).toNat = 23 - whole.log2 := by omega
  have exponent : (0 : ℤ) - (23 - whole.log2 : ℕ) = -(23 - whole.log2 : ℕ) := by omega
  have rounded : UnpackedFloat.ofUInt64 .binary32 (UInt64.ofNat whole) =
      roundWithAccuracy .binary32 .positive (whole * 2 ^ (23 - whole.log2))
        (-(23 - whole.log2 : ℕ)) .exact := by
    have above : compare (whole : ℤ) 0 = .gt := compare_gt_iff_gt.mpr (by omega)
    simp only [UnpackedFloat.ofUInt64, UnpackedFloat.ofNat, UnpackedFloat.ofInt, word,
      UnpackedFloat.normalize, above, UnpackedFloat.round, Int.toNat_natCast, target,
      decreaseExponent, amount, exponent, Nat.shiftLeft_eq]
  have long : 2 ^ 23 ≤ whole * 2 ^ (23 - whole.log2) := by
    calc
      2 ^ 23 = 2 ^ whole.log2 * 2 ^ (23 - whole.log2) := by
        rw [← pow_add, Nat.add_sub_of_le isShort.le]
      _ ≤ whole * 2 ^ (23 - whole.log2) :=
        Nat.mul_le_mul_right _ (Nat.log2_self_le positive.ne')
  rw [rounded]
  have stands := roundWithAccuracy_standsFor .positive _ positive (by omega) long (by omega)
  rwa [singleNat_of_log2_le isShort.le] at stands

/-- A short natural number is taken as a machine word and multiplied by one. -/
theorem unpack_ofNat_of_lt
    (positive : 0 < whole)
    (short : whole < 2 ^ 23) :
    ∃ mantissa exponent isPositive,
      (Float32.ofNat whole).toModel.unpack = .finite .positive mantissa exponent isPositive ∧
      StandsFor mantissa exponent (singleNat whole) := by
  obtain ⟨mantissa, exponent, isPositive, converted, stands⟩ := ofUInt64_standsFor positive short
  obtain ⟨power, few, rfl, rfl⟩ := stands.exists_power short
  have word : (UInt64.ofNat whole).toFloat32.toModel.unpack =
      .finite .positive (whole * 2 ^ power) (-power) isPositive := by
    change UnpackedFloat.unpack .binary32 (UnpackedFloat.pack .binary32
      (UnpackedFloat.ofUInt64 .binary32 (UInt64.ofNat whole))) = _
    rw [converted, stands.unpack_pack]
  have one : (Float32.ofBits 1065353216).toModel.unpack =
      .finite .positive (2 ^ 23) (-23) (by decide) := by rfl
  have product : Float32.ofNat whole =
      (UInt64.ofNat whole).toFloat32 * Float32.ofBits 1065353216 :=
    dif_pos ⟨short, by decide⟩
  have long : 2 ^ 23 ≤ whole * 2 ^ (power + 23) := by
    rw [pow_add, ← mul_assoc]
    exact stands.atLeast.trans (Nat.le_mul_of_pos_right _ (Nat.two_pow_pos 23))
  have exponents : -(power : ℤ) + -23 = -(power + 23 : ℕ) := by omega
  obtain ⟨mantissa, exponent, isPositiveToo, rounded, standsToo⟩ :=
    roundWithAccuracy_standsFor .positive _ positive (by omega) long (by omega)
  refine ⟨mantissa, exponent, isPositiveToo, ?_, standsToo⟩
  rw [product]
  change UnpackedFloat.unpack .binary32 (UnpackedFloat.pack .binary32 (UnpackedFloat.mul .binary32
    (UInt64.ofNat whole).toFloat32.toModel.unpack
    (Float32.ofBits 1065353216).toModel.unpack)) = _
  rw [word, one]
  change UnpackedFloat.unpack .binary32 (UnpackedFloat.pack .binary32 (roundWithAccuracy .binary32
    .positive (whole * 2 ^ power * 2 ^ 23) (-(power : ℤ) + -23) .exact)) = _
  rw [mul_assoc, ← pow_add, exponents, rounded, standsToo.unpack_pack]

/-- A longer natural number is rounded with 24 zeros behind it. -/
theorem unpack_ofNat_of_le
    (long : 2 ^ 23 ≤ whole)
    (bounded : whole < 2 ^ 64) :
    ∃ mantissa exponent isPositive,
      (Float32.ofNat whole).toModel.unpack = .finite .positive mantissa exponent isPositive ∧
      StandsFor mantissa exponent (singleNat whole) := by
  have positive : 0 < whole := (Nat.two_pow_pos 23).trans_le long
  obtain ⟨mantissa, exponent, isPositive, rounded, stands⟩ :=
    roundWithAccuracy_standsFor .positive 24 positive bounded (by omega) (by decide)
  rw [Nat.cast_ofNat] at rounded
  have notShort : ¬(whole < 2 ^ 23 ∧ 0 ≤ 10) := by omega
  have scientific : (Float32.ofNat whole).toModel = Float32.Model.ofScientific whole 0 := by
    change (Float32.ofScientific whole false 0).toModel = _
    rw [Float32.ofScientific, dif_neg notShort]
    rfl
  have notSmall : ¬(0 : ℤ) < -(2 ^ Format.binary32.exponentBits + (whole.log2 : ℤ)) := by
    change ¬(0 : ℤ) < -(256 + (whole.log2 : ℤ))
    omega
  refine ⟨mantissa, exponent, isPositive, ?_, stands⟩
  rw [scientific]
  change UnpackedFloat.unpack .binary32 (UnpackedFloat.pack .binary32
    (UnpackedFloat.ofScientific .binary32 whole 0)) = _
  rw [UnpackedFloat.ofScientific, dif_neg positive.ne', if_neg (by decide), if_neg notSmall,
    if_pos le_rfl]
  change UnpackedFloat.unpack .binary32 (UnpackedFloat.pack .binary32 (roundWithAccuracy .binary32
    .positive (whole <<< 24 * 1) (-24) .exact)) = _
  rw [mul_one, Nat.shiftLeft_eq, rounded, stands.unpack_pack]

/-- A natural number of 64 digits or fewer becomes a positive number that stands for it, rounded. -/
theorem unpack_ofNat
    (positive : 0 < whole)
    (bounded : whole < 2 ^ 64) :
    ∃ mantissa exponent isPositive,
      (Float32.ofNat whole).toModel.unpack = .finite .positive mantissa exponent isPositive ∧
      StandsFor mantissa exponent (singleNat whole) := by
  rcases lt_or_ge whole (2 ^ 23) with short | long
  · exact unpack_ofNat_of_lt positive short
  · exact unpack_ofNat_of_le long bounded

/-- A number stands for an integer: a zero, or a number of full length with the sign of the integer. -/
inductive StandsForInt : UnpackedFloat → ℤ → Prop
  | zero (sign : Sign) : StandsForInt (.zero sign) 0
  | positive {mantissa exponent whole} {isPositive : 0 < mantissa}
      (stands : StandsFor mantissa exponent whole) :
      StandsForInt (.finite .positive mantissa exponent isPositive) whole
  | negative {mantissa exponent whole} {isPositive : 0 < mantissa}
      (stands : StandsFor mantissa exponent whole) :
      StandsForInt (.finite .negative mantissa exponent isPositive) (-whole)

/-- An integer of 64 digits or fewer becomes a number that stands for it, rounded. -/
theorem standsForInt_ofInt {whole : ℤ} (bounded : whole.natAbs < 2 ^ 64) :
    StandsForInt (Float32.ofInt whole).toModel.unpack (singleInt whole) := by
  cases whole with
  | ofNat size =>
    rw [Int.ofNat_eq_natCast, singleInt_natCast]
    rcases size.eq_zero_or_pos with rfl | positive
    · exact .zero .positive
    · obtain ⟨mantissa, exponent, isPositive, converted, stands⟩ := unpack_ofNat positive bounded
      change StandsForInt (Float32.ofNat size).toModel.unpack _
      rw [converted]
      exact .positive stands
  | negSucc size =>
    obtain ⟨mantissa, exponent, isPositive, converted, stands⟩ :=
      unpack_ofNat (Nat.succ_pos size) bounded
    have negated : (Float32.ofInt (.negSucc size)).toModel.unpack =
        .finite .negative mantissa exponent isPositive := by
      change UnpackedFloat.unpack .binary32 (UnpackedFloat.pack .binary32
        (Float32.ofNat (size + 1)).toModel.unpack.neg) = _
      rw [converted]
      exact stands.unpack_pack .negative isPositive
    rw [negated, Int.negSucc_eq, singleInt_neg, ← Int.natCast_succ, singleInt_natCast]
    exact .negative stands

end Conversion

/-! ## Order -/

section Order

variable {mantissa other whole otherWhole scale otherScale : ℕ} {exponent another : ℤ}

/-- Among mantissas of full length a larger scale decides. -/
theorem mul_pow_lt_mul_pow
    (below : mantissa < 2 ^ 24)
    (atLeast : 2 ^ 23 ≤ other)
    (less : scale < otherScale) :
    mantissa * 2 ^ scale < other * 2 ^ otherScale := by
  calc
    mantissa * 2 ^ scale < 2 ^ 24 * 2 ^ scale :=
      Nat.mul_lt_mul_of_pos_right below (Nat.two_pow_pos scale)
    _ = 2 ^ 23 * 2 ^ (scale + 1) := by rw [← pow_add, ← pow_add, add_comm scale, ← add_assoc]
    _ ≤ other * 2 ^ otherScale :=
      Nat.mul_le_mul atLeast (Nat.pow_le_pow_right (by decide) less)

/-- Natural numbers are in the order of their exponents, and of their mantissas where these agree. -/
theorem StandsFor.le_iff
    (stands : StandsFor mantissa exponent whole)
    (standsToo : StandsFor other another otherWhole) :
    whole ≤ otherWhole ↔ exponent < another ∨ exponent = another ∧ mantissa ≤ other := by
  have low := stands.low
  have lowToo := standsToo.low
  rw [← Nat.mul_le_mul_right_iff (Nat.two_pow_pos 23), ← stands.value, ← standsToo.value]
  rcases lt_trichotomy exponent another with less | rfl | greater
  · have products := mul_pow_lt_mul_pow stands.below standsToo.atLeast
      (show (exponent + 23).toNat < (another + 23).toNat by omega)
    simp [products.le, less]
  · rw [Nat.mul_le_mul_right_iff (Nat.two_pow_pos _)]
    simp
  · have products := mul_pow_lt_mul_pow standsToo.below stands.atLeast
      (show (another + 23).toNat < (exponent + 23).toNat by omega)
    simp [products.not_ge, greater.not_gt, greater.ne']

theorem StandsFor.pos (stands : StandsFor mantissa exponent whole) : 0 < whole := by
  have positive : 0 < mantissa * 2 ^ (exponent + 23).toNat :=
    Nat.mul_pos ((Nat.two_pow_pos 23).trans_le stands.atLeast) (Nat.two_pow_pos _)
  rw [stands.value] at positive
  exact Nat.pos_of_mul_pos_right positive

/-- Numbers that stand for integers are in the order of these. -/
theorem StandsForInt.rank_le_iff
    {first second : UnpackedFloat}
    {one two : ℤ}
    (stands : StandsForInt first one)
    (standsToo : StandsForInt second two) :
    unpackedRank first ≤ unpackedRank second ↔ one ≤ two := by
  cases stands with
  | zero sign =>
    rw [unpackedRank_zero]
    cases standsToo with
    | zero sign => simp [unpackedRank_zero]
    | positive stands =>
      rw [unpackedRank_positive]
      simp [Prod.Lex.toLex_le_toLex]
    | negative stands =>
      have positive := stands.pos
      rw [unpackedRank_negative]
      simp [Prod.Lex.toLex_le_toLex, positive.ne']
  | @positive _ _ whole _ stands =>
    have positive := stands.pos
    rw [unpackedRank_positive]
    cases standsToo with
    | zero sign =>
      rw [unpackedRank_zero]
      simp [Prod.Lex.toLex_le_toLex, positive.ne']
    | positive standsToo =>
      rw [unpackedRank_positive, Int.ofNat_le, stands.le_iff standsToo]
      simp [Prod.Lex.toLex_le_toLex]
    | @negative _ _ otherWhole =>
      have apart : ¬(whole : ℤ) ≤ -otherWhole := by omega
      rw [unpackedRank_negative]
      simp [Prod.Lex.toLex_le_toLex, apart]
  | @negative _ _ whole _ stands =>
    have positive := stands.pos
    rw [unpackedRank_negative]
    cases standsToo with
    | zero sign =>
      rw [unpackedRank_zero]
      simp [Prod.Lex.toLex_le_toLex]
    | @positive _ _ otherWhole =>
      have below : -(whole : ℤ) ≤ otherWhole := by omega
      rw [unpackedRank_positive]
      simp [Prod.Lex.toLex_le_toLex, below]
    | negative standsToo =>
      rw [unpackedRank_negative, neg_le_neg_iff, Int.ofNat_le, standsToo.le_iff stands]
      simp [Prod.Lex.toLex_le_toLex, eq_comm]

end Order

section Integers

variable {first second : ℤ}

/-- An integer becomes a number. -/
theorem isNaN_ofInt (bounded : first.natAbs < 2 ^ 64) : (Float32.ofInt first).isNaN = false := by
  rw [← Bool.not_eq_true, isNaN_iff]
  intro isNaN
  have stands := standsForInt_ofInt bounded
  rw [isNaN] at stands
  cases stands

/-- Integers are in order as single precision numbers if they are in order once rounded. -/
theorem rank_ofInt_le_iff
    (bounded : first.natAbs < 2 ^ 64)
    (boundedToo : second.natAbs < 2 ^ 64) :
    rank (Float32.ofInt first) ≤ rank (Float32.ofInt second) ↔ singleInt first ≤ singleInt second :=
  (standsForInt_ofInt bounded).rank_le_iff (standsForInt_ofInt boundedToo)

end Integers
end Single
end Holdout
