import Mathlib.Algebra.Order.Ring.Int
import Mathlib.Data.Prod.Lex
import Mathlib.Order.Compare

/-!
# The order of single precision numbers

Numbers are in order by their signs and kinds first, then by exponents, then by mantissas, where
exponents and mantissas of negative numbers count backwards. Both zeros stand at one place. What is not
a number is neither below nor above anything.
-/

namespace Holdout
namespace Single

open Float.Model (UnpackedFloat)

/-- What is not a number. -/
def nan : Float32 := 0 / 0

/-- The place of a number in the order of numbers. -/
def unpackedRank : UnpackedFloat → ℤ ×ₗ ℤ ×ₗ ℤ
  | .infinity .negative => toLex (-2, toLex (0, 0))
  | .finite .negative mantissa exponent _ => toLex (-1, toLex (-exponent, -mantissa))
  | .zero _ => toLex (0, toLex (0, 0))
  | .finite .positive mantissa exponent _ => toLex (1, toLex (exponent, mantissa))
  | .infinity .positive => toLex (2, toLex (0, 0))
  | .notANumber => toLex (0, toLex (0, 0))

section Rank

variable {mantissa : ℕ} {exponent : ℤ} {positive : 0 < mantissa}

theorem unpackedRank_zero (sign : UnpackedFloat.Sign) :
    unpackedRank (.zero sign) = toLex (0, toLex (0, 0)) := rfl

theorem unpackedRank_positive :
    unpackedRank (.finite .positive mantissa exponent positive) =
      toLex (1, toLex (exponent, (mantissa : ℤ))) := rfl

theorem unpackedRank_negative :
    unpackedRank (.finite .negative mantissa exponent positive) =
      toLex (-1, toLex (-exponent, -(mantissa : ℤ))) := rfl

end Rank

theorem compare_toLex [Ord α] [Ord β] (first second : α) (one other : β) :
    compare (toLex (first, one)) (toLex (second, other)) =
      (compare first second).then (compare one other) := by
  rw [Prod.Lex.compare_def]
  rfl

theorem compare_neg (first second : ℤ) :
    compare (-first) (-second) = (compare first second).swap := by
  rcases lt_trichotomy first second with below | same | above
  · rw [compare_lt_iff_lt.mpr below, compare_gt_iff_gt.mpr (by omega)]
    rfl
  · rw [compare_eq_iff_eq.mpr same, compare_eq_iff_eq.mpr (congrArg _ same)]
    rfl
  · rw [compare_gt_iff_gt.mpr above, compare_lt_iff_lt.mpr (by omega)]
    rfl

theorem compare_natCast (first second : ℕ) :
    compare (first : ℤ) (second : ℤ) = compare first second := by
  rcases lt_trichotomy first second with below | same | above
  · rw [compare_lt_iff_lt.mpr below, compare_lt_iff_lt.mpr (Int.ofNat_lt.mpr below)]
  · rw [compare_eq_iff_eq.mpr same, compare_eq_iff_eq.mpr (congrArg _ same)]
  · rw [compare_gt_iff_gt.mpr above, compare_gt_iff_gt.mpr (Int.ofNat_lt.mpr above)]

/-- Numbers are compared by their places. -/
theorem compare_eq_some
    {first second : UnpackedFloat}
    (isNumber : first ≠ .notANumber)
    (isNumberToo : second ≠ .notANumber) :
    first.compare second = some (compare (unpackedRank first) (unpackedRank second)) := by
  rcases first with (_ | _) | _ | _ | ⟨_ | _, one, exponent, _⟩ <;>
    rcases second with (_ | _) | _ | _ | ⟨_ | _, other, another, _⟩ <;>
    try first | exact absurd rfl isNumber | exact absurd rfl isNumberToo | rfl
  -- What is left are two numbers of the same sign.
  case finite.negative.finite.negative =>
    rw [unpackedRank_negative, unpackedRank_negative, compare_toLex, compare_toLex,
      compare_neg exponent, compare_neg one, compare_natCast, ← Ordering.swap_then]
    rfl
  case finite.positive.finite.positive =>
    rw [unpackedRank_positive, unpackedRank_positive, compare_toLex, compare_toLex, compare_natCast]
    rfl

/-- The place of a single precision number in the order of numbers. -/
def rank (number : Float32) : ℤ ×ₗ ℤ ×ₗ ℤ := unpackedRank number.toModel.unpack

section Order

variable {first second : Float32}

theorem isNaN_iff : first.isNaN = true ↔ first.toModel.unpack = .notANumber := by
  change first.toModel.unpack.isNaN = true ↔ _
  cases first.toModel.unpack with
  | notANumber => exact iff_of_true rfl rfl
  | infinity sign => exact iff_of_false Bool.false_ne_true nofun
  | zero sign => exact iff_of_false Bool.false_ne_true nofun
  | finite sign mantissa exponent positive => exact iff_of_false Bool.false_ne_true nofun

theorem unpack_ne_notANumber (isNumber : first.isNaN = false) :
    first.toModel.unpack ≠ .notANumber := by
  rw [← Bool.not_eq_true, isNaN_iff] at isNumber
  exact isNumber

theorem le_iff_rank_le (isNumber : first.isNaN = false) (isNumberToo : second.isNaN = false) :
    first ≤ second ↔ rank first ≤ rank second := by
  change decide (first.toModel.unpack.le second.toModel.unpack = true) = true ↔ _
  rw [decide_eq_true_iff, UnpackedFloat.le,
    compare_eq_some (unpack_ne_notANumber isNumber) (unpack_ne_notANumber isNumberToo)]
  exact Ordering.isLE_iff_ne_gt.trans (compare_gt_iff_gt.not.trans not_lt)

theorem lt_iff_rank_lt (isNumber : first.isNaN = false) (isNumberToo : second.isNaN = false) :
    first < second ↔ rank first < rank second := by
  change decide (first.toModel.unpack.lt second.toModel.unpack = true) = true ↔ _
  rw [decide_eq_true_iff, UnpackedFloat.lt,
    compare_eq_some (unpack_ne_notANumber isNumber) (unpack_ne_notANumber isNumberToo),
    beq_iff_eq, Option.some.injEq]
  exact compare_lt_iff_lt

/-- What is not a number compares with nothing. -/
theorem compare_eq_none
    (unordered : first.isNaN = true ∨ second.isNaN = true) :
    first.toModel.unpack.compare second.toModel.unpack = none := by
  rcases unordered with notANumber | notANumber
  · rw [isNaN_iff.mp notANumber]
    rfl
  · rw [isNaN_iff.mp notANumber]
    cases first.toModel.unpack <;> rfl

theorem not_le_of_isNaN (unordered : first.isNaN = true ∨ second.isNaN = true) :
    ¬first ≤ second := by
  change ¬decide (first.toModel.unpack.le second.toModel.unpack = true) = true
  rw [decide_eq_true_iff, UnpackedFloat.le, compare_eq_none unordered]
  exact Bool.false_ne_true

theorem not_lt_of_isNaN (unordered : first.isNaN = true ∨ second.isNaN = true) :
    ¬first < second := by
  change ¬decide (first.toModel.unpack.lt second.toModel.unpack = true) = true
  rw [decide_eq_true_iff, UnpackedFloat.lt, compare_eq_none unordered]
  exact Bool.false_ne_true

end Order
end Single
end Holdout
