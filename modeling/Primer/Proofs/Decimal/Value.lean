import Mathlib.Algebra.Order.Field.Rat
import Mathlib.Order.Compare
import Mathlib.Tactic.NormNum.Basic
import Mathlib.Tactic.Positivity.Basic
import Primer.Decimal.Basic
import Primer.Proofs.Number.Power

/-! The number that a decimal form stands for, and comparison of forms as comparison of numbers. -/

set_option autoImplicit false

namespace Primer.Number

theorem tenTo_ne_zero (exponent : Nat) : tenTo exponent ≠ 0 := by
  rw [tenTo_eq]
  exact pow_ne_zero _ (by decide)

theorem tenTo_cast (exponent : Nat) : (tenTo exponent : ℚ) = 10 ^ (exponent : Int) := by
  rw [tenTo_eq, zpow_natCast]
  norm_cast

theorem tenTo_div_tenTo (exponent : Int) :
    (tenTo exponent.toNat : ℚ) / tenTo (-exponent).toNat = 10 ^ exponent := by
  rw [tenTo_cast, tenTo_cast, ← zpow_sub₀ (by norm_num), Int.toNat_sub_toNat_neg]

end Primer.Number

namespace Primer.Decimal

open Number

/-- The number that the form stands for. -/
def value (a : Decimal) : ℚ :=
  a.digits * 10 ^ (-a.scale)

@[simp]
theorem value_eq_zero_iff (a : Decimal) : a.value = 0 ↔ a.digits = 0 := by
  have power : (10 : ℚ) ^ (-a.scale) ≠ 0 := zpow_ne_zero _ (by norm_num)
  rw [value, mul_eq_zero_iff_right power, Int.cast_eq_zero]

theorem value_pos_iff (a : Decimal) : 0 < a.value ↔ 0 < a.digits := by
  have power : (0 : ℚ) < 10 ^ (-a.scale) := zpow_pos (by norm_num) _
  rw [value, mul_pos_iff_of_pos_right power, Int.cast_pos]

theorem value_mul_tenTo (a : Decimal) (scale : Int) :
    ((a.digits * tenTo (scale - a.scale).toNat : Int) : ℚ) =
      a.value * 10 ^ max a.scale scale := by
  have places : (((scale - a.scale).toNat : Nat) : Int) = -a.scale + max a.scale scale := by omega
  rw [Int.cast_mul, tenTo_cast, places, zpow_add₀ (by norm_num), ← mul_assoc, value]

theorem order_eq (a b : Decimal) : a.order b = compare a.value b.value := by
  have positive : (0 : ℚ) < 10 ^ max a.scale b.scale := zpow_pos (by norm_num) _
  have left := value_mul_tenTo a b.scale
  have right := value_mul_tenTo b a.scale
  rw [max_comm] at right
  unfold order aligned
  dsimp only
  rw [← cmp_eq_compare, ← cmp_eq_compare, ← (Int.cast_strictMono (R := ℚ)).cmp_map_eq, left, right]
  exact cmp_mul_pos_right positive _ _

theorem sign_eq_of_value_eq {a b : Decimal} (same : a.value = b.value) :
    a.digits.sign = b.digits.sign := by
  have zero := value_eq_zero_iff a
  have positive := value_pos_iff a
  rw [same, value_eq_zero_iff] at zero
  rw [same, value_pos_iff] at positive
  rcases lt_trichotomy a.digits 0 with less | none | more
  · rw [Int.sign_eq_neg_one_of_neg less, Int.sign_eq_neg_one_of_neg (by omega)]
  · rw [none, zero.mpr none]
  · rw [Int.sign_eq_one_of_pos more, Int.sign_eq_one_of_pos (positive.mpr more)]

theorem equal_iff (a b : Decimal) : a.equal b ↔ a.value = b.value := by
  rw [equal, Bool.and_eq_true, Bool.or_eq_true, beq_iff_eq, beq_iff_eq, beq_iff_eq, order_eq,
    compare_eq_iff_eq]
  constructor
  · rintro ⟨signs, none | same⟩
    · rw [none, Int.sign_zero, eq_comm, Int.sign_eq_zero_iff_zero, ← value_eq_zero_iff] at signs
      rw [(value_eq_zero_iff a).mpr none, signs]
    · exact same
  · exact fun same => ⟨sign_eq_of_value_eq same, .inr same⟩

end Primer.Decimal
