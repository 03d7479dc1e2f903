import Primer.Proofs.Decimal.Value
import Primer.Proofs.Number.Rounding
import Primer.Run.Operator

/-! Division of decimals is correctly rounded at the scale of the dividend.

The exact quotient, counted in units of the last digit of the dividend, is a quotient of the digits
with the power of ten that the scale of the divisor stands for.
-/

set_option autoImplicit false

namespace Primer.Decimal

open Number

theorem divide_of_digits_eq_zero {divisor : Decimal} (zero : divisor.digits = 0)
    (dividend : Decimal) : dividend.divide divisor = .error .divisionByZero := by
  unfold divide divide?
  rw [if_pos zero]

theorem divide_of_digits_ne_zero {divisor : Decimal} (nonzero : divisor.digits ≠ 0)
    (dividend : Decimal) :
    dividend.divide divisor = .ok
      { digits := divideHalfEven (dividend.digits * tenTo divisor.scale.toNat)
          (divisor.digits * tenTo (-divisor.scale).toNat)
        scale := dividend.scale } := by
  unfold divide divide?
  rw [if_neg nonzero]

/-- The two integers that are divided have the exact quotient. -/
theorem scaled_quotient (a b scale : Int) :
    ((a * tenTo scale.toNat : Int) : ℚ) / (b * tenTo (-scale).toNat : Int) =
      a * 10 ^ scale / b := by
  rw [Int.cast_mul, Int.cast_mul, mul_div_mul_comm, tenTo_div_tenTo, div_mul_eq_mul_div]

/-- A zero divisor is refused. Any other gives, at the scale of the dividend, the one integer that
is nearest to the exact quotient, the even one of two. -/
theorem divide_correctly_rounded (dividend divisor : Decimal) :
    (divisor.digits = 0 ∧ dividend.divide divisor = .error .divisionByZero) ∨
      (divisor.digits ≠ 0 ∧
        ∃ q, dividend.divide divisor = .ok { digits := q, scale := dividend.scale } ∧
          ∀ p, NearestEven p (dividend.digits * 10 ^ divisor.scale / divisor.digits) ↔ p = q) := by
  by_cases zero : divisor.digits = 0
  · exact .inl ⟨zero, divide_of_digits_eq_zero zero dividend⟩
  · have denominator : divisor.digits * tenTo (-divisor.scale).toNat ≠ 0 :=
      mul_ne_zero zero (tenTo_ne_zero _)
    have nearest :=
      nearestEven_divideHalfEven (dividend.digits * tenTo divisor.scale.toNat) denominator
    rw [scaled_quotient] at nearest
    refine .inr ⟨zero, _, divide_of_digits_ne_zero zero dividend, fun p => ⟨fun other => ?_, ?_⟩⟩
    · exact other.unique nearest
    · rintro rfl
      exact nearest

/-- `-2.5 / 10` lies in the middle between `-0.2` and `-0.3`. -/
example : Decimal.divide { digits := -25, scale := 1 } { digits := 1, scale := -1 } =
    .ok { digits := -2, scale := 1 } := by
  with_unfolding_all rfl

end Primer.Decimal
