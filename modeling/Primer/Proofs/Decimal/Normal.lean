import Mathlib.Algebra.Order.Ring.Abs
import Mathlib.Tactic.Ring
import Primer.Proofs.Decimal.Value

/-! The form of a decimal with the fewest digits. Dropping zeros leaves the number as it is, and a
number has one form from which no zero can be dropped. -/

set_option autoImplicit false

namespace Primer.Decimal

open Number

def IsShort (a : Decimal) : Prop :=
  a = { digits := 0, scale := 0 } ∨ a.digits % 10 ≠ 0

theorem value_longer (digits scale : Int) (places : Nat) :
    value { digits := digits * 10 ^ places, scale := scale + places } =
      value { digits, scale } := by
  have exponent : -scale = places + -(scale + places) := by omega
  unfold value
  dsimp only
  rw [exponent, zpow_add₀ (by norm_num), zpow_natCast]
  push_cast
  ring

theorem value_neg (digits scale : Int) :
    value { digits := -digits, scale } = -value { digits, scale } := by
  simp [value]

theorem value_natAbs (a : Decimal) : value { a with digits := a.digits.natAbs } = |a.value| := by
  have power : (0 : ℚ) ≤ 10 ^ (-a.scale) := (zpow_pos (by norm_num) _).le
  rw [value, value, abs_mul, abs_of_nonneg power, Int.natCast_natAbs, Int.cast_abs]

theorem abs_value (a : Decimal) : |a.value| = if a.digits < 0 then -a.value else a.value := by
  have power : (0 : ℚ) < 10 ^ (-a.scale) := zpow_pos (by norm_num) _
  split
  · next negative =>
    exact abs_of_neg (mul_neg_of_neg_of_pos (Int.cast_lt_zero.mpr negative) power)
  · next nonneg =>
    exact abs_of_nonneg (mul_nonneg (Int.cast_nonneg (Int.not_lt.mp nonneg)) power.le)

theorem value_stripZeros (digits scale : Int) :
    (stripZeros digits scale).value = value { digits, scale } := by
  fun_induction stripZeros digits scale with
  | case1 digits scale divisible ih =>
    rw [ih, ← value_longer (digits / 10) (scale - 1) 1]
    congr 2 <;> omega
  | case2 => rfl

theorem isShort_stripZeros {digits : Int} (scale : Int) (nonzero : digits ≠ 0) :
    (stripZeros digits scale).IsShort := by
  fun_induction stripZeros digits scale with
  | case1 digits scale divisible ih => exact ih (by omega)
  | case2 digits scale last => exact .inr fun divisible => last ⟨nonzero, divisible⟩

theorem scale_stripZeros_le (digits scale : Int) : (stripZeros digits scale).scale ≤ scale := by
  fun_induction stripZeros digits scale with
  | case1 digits scale divisible ih => exact ih.trans (Int.sub_le_self scale (by decide))
  | case2 => exact Int.le_refl _

theorem value_normalized (a : Decimal) : a.normalized.value = a.value := by
  unfold normalized
  split
  · next zero => simp [value, zero]
  · exact value_stripZeros a.digits a.scale

theorem isShort_normalized (a : Decimal) : a.normalized.IsShort := by
  unfold normalized
  split
  · exact .inl rfl
  · next nonzero => exact isShort_stripZeros a.scale nonzero

/-- The form at the finer scale would end in zeros. -/
theorem IsShort.eq_of_value {a b : Decimal} (first : a.IsShort) (second : b.IsShort)
    (same : a.value = b.value) : a = b := by
  wlog finer : a.scale ≤ b.scale generalizing a b with other
  · exact (other second first same.symm (Int.le_of_not_le finer)).symm
  obtain ⟨places, apart⟩ := Int.le.dest finer
  have digits : b.digits = a.digits * 10 ^ places := by
    have power : (10 : ℚ) ^ (-b.scale) ≠ 0 := zpow_ne_zero _ (by norm_num)
    rw [← value_longer a.digits a.scale places, apart] at same
    exact_mod_cast (mul_right_cancel₀ power same).symm
  cases places with
  | zero =>
    cases a
    cases b
    simp_all
  | succ places =>
    have ends : b.digits % 10 = 0 := by
      rw [digits, pow_succ, ← mul_assoc, Int.mul_emod_left]
    rcases second with rfl | last
    · rcases first with rfl | last
      · rfl
      · have zero : a.digits = 0 := by simpa using digits.symm
        exact absurd (by simp [zero]) last
    · exact absurd ends last

theorem normalized_eq_iff (a b : Decimal) : a.normalized = b.normalized ↔ a.value = b.value := by
  constructor
  · intro same
    rw [← value_normalized a, same, value_normalized]
  · intro same
    apply (isShort_normalized a).eq_of_value (isShort_normalized b)
    rw [value_normalized, value_normalized, same]

theorem scale_normalized_le {a : Decimal} (nonzero : a.digits ≠ 0) :
    a.normalized.scale ≤ a.scale := by
  rw [normalized, if_neg nonzero]
  exact scale_stripZeros_le a.digits a.scale

theorem scale_normalized_le_of_dvd {a : Decimal} {places : Nat} (nonzero : a.digits ≠ 0)
    (divides : (10 : Int) ^ places ∣ a.digits) : a.normalized.scale ≤ a.scale - places := by
  obtain ⟨digits, scale⟩ := a
  obtain ⟨quotient, rfl⟩ := divides
  have same := value_longer quotient (scale - places) places
  rw [Int.sub_add_cancel, ← normalized_eq_iff, Int.mul_comm quotient] at same
  rw [same]
  exact scale_normalized_le fun none => nonzero (by simp_all)

end Primer.Decimal
