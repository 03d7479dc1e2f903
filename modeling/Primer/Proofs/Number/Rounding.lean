import Mathlib.Algebra.Order.Field.Basic
import Mathlib.Algebra.Order.Field.Rat
import Mathlib.Algebra.Ring.Int.Parity
import Mathlib.Tactic.FieldSimp
import Mathlib.Tactic.Linarith
import Primer.Number.Rounding

/-! Division of integers finds the nearest integer, and of two equally near ones the even one.

Over the rationals this determines one integer. How near a rounded quotient is can be told from
integers alone: from the divisor and from what the quotient leaves of the dividend.
-/

set_option autoImplicit false

namespace Primer.Number

/-- No integer is nearer to `x`, and `q` is even if another one is as near. -/
structure NearestEven (q : Int) (x : ℚ) : Prop where
  near : |(q : ℚ) - x| ≤ 1 / 2
  tie : |(q : ℚ) - x| = 1 / 2 → Even q

/-- Two integers at most half away from a number are equal, or neighbours with the number in the
middle between them, and then not both even. -/
theorem NearestEven.unique {p q : Int} {x : ℚ} (first : NearestEven p x)
    (second : NearestEven q x) : p = q := by
  wlog below : p ≤ q generalizing p q with other
  · exact (other second first (Int.le_of_not_le below)).symm
  have firstNear := abs_le.mp first.near
  have secondNear := abs_le.mp second.near
  have next : (q : ℚ) ≤ p + 1 := by linarith
  rcases below.eq_or_lt with same | less
  · exact same
  have apart : q = p + 1 := Int.le_antisymm (by exact_mod_cast next) less
  have gap : (q : ℚ) = p + 1 := by exact_mod_cast apart
  have half : (0 : ℚ) ≤ 1 / 2 := by norm_num
  have firstTie : |(p : ℚ) - x| = 1 / 2 := (abs_eq half).mpr (.inr (by linarith))
  have secondTie : |(q : ℚ) - x| = 1 / 2 := (abs_eq half).mpr (.inl (by linarith))
  have even := second.tie secondTie
  rw [apart, Int.even_add_one] at even
  exact absurd (first.tie firstTie) even

section other

variable {q k : Int} {x : ℚ}

/-- Another integer is at least half away. -/
theorem NearestEven.half_le (nearest : NearestEven q x) (different : k ≠ q) :
    1 / 2 ≤ |(k : ℚ) - x| := by
  have apart : (1 : ℚ) ≤ |(k : ℚ) - q| := by
    exact_mod_cast Int.one_le_abs (sub_ne_zero.mpr different)
  have detour := abs_sub_le (k : ℚ) x q
  rw [abs_sub_comm x] at detour
  linarith [nearest.near]

theorem NearestEven.abs_le_abs (nearest : NearestEven q x) (k : Int) :
    |(q : ℚ) - x| ≤ |(k : ℚ) - x| := by
  by_cases same : k = q
  · rw [same]
  · exact nearest.near.trans (nearest.half_le same)

theorem NearestEven.le_of_le (nearest : NearestEven q x) (below : (k : ℚ) ≤ x) : k ≤ q := by
  have near := (abs_le.mp nearest.near).1
  have less : (k : ℚ) < q + 1 := by linarith
  exact Int.lt_add_one_iff.mp (by exact_mod_cast less)

theorem NearestEven.ge_of_ge (nearest : NearestEven q x) (above : x ≤ k) : q ≤ k := by
  have near := (abs_le.mp nearest.near).2
  have less : (q : ℚ) < k + 1 := by linarith
  exact Int.lt_add_one_iff.mp (by exact_mod_cast less)

end other

variable {numerator denominator : Int}

theorem nearestEven_div_iff (nonzero : denominator ≠ 0) (q : Int) :
    NearestEven q (numerator / denominator) ↔
      2 * (numerator - q * denominator).natAbs ≤ denominator.natAbs ∧
        (2 * (numerator - q * denominator).natAbs = denominator.natAbs → Even q) := by
  have positive : (0 : ℚ) < denominator.natAbs := by
    exact_mod_cast Int.natAbs_pos.mpr nonzero
  have distance : |(q : ℚ) - numerator / denominator| =
      (numerator - q * denominator).natAbs / denominator.natAbs := by
    rw [Nat.cast_natAbs, Nat.cast_natAbs, Int.cast_abs, Int.cast_abs, ← abs_div, abs_sub_comm]
    push_cast
    field_simp
  have near : |(q : ℚ) - numerator / denominator| ≤ 1 / 2 ↔
      2 * (numerator - q * denominator).natAbs ≤ denominator.natAbs := by
    rw [distance, div_le_div_iff₀ positive two_pos, one_mul, mul_comm]
    norm_cast
  have tie : |(q : ℚ) - numerator / denominator| = 1 / 2 ↔
      2 * (numerator - q * denominator).natAbs = denominator.natAbs := by
    rw [distance, div_eq_div_iff positive.ne' two_ne_zero, one_mul, mul_comm]
    norm_cast
  rw [← near, ← tie]
  exact ⟨fun nearest => ⟨nearest.near, nearest.tie⟩, fun ⟨bound, even⟩ => ⟨bound, even⟩⟩

/-- The remainder of a truncated division is smaller than the divisor, and has the sign of the
dividend. -/
theorem tmod_bounds (numerator : Int) (nonzero : denominator ≠ 0) :
    (numerator.tmod denominator).natAbs < denominator.natAbs ∧
      (numerator.tmod denominator < 0 → numerator < 0) ∧
      (0 < numerator.tmod denominator → 0 < numerator) := by
  refine ⟨?_, fun negative => ?_, fun positive => ?_⟩
  · rw [Int.natAbs_tmod]
    exact Nat.mod_lt _ (Int.natAbs_pos.mpr nonzero)
  · by_contra other
    exact absurd (Int.tmod_nonneg denominator (Int.not_lt.mp other)) (Int.not_le.mpr negative)
  · by_contra other
    have opposite := Int.tmod_nonneg denominator (Int.neg_nonneg.mpr (Int.not_lt.mp other))
    rw [Int.neg_tmod] at opposite
    omega

theorem roundsAway_iff (quotient remainder denominator : Int) :
    roundsAway quotient remainder denominator ↔
      denominator.natAbs < 2 * remainder.natAbs ∨
        (denominator.natAbs = 2 * remainder.natAbs ∧ quotient % 2 ≠ 0) := by
  unfold roundsAway
  split
  · next larger =>
    rw [Nat.compare_eq_gt] at larger
    exact iff_of_true rfl (.inl (by omega))
  · next smaller =>
    rw [Nat.compare_eq_lt] at smaller
    exact iff_of_false Bool.false_ne_true (by omega)
  · next half =>
    rw [Nat.compare_eq_eq] at half
    rw [decide_eq_true_iff]
    omega

/-- The quotient moves only if that brings it nearer, or as near and even. On which side of the
dividend it then is, the signs tell: truncation has left it on the side of zero. -/
theorem nearestEven_divideHalfEven (numerator : Int) (nonzero : denominator ≠ 0) :
    NearestEven (divideHalfEven numerator denominator) (numerator / denominator) := by
  rw [nearestEven_div_iff nonzero, Int.even_iff]
  have whole := Int.mul_tdiv_add_tmod numerator denominator
  obtain ⟨small, negative, positive⟩ := tmod_bounds numerator nonzero
  have away := roundsAway_iff (numerator.tdiv denominator) (numerator.tmod denominator) denominator
  unfold divideHalfEven
  dsimp only
  generalize numerator.tdiv denominator = quotient at *
  generalize numerator.tmod denominator = remainder at *
  have stays : numerator - quotient * denominator = remainder := by
    rw [Int.mul_comm]
    omega
  have lower : numerator - (quotient - 1) * denominator = remainder + denominator := by
    rw [Int.sub_mul]
    omega
  have upper : numerator - (quotient + 1) * denominator = remainder - denominator := by
    rw [Int.add_mul]
    omega
  split
  · rw [stays]
    omega
  split
  · next rounded =>
    have far := away.mp rounded
    split
    · next mixed =>
      rw [ne_eq, eq_iff_iff] at mixed
      rw [lower]
      omega
    · next alike =>
      rw [ne_eq, eq_iff_iff, not_not] at alike
      rw [upper]
      omega
  · next kept =>
    have close := mt away.mpr kept
    rw [stays]
    omega

end Primer.Number
