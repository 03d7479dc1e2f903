import Mathlib.Algebra.Order.Field.Power
import Mathlib.Tactic.Ring
import Primer.Decimal.Double
import Primer.Proofs.Decimal.Value
import Primer.Proofs.Number.Rounding

/-! The double nearest to a number.

Among all doubles, and not only among those with the exponent that the rounding works at, none is
nearer to the number than the one found, and of two equally near ones it is the one with the even
significand. This determines the double, so the quotient that is rounded may be extended.
-/

set_option autoImplicit false

namespace Primer

open Number

namespace Double

def value (x : Double) : ℚ :=
  x.significand * 2 ^ x.exponent

/-- The significand uses all its bits, unless the exponent is the least one. The exponent has no
upper bound here. -/
structure IsCanonical (x : Double) : Prop where
  fits : x.significand < 2 ^ precision
  least : leastExponent ≤ x.exponent
  full : leastExponent < x.exponent → 2 ^ (precision - 1) ≤ x.significand

/-- No double is nearer to the number; if another is as near, the significand is even. -/
structure IsNearest (x : Double) (number : ℚ) : Prop where
  canonical : x.IsCanonical
  near : ∀ other : Double, other.IsCanonical → |x.value - number| ≤ |other.value - number|
  tie : ∀ other : Double, other.IsCanonical → other ≠ x →
    |other.value - number| = |x.value - number| → Even x.significand

/-- A canonical significand of the larger exponent is too large for the smaller one. -/
theorem IsCanonical.eq_of_value {x y : Double} (first : x.IsCanonical) (second : y.IsCanonical)
    (same : x.value = y.value) : x = y := by
  wlog below : x.exponent ≤ y.exponent generalizing x y with other
  · exact (other second first same.symm (Int.le_of_not_le below)).symm
  obtain ⟨places, apart⟩ := Int.le.dest below
  have significand : x.significand = y.significand * 2 ^ places := by
    have power : (2 : ℚ) ^ x.exponent ≠ 0 := zpow_ne_zero _ two_ne_zero
    rw [value, value, ← apart, Int.add_comm, zpow_add₀ two_ne_zero, zpow_natCast,
      ← mul_assoc] at same
    exact_mod_cast mul_right_cancel₀ power same
  cases places with
  | zero =>
    cases x
    cases y
    simp_all
  | succ places =>
    have full := second.full (by have least := first.least; omega)
    have fits := first.fits
    have larger : y.significand * 2 ≤ x.significand := by
      rw [significand, pow_succ, ← mul_assoc]
      exact Nat.mul_le_mul_right 2 (Nat.le_mul_of_pos_right _ (Nat.two_pow_pos places))
    simp only [precision] at full fits
    omega

theorem IsCanonical.value_le {x : Double} (canonical : x.IsCanonical) {exponent : Int}
    (small : x.exponent ≤ exponent) : x.value ≤ (2 ^ precision - 1) * 2 ^ exponent := by
  have fits : (x.significand : ℚ) ≤ 2 ^ precision - 1 := by
    rw [le_sub_iff_add_le]
    exact_mod_cast canonical.fits
  have power : (2 : ℚ) ^ x.exponent ≤ 2 ^ exponent := zpow_le_zpow_right₀ one_le_two small
  exact mul_le_mul fits power (zpow_pos two_pos _).le (by norm_num [precision])

/-! ### Rounding at one exponent -/

/-- Around the number the doubles are the multiples of one power of two. -/
structure IsGrid (exponent : Int) (number : ℚ) : Prop where
  least : leastExponent ≤ exponent
  below : number / 2 ^ exponent < 2 ^ precision
  full : leastExponent < exponent → 2 ^ (precision - 1) ≤ number / 2 ^ exponent

def carry (significand : Nat) (exponent : Int) : Double :=
  if significand = Nat.pow 2 precision then
    { significand := Nat.pow 2 (precision - 1), exponent := exponent + 1 }
  else { significand, exponent }

theorem value_carry (significand : Nat) (exponent : Int) :
    (carry significand exponent).value = significand * 2 ^ exponent := by
  unfold carry
  split
  · next full =>
    rw [full, value, zpow_add_one₀ two_ne_zero]
    push_cast [precision]
    ring
  · rfl

theorem even_carry {significand : Nat} (exponent : Int) (even : Even significand) :
    Even (carry significand exponent).significand := by
  unfold carry
  split
  · exact ⟨2 ^ (precision - 2), rfl⟩
  · exact even

theorem abs_sub_scaled (k : Int) (exponent : Int) (number : ℚ) :
    |k * 2 ^ exponent - number| = |k - number / 2 ^ exponent| * 2 ^ exponent := by
  have power : (0 : ℚ) < 2 ^ exponent := zpow_pos two_pos _
  rw [← abs_of_pos power, ← abs_mul, abs_of_pos power, sub_mul, div_mul_cancel₀ _ power.ne']

theorem exists_multiple {x : Double} {exponent : Int} (above : exponent ≤ x.exponent) :
    ∃ k : Int, x.value = k * 2 ^ exponent ∧ (Even x.significand → Even k) := by
  obtain ⟨places, apart⟩ := Int.le.dest above
  refine ⟨x.significand * 2 ^ places, ?_, fun even => ?_⟩
  · rw [value, ← apart, Int.add_comm, zpow_add₀ two_ne_zero, zpow_natCast]
    push_cast
    ring
  · exact Even.mul_right (by exact_mod_cast even) _

section grid

variable {exponent : Int} {number : ℚ} {significand : Nat} {x : Double}

theorem isCanonical_carry (fits : significand ≤ 2 ^ precision) (least : leastExponent ≤ exponent)
    (full : leastExponent < exponent → 2 ^ (precision - 1) ≤ significand) :
    (carry significand exponent).IsCanonical := by
  unfold carry
  split
  · exact ⟨Nat.pow_lt_pow_right Nat.one_lt_two (by decide), Int.le_add_one least,
      fun _ => Nat.le_refl _⟩
  · next other => exact ⟨Nat.lt_of_le_of_ne fits other, least, full⟩

theorem IsGrid.isCanonical_carry (grid : IsGrid exponent number)
    (nearest : NearestEven significand (number / 2 ^ exponent)) :
    (carry significand exponent).IsCanonical := by
  have fits : (significand : Int) ≤ (2 ^ precision : Nat) :=
    nearest.ge_of_ge (by exact_mod_cast grid.below.le)
  refine Double.isCanonical_carry (by exact_mod_cast fits) grid.least fun more => ?_
  have full : ((2 ^ (precision - 1) : Nat) : Int) ≤ significand :=
    nearest.le_of_le (by exact_mod_cast grid.full more)
  exact_mod_cast full

/-- Doubles with a smaller exponent lie below the whole grid. -/
theorem IsGrid.abs_lt_abs (grid : IsGrid exponent number)
    (nearest : NearestEven significand (number / 2 ^ exponent)) (canonical : x.IsCanonical)
    (less : x.exponent < exponent) :
    |significand * 2 ^ exponent - number| < |x.value - number| := by
  have power : (0 : ℚ) < 2 ^ exponent := zpow_pos two_pos _
  have full := grid.full (Int.lt_of_le_of_lt canonical.least less)
  -- The first multiple with all bits lies between the smaller double and the number.
  have start : ((2 ^ (precision - 1) : Int) : ℚ) * 2 ^ exponent ≤ number := by
    rw [← le_div_iff₀ power]
    exact_mod_cast full
  have under : x.value < (2 ^ (precision - 1) : Int) * 2 ^ exponent := by
    calc x.value ≤ (2 ^ precision - 1) * 2 ^ (exponent - 1) :=
          canonical.value_le (Int.le_sub_one_of_lt less)
      _ < 2 ^ precision * 2 ^ (exponent - 1) :=
          mul_lt_mul_of_pos_right (sub_one_lt _) (zpow_pos two_pos _)
      _ = (2 ^ (precision - 1) : Int) * 2 ^ exponent := by
          rw [zpow_sub_one₀ two_ne_zero]
          push_cast [precision]
          ring
  have closer := mul_le_mul_of_nonneg_right (nearest.abs_le_abs (2 ^ (precision - 1))) power.le
  rw [← abs_sub_scaled, ← abs_sub_scaled, Int.cast_natCast] at closer
  refine closer.trans_lt ?_
  rw [abs_of_nonpos (by linarith), abs_of_nonpos (by linarith)]
  linarith

theorem IsGrid.isNearest_carry (grid : IsGrid exponent number)
    (nearest : NearestEven significand (number / 2 ^ exponent)) :
    (carry significand exponent).IsNearest number where
  canonical := grid.isCanonical_carry nearest
  near other canonical := by
    rw [value_carry]
    rcases lt_or_ge other.exponent exponent with less | above
    · exact (grid.abs_lt_abs nearest canonical less).le
    · obtain ⟨k, isMultiple, -⟩ := exists_multiple above
      rw [isMultiple, ← Int.cast_natCast, abs_sub_scaled, abs_sub_scaled]
      exact mul_le_mul_of_nonneg_right (nearest.abs_le_abs k) (zpow_pos two_pos _).le
  tie other canonical different same := by
    rw [value_carry] at same
    rcases lt_or_ge other.exponent exponent with less | above
    · exact absurd same (grid.abs_lt_abs nearest canonical less).ne'
    · obtain ⟨k, isMultiple, -⟩ := exists_multiple above
      have apart : k ≠ significand := by
        rintro rfl
        apply different
        apply canonical.eq_of_value (grid.isCanonical_carry nearest)
        rw [value_carry, isMultiple, Int.cast_natCast]
      rw [isMultiple, ← Int.cast_natCast, abs_sub_scaled, abs_sub_scaled] at same
      have equal := mul_right_cancel₀ (zpow_pos two_pos exponent).ne' same
      have half := nearest.half_le apart
      rw [equal] at half
      exact even_carry exponent (by exact_mod_cast nearest.tie (nearest.near.antisymm half))

theorem IsGrid.eq_carry (grid : IsGrid exponent number)
    (nearest : NearestEven significand (number / 2 ^ exponent)) (found : x.IsNearest number) :
    x = carry significand exponent := by
  have also := grid.isNearest_carry nearest
  have same := (found.near _ also.canonical).antisymm (also.near x found.canonical)
  by_contra different
  have even := found.tie _ also.canonical (Ne.symm different) same.symm
  rw [value_carry] at same
  rcases lt_or_ge x.exponent exponent with less | above
  · exact absurd same (grid.abs_lt_abs nearest found.canonical less).ne'
  · obtain ⟨k, isMultiple, evenMultiple⟩ := exists_multiple above
    rw [isMultiple, ← Int.cast_natCast, abs_sub_scaled, abs_sub_scaled] at same
    have equal := mul_right_cancel₀ (zpow_pos two_pos exponent).ne' same
    have second : NearestEven k (number / 2 ^ exponent) :=
      ⟨equal.trans_le nearest.near, fun _ => evenMultiple even⟩
    apply different
    apply found.canonical.eq_of_value also.canonical
    rw [value_carry, isMultiple, second.unique nearest, Int.cast_natCast]

end grid

/-! ### Rounding a quotient -/

section quotient

variable {numerator denominator : Nat}

theorem two_pow_div_two_pow (exponent : Int) :
    ((Nat.pow 2 exponent.toNat : Nat) : ℚ) / (Nat.pow 2 (-exponent).toNat : Nat) =
      2 ^ exponent := by
  rw [Nat.pow_eq, Nat.pow_eq, Nat.cast_pow, Nat.cast_pow, Nat.cast_ofNat, ← zpow_natCast,
    ← zpow_natCast, ← zpow_sub₀ two_ne_zero, Int.toNat_sub_toNat_neg]

theorem log2_bounds (n : Nat) (positive : 0 < n) :
    (2 : ℚ) ^ (n.log2 : Int) ≤ n ∧ (n : ℚ) < 2 ^ (n.log2 + 1 : Int) := by
  have lower := Nat.log2_self_le positive.ne'
  have upper := Nat.lt_log2_self (n := n)
  constructor
  · exact_mod_cast lower
  · exact_mod_cast upper

theorem binade_bounds (above : 0 < numerator) (below : 0 < denominator) :
    (2 : ℚ) ^ binade numerator denominator ≤ numerator / denominator ∧
      (numerator : ℚ) / denominator < 2 ^ (binade numerator denominator + 1) := by
  have positive : (0 : ℚ) < denominator := by exact_mod_cast below
  obtain ⟨leastAbove, mostAbove⟩ := log2_bounds numerator above
  obtain ⟨leastBelow, mostBelow⟩ := log2_bounds denominator below
  unfold binade
  dsimp only
  generalize shift : (numerator.log2 : Int) - denominator.log2 = e
  -- The lengths alone leave two exponents, and the comparison decides between them.
  have test : denominator * Nat.pow 2 e.toNat ≤ numerator * Nat.pow 2 (-e).toNat ↔
      (2 : ℚ) ^ e ≤ numerator / denominator := by
    have power : (0 : ℚ) < (Nat.pow 2 (-e).toNat : Nat) := by exact_mod_cast Nat.two_pow_pos _
    rw [← two_pow_div_two_pow, div_le_div_iff₀ power positive, mul_comm denominator]
    norm_cast
  have upper : (numerator : ℚ) / denominator < 2 ^ (e + 1) := by
    rw [div_lt_iff₀ positive]
    calc (numerator : ℚ) < 2 ^ (numerator.log2 + 1 : Int) := mostAbove
      _ = 2 ^ (e + 1) * 2 ^ (denominator.log2 : Int) := by
          rw [← zpow_add₀ two_ne_zero]
          congr 1
          omega
      _ ≤ 2 ^ (e + 1) * denominator := by gcongr
  have lower : (2 : ℚ) ^ (e - 1) ≤ numerator / denominator := by
    rw [le_div_iff₀ positive]
    calc (2 : ℚ) ^ (e - 1) * denominator
        ≤ 2 ^ (e - 1) * 2 ^ (denominator.log2 + 1 : Int) := by gcongr
      _ = 2 ^ (numerator.log2 : Int) := by
          rw [← zpow_add₀ two_ne_zero]
          congr 1
          omega
      _ ≤ numerator := leastAbove
  split
  · next reached => exact ⟨test.mp reached, upper⟩
  · next missed =>
    rw [test, not_le] at missed
    exact ⟨lower, by rwa [Int.sub_add_cancel]⟩

def gridExponent (numerator denominator : Nat) : Int :=
  max (binade numerator denominator - (precision - 1 : Nat)) leastExponent

theorem isGrid_gridExponent (above : 0 < numerator) (below : 0 < denominator) :
    IsGrid (gridExponent numerator denominator) (numerator / denominator) := by
  obtain ⟨lower, upper⟩ := binade_bounds above below
  unfold gridExponent
  generalize binade numerator denominator = e at lower upper ⊢
  have power (exponent : Int) : (0 : ℚ) < 2 ^ exponent := zpow_pos two_pos _
  refine ⟨le_max_right _ _, ?_, fun more => ?_⟩
  · rw [div_lt_iff₀ (power _), ← zpow_natCast, ← zpow_add₀ two_ne_zero]
    refine upper.trans_le (zpow_le_zpow_right₀ one_le_two ?_)
    simp only [precision]
    omega
  · rw [le_div_iff₀ (power _), ← zpow_natCast, ← zpow_add₀ two_ne_zero]
    refine le_trans (zpow_le_zpow_right₀ one_le_two ?_) lower
    omega

def roundedAt (numerator denominator : Nat) (exponent : Int) : Nat :=
  (divideHalfEven (numerator * Nat.pow 2 (-exponent).toNat : Nat)
    (denominator * Nat.pow 2 exponent.toNat : Nat)).toNat

theorem nearestEven_roundedAt (numerator : Nat) (below : 0 < denominator) (exponent : Int) :
    NearestEven (roundedAt numerator denominator exponent)
      (numerator / denominator / 2 ^ exponent) := by
  have positive : 0 < denominator * Nat.pow 2 exponent.toNat :=
    Nat.mul_pos below (Nat.two_pow_pos _)
  have nearest := nearestEven_divideHalfEven (numerator * Nat.pow 2 (-exponent).toNat : Nat)
    (Int.natCast_ne_zero.mpr positive.ne')
  have scaled : (((numerator * Nat.pow 2 (-exponent).toNat : Nat) : Int) : ℚ) /
      ((denominator * Nat.pow 2 exponent.toNat : Nat) : Int) =
        numerator / denominator / 2 ^ exponent := by
    rw [← two_pow_div_two_pow]
    push_cast
    rw [mul_div_mul_comm, div_eq_mul_inv (_ / _) (_ / _), inv_div]
  have nonneg : 0 ≤ divideHalfEven (numerator * Nat.pow 2 (-exponent).toNat : Nat)
      (denominator * Nat.pow 2 exponent.toNat : Nat) := by
    apply nearest.le_of_le
    rw [Int.cast_zero]
    positivity
  rw [roundedAt, Int.toNat_of_nonneg nonneg, ← scaled]
  exact nearest

theorem nearest?_eq (numerator denominator : Nat) :
    nearest? numerator denominator =
      let exponent := gridExponent numerator denominator
      let x := carry (roundedAt numerator denominator exponent) exponent
      if x.exponent > greatestExponent then none else some x := by
  unfold nearest? carry roundedAt gridExponent
  dsimp only
  split <;> rfl

/-- What is found is the nearest double, unless this is too large. -/
theorem nearest?_eq_some_iff (above : 0 < numerator) (below : 0 < denominator) (x : Double) :
    nearest? numerator denominator = some x ↔
      x.IsNearest (numerator / denominator) ∧ x.exponent ≤ greatestExponent := by
  have grid := isGrid_gridExponent above below
  have nearest := nearestEven_roundedAt numerator below (gridExponent numerator denominator)
  rw [nearest?_eq]
  dsimp only
  constructor
  · intro found
    split at found
    · cases found
    · next small =>
      cases found
      exact ⟨grid.isNearest_carry nearest, not_lt.mp small⟩
  · rintro ⟨isNearest, small⟩
    rw [← grid.eq_carry nearest isNearest, if_neg (not_lt.mpr small)]

end quotient

/-! ### Rounding a number in scientific notation -/

theorem length_repr_bounds {n : Nat} (positive : 0 < n) (exponent : Int) :
    (10 : ℚ) ^ ((toString n).length + exponent - 1) ≤ n * 10 ^ exponent ∧
      (n : ℚ) * 10 ^ exponent < 10 ^ ((toString n).length + exponent) := by
  have power : (0 : ℚ) < 10 ^ exponent := zpow_pos (by norm_num) _
  have lengthPos : 0 < n.repr.length := Nat.length_repr_pos
  have upper : n < 10 ^ n.repr.length := (Nat.length_repr_le_iff lengthPos).mp (Nat.le_refl _)
  have lower : 10 ^ (n.repr.length - 1) ≤ n := by
    by_contra less
    rw [not_le] at less
    rcases Nat.eq_zero_or_pos (n.repr.length - 1) with single | several
    · rw [single, pow_zero] at less
      omega
    · have shorter := (Nat.length_repr_le_iff several).mpr less
      omega
  rw [Nat.toString_eq_repr]
  constructor
  · rw [add_sub_right_comm, zpow_add₀ (by norm_num)]
    gcongr
    rw [← Nat.cast_pred lengthPos, zpow_natCast]
    exact_mod_cast lower
  · rw [zpow_add₀ (by norm_num), zpow_natCast]
    gcongr
    exact_mod_cast upper

theorem isCanonical_zero : zero.IsCanonical :=
  ⟨by decide, Int.le_refl _, fun less => absurd less (Int.lt_irrefl _)⟩

theorem value_zero : zero.value = 0 := by
  simp [value, zero]

theorem value_nonneg (x : Double) : 0 ≤ x.value :=
  mul_nonneg (Nat.cast_nonneg _) (zpow_pos two_pos _).le

theorem IsCanonical.eq_zero {x : Double} (canonical : x.IsCanonical) (none : x.significand = 0) :
    x = zero := by
  apply canonical.eq_of_value isCanonical_zero
  rw [value_zero, value, none, Nat.cast_zero, zero_mul]

theorem IsCanonical.le_value {x : Double} (canonical : x.IsCanonical) (nonzero : x ≠ zero) :
    2 ^ leastExponent ≤ x.value := by
  have some : (1 : ℚ) ≤ x.significand := by
    exact_mod_cast Nat.one_le_iff_ne_zero.mpr (mt canonical.eq_zero nonzero)
  calc (2 : ℚ) ^ leastExponent ≤ 2 ^ x.exponent :=
        zpow_le_zpow_right₀ one_le_two canonical.least
    _ ≤ x.value := le_mul_of_one_le_left (zpow_pos two_pos _).le some

/-- What is less than half of the least double rounds to zero. -/
theorem isNearest_iff_of_small {number : ℚ} (nonneg : 0 ≤ number)
    (small : number < 2 ^ (leastExponent - 1)) (x : Double) : x.IsNearest number ↔ x = zero := by
  have farther (other : Double) (canonical : other.IsCanonical) (nonzero : other ≠ zero) :
      |zero.value - number| < |other.value - number| := by
    have large := canonical.le_value nonzero
    rw [zpow_sub_one₀ two_ne_zero] at small
    rw [value_zero, zero_sub, abs_neg, abs_of_nonneg nonneg, lt_abs]
    exact .inl (by linarith)
  constructor
  · intro nearest
    by_contra nonzero
    have far := farther x nearest.canonical nonzero
    exact absurd (nearest.near zero isCanonical_zero) (not_le.mpr far)
  · rintro rfl
    refine ⟨isCanonical_zero, fun other canonical => ?_, fun _ _ _ _ => Even.zero⟩
    rcases eq_or_ne other zero with rfl | nonzero
    · exact le_refl _
    · exact (farther other canonical nonzero).le

theorem IsNearest.lt_greatest {x : Double} {number : ℚ} (nearest : x.IsNearest number)
    (small : x.exponent ≤ greatestExponent) : number < 2 ^ (greatestExponent + precision) := by
  by_contra large
  rw [not_lt] at large
  let next : Double := { significand := 2 ^ (precision - 1), exponent := greatestExponent + 1 }
  have canonical : next.IsCanonical :=
    ⟨Nat.pow_lt_pow_right Nat.one_lt_two (by decide), by decide, fun _ => Nat.le_refl _⟩
  have nextValue : next.value = 2 ^ (greatestExponent + precision) := by
    rw [value, Nat.cast_pow, Nat.cast_ofNat, ← zpow_natCast, ← zpow_add₀ two_ne_zero]
    rfl
  have less : x.value < next.value := by
    calc x.value ≤ (2 ^ precision - 1) * 2 ^ greatestExponent := nearest.canonical.value_le small
      _ < 2 ^ precision * 2 ^ greatestExponent :=
          mul_lt_mul_of_pos_right (sub_one_lt _) (zpow_pos two_pos _)
      _ = next.value := by rw [nextValue, zpow_add₀ two_ne_zero, zpow_natCast, mul_comm]
  have near := nearest.near next canonical
  rw [← nextValue] at large
  rw [abs_of_nonpos (by linarith), abs_of_nonpos (by linarith)] at near
  linarith

theorem ten_zpow_leastWholeDigits :
    (10 : ℚ) ^ (leastWholeDigits - 1) ≤ 2 ^ (leastExponent - 1) := by
  have powers : 2 ^ 1075 ≤ 10 ^ 325 := by decide +kernel
  change (10 : ℚ) ^ (-325 : Int) ≤ 2 ^ (-1075 : Int)
  rw [zpow_neg, zpow_neg]
  exact inv_anti₀ (zpow_pos two_pos _) (by exact_mod_cast powers)

theorem two_zpow_greatestExponent :
    (2 : ℚ) ^ (greatestExponent + precision) ≤ 10 ^ mostWholeDigits := by
  have powers : 2 ^ 1024 ≤ 10 ^ 309 := by decide +kernel
  change (2 : ℚ) ^ (1024 : Int) ≤ 10 ^ (309 : Int)
  exact_mod_cast powers

section scientific

variable {mantissa : Nat} {exponent : Int}

theorem lt_of_few_digits
    (few : mantissa = 0 ∨ (toString mantissa).length + exponent < leastWholeDigits) :
    (mantissa : ℚ) * 10 ^ exponent < 2 ^ (leastExponent - 1) := by
  rcases Nat.eq_zero_or_pos mantissa with rfl | positive
  · rw [Nat.cast_zero, zero_mul]
    exact zpow_pos two_pos _
  have less := Int.le_sub_one_of_lt (few.resolve_left positive.ne')
  calc (mantissa : ℚ) * 10 ^ exponent
      < 10 ^ ((toString mantissa).length + exponent) := (length_repr_bounds positive exponent).2
    _ ≤ 10 ^ (leastWholeDigits - 1) := zpow_le_zpow_right₀ (by norm_num) less
    _ ≤ 2 ^ (leastExponent - 1) := ten_zpow_leastWholeDigits

theorem le_of_many_digits (positive : 0 < mantissa)
    (many : mostWholeDigits < (toString mantissa).length + exponent) :
    (2 : ℚ) ^ (greatestExponent + precision) ≤ mantissa * 10 ^ exponent :=
  calc (2 : ℚ) ^ (greatestExponent + precision)
      ≤ 10 ^ mostWholeDigits := two_zpow_greatestExponent
    _ ≤ 10 ^ ((toString mantissa).length + exponent - 1) :=
        zpow_le_zpow_right₀ (by norm_num) (Int.le_sub_one_of_lt many)
    _ ≤ mantissa * 10 ^ exponent := (length_repr_bounds positive exponent).1

theorem scientific_quotient (mantissa : Nat) (exponent : Int) :
    ((mantissa * Nat.pow 10 exponent.toNat : Nat) : ℚ) / (Nat.pow 10 (-exponent).toNat : Nat) =
      mantissa * 10 ^ exponent := by
  rw [← tenTo_div_tenTo, tenTo_eq, tenTo_eq, Nat.pow_eq, Nat.pow_eq, Nat.cast_mul, mul_div_assoc]
  push_cast
  rfl

/-- Cutting off by the number of digits changes nothing. -/
theorem ofScientific_eq_some_iff (mantissa : Nat) (exponent : Int) (x : Double) :
    ofScientific mantissa exponent = some x ↔
      x.IsNearest (mantissa * 10 ^ exponent) ∧ x.exponent ≤ greatestExponent := by
  unfold ofScientific
  dsimp only
  split
  case isTrue few =>
    have nonneg : (0 : ℚ) ≤ mantissa * 10 ^ exponent := by positivity
    rw [isNearest_iff_of_small nonneg (lt_of_few_digits few), Option.some_inj, eq_comm]
    exact ⟨fun isZero => ⟨isZero, isZero ▸ by decide⟩, fun both => both.1⟩
  case isFalse enough =>
    have positive : 0 < mantissa := Nat.pos_of_ne_zero fun none => enough (.inl none)
    split
    case isTrue many =>
      refine iff_of_false nofun fun both => ?_
      exact absurd (both.1.lt_greatest both.2) (not_lt.mpr (le_of_many_digits positive many))
    case isFalse =>
      have below : 0 < Nat.pow 10 (-exponent).toNat := Nat.pow_pos (by decide)
      have above : 0 < mantissa * Nat.pow 10 exponent.toNat :=
        Nat.mul_pos positive (Nat.pow_pos (by decide))
      rw [nearest?_eq_some_iff above below, scientific_quotient]

end scientific

end Double

end Primer
