import Primer.Proofs.Decimal.Nearest
import Primer.Proofs.Decimal.Normal

/-! The shortest decimal of a double.

The numbers that round to a double fill an interval from one middle between neighbours to the next.
The search walks through this interval from fine grids of decimals to coarse ones. What it ends with
reads back as the double, no other decimal that does has fewer digits, and on its own grid none is
nearer to the double.
-/

set_option autoImplicit false

namespace Primer

open Number

namespace Double

/-! ### Neighbours -/

def halfAbove (x : Double) : ℚ :=
  2 ^ (x.exponent - 1)

def halfBelow (x : Double) : ℚ :=
  if x.significand = Nat.pow 2 (precision - 1) ∧ leastExponent < x.exponent then
    2 ^ (x.exponent - 2)
  else 2 ^ (x.exponent - 1)

theorem halfAbove_pos (x : Double) : 0 < x.halfAbove :=
  zpow_pos two_pos _

theorem halfBelow_pos (x : Double) : 0 < x.halfBelow := by
  unfold halfBelow
  split <;> exact zpow_pos two_pos _

theorem halfBelow_le (x : Double) : x.halfBelow ≤ x.halfAbove := by
  unfold halfBelow halfAbove
  split
  · exact zpow_le_zpow_right₀ one_le_two (by omega)
  · exact le_refl _

theorem two_mul_halfAbove (x : Double) : 2 * x.halfAbove = 2 ^ x.exponent := by
  rw [halfAbove, zpow_sub_one₀ two_ne_zero]
  ring

section neighbours

variable {x y : Double}

/-- All bits of a double with a smaller exponent do not reach the least full significand. -/
theorem IsCanonical.value_le_of_exponent_lt (first : x.IsCanonical) (second : y.IsCanonical)
    (less : y.exponent < x.exponent) : y.value ≤ x.value - 2 * x.halfBelow := by
  have more := Int.lt_of_le_of_lt second.least less
  have power : (0 : ℚ) < 2 ^ (x.exponent - 1) := zpow_pos two_pos _
  have own : x.value = 2 * x.significand * 2 ^ (x.exponent - 1) := by
    rw [value, zpow_sub_one₀ two_ne_zero]
    ring
  have under := second.value_le (Int.le_sub_one_of_lt less)
  unfold halfBelow
  split
  · next border =>
    have quarter : 2 * (2 : ℚ) ^ (x.exponent - 2) = 2 ^ (x.exponent - 1) := by
      rw [← zpow_one_add₀ two_ne_zero]
      congr 1
      omega
    rw [own, border.1, quarter]
    refine under.trans_eq ?_
    push_cast [precision]
    ring
  · next inner =>
    have beyond : 2 ^ (precision - 1) + 1 ≤ x.significand :=
      Nat.lt_of_le_of_ne (first.full more) fun border => inner ⟨border.symm, more⟩
    have large : (2 : ℚ) ^ (precision - 1) + 1 ≤ x.significand := by exact_mod_cast beyond
    have bits : (2 : ℚ) ^ precision - 1 ≤ 2 * x.significand - 2 := by
      rw [← Nat.sub_add_cancel (by decide : 1 ≤ precision), pow_succ]
      linarith
    calc y.value ≤ (2 ^ precision - 1) * 2 ^ (x.exponent - 1) := under
      _ ≤ (2 * x.significand - 2) * 2 ^ (x.exponent - 1) :=
          mul_le_mul_of_nonneg_right bits power.le
      _ = x.value - 2 * 2 ^ (x.exponent - 1) := by
          rw [own]
          ring

/-- No double lies between a double and its neighbours. -/
theorem IsCanonical.apart (first : x.IsCanonical) (second : y.IsCanonical) (different : y ≠ x) :
    y.value ≤ x.value - 2 * x.halfBelow ∨ x.value + 2 * x.halfAbove ≤ y.value := by
  rcases lt_or_ge y.exponent x.exponent with less | above
  · exact .inl (first.value_le_of_exponent_lt second less)
  obtain ⟨k, isMultiple, -⟩ := exists_multiple above
  have other : k ≠ x.significand := by
    rintro rfl
    exact different (second.eq_of_value first (by rw [isMultiple, value, Int.cast_natCast]))
  have below := x.halfBelow_le
  have gap := x.two_mul_halfAbove
  have power : (0 : ℚ) < 2 ^ x.exponent := zpow_pos two_pos _
  rw [isMultiple, value]
  rcases lt_or_gt_of_ne other with less | more
  · have step : (k : ℚ) ≤ x.significand - 1 := by exact_mod_cast Int.le_sub_one_of_lt less
    left
    nlinarith
  · have step : (x.significand : ℚ) + 1 ≤ k := by exact_mod_cast more
    right
    nlinarith

theorem IsCanonical.exists_above (canonical : x.IsCanonical) :
    ∃ next : Double, next.IsCanonical ∧ next.value = x.value + 2 * x.halfAbove := by
  refine ⟨carry (x.significand + 1) x.exponent, ?_, ?_⟩
  · exact isCanonical_carry canonical.fits canonical.least
      fun more => Nat.le_succ_of_le (canonical.full more)
  · rw [value_carry, two_mul_halfAbove, value]
    push_cast
    ring

theorem IsCanonical.exists_below (canonical : x.IsCanonical) (positive : 0 < x.significand) :
    ∃ previous : Double, previous.IsCanonical ∧
      previous.value = x.value - 2 * x.halfBelow := by
  by_cases border : x.significand = Nat.pow 2 (precision - 1) ∧ leastExponent < x.exponent
  · refine ⟨{ significand := Nat.pow 2 precision - 1, exponent := x.exponent - 1 },
      ⟨Nat.sub_lt (Nat.two_pow_pos _) one_pos, Int.le_sub_one_of_lt border.2,
        fun _ => Nat.le_sub_one_of_lt (Nat.pow_lt_pow_right Nat.one_lt_two (by decide))⟩, ?_⟩
    rw [halfBelow, if_pos border, value, value, border.1,
      show x.exponent - 2 = x.exponent - 1 - 1 by omega, zpow_sub_one₀ two_ne_zero (x.exponent - 1),
      zpow_sub_one₀ two_ne_zero]
    norm_num [precision]
    ring
  · refine ⟨{ significand := x.significand - 1, exponent := x.exponent },
      ⟨Nat.lt_of_le_of_lt (Nat.sub_le _ _) canonical.fits, canonical.least, fun more => ?_⟩, ?_⟩
    · refine Nat.le_sub_one_of_lt (Nat.lt_of_le_of_ne (canonical.full more) fun same => ?_)
      exact border ⟨same.symm, more⟩
    · have gap := x.two_mul_halfAbove
      rw [halfBelow, if_neg border, ← halfAbove, gap, value, value, Nat.cast_pred positive]
      ring

end neighbours

/-! ### The interval of a double -/

/-- What is nearer to the smaller of two numbers lies under their middle. -/
theorem abs_sub_le_abs_sub_iff {a b : ℚ} (less : a < b) (q : ℚ) :
    (|a - q| ≤ |b - q| ↔ 2 * q ≤ a + b) ∧ (|b - q| ≤ |a - q| ↔ a + b ≤ 2 * q) := by
  have apart : 0 < b - a := sub_pos.mpr less
  have squares : (b - q) ^ 2 - (a - q) ^ 2 = (b - a) * (a + b - 2 * q) := by ring
  constructor
  · rw [← sq_le_sq, ← sub_nonneg, squares, mul_nonneg_iff_of_pos_left apart, sub_nonneg]
  · rw [← sq_le_sq, ← sub_nonpos, squares, mul_nonpos_iff_pos_imp_nonpos]
    constructor
    · exact fun both => sub_nonpos.mp (both.1 apart)
    · exact fun above => ⟨fun _ => sub_nonpos.mpr above, fun below => by linarith⟩

section interval

variable {x : Double}

/-- The two ends belong to the interval if the significand is even. -/
theorem IsCanonical.isNearest_iff (canonical : x.IsCanonical) (positive : 0 < x.significand)
    (q : ℚ) :
    x.IsNearest q ↔ x.value - x.halfBelow ≤ q ∧ q ≤ x.value + x.halfAbove ∧
      (q = x.value - x.halfBelow ∨ q = x.value + x.halfAbove → Even x.significand) := by
  have above := x.halfAbove_pos
  have below := x.halfBelow_pos
  constructor
  · intro nearest
    obtain ⟨next, nextCanonical, nextValue⟩ := canonical.exists_above
    obtain ⟨previous, previousCanonical, previousValue⟩ := canonical.exists_below positive
    obtain ⟨upper, upperTie⟩ := abs_sub_le_abs_sub_iff (by linarith : x.value < next.value) q
    obtain ⟨lowerTie, lower⟩ := abs_sub_le_abs_sub_iff (by linarith : previous.value < x.value) q
    have most := upper.mp (nearest.near next nextCanonical)
    have least := lower.mp (nearest.near previous previousCanonical)
    refine ⟨by linarith, by linarith, ?_⟩
    rintro (isLeast | isMost)
    · refine nearest.tie previous previousCanonical ?_ ?_
      · rintro rfl
        linarith
      · exact (lowerTie.mpr (by linarith)).antisymm (nearest.near previous previousCanonical)
    · refine nearest.tie next nextCanonical ?_ ?_
      · rintro rfl
        linarith
      · exact (upperTie.mpr (by linarith)).antisymm (nearest.near next nextCanonical)
  · rintro ⟨least, most, tie⟩
    refine ⟨canonical, fun other otherCanonical => ?_, fun other otherCanonical different same => ?_⟩
    · rcases eq_or_ne other x with rfl | different
      · exact le_refl _
      rcases canonical.apart otherCanonical different with less | more
      · exact (abs_sub_le_abs_sub_iff (by linarith : other.value < x.value) q).2.mpr (by linarith)
      · exact (abs_sub_le_abs_sub_iff (by linarith : x.value < other.value) q).1.mpr (by linarith)
    · rcases canonical.apart otherCanonical different with less | more
      · have middle := (abs_sub_le_abs_sub_iff (by linarith : other.value < x.value) q).1.mp same.le
        exact tie (.inl (by linarith))
      · have middle := (abs_sub_le_abs_sub_iff (by linarith : x.value < other.value) q).2.mp same.le
        exact tie (.inr (by linarith))

theorem IsCanonical.halfBelow_lt_value (canonical : x.IsCanonical) (positive : 0 < x.significand) :
    x.halfBelow < x.value := by
  obtain ⟨previous, -, previousValue⟩ := canonical.exists_below positive
  have nonneg := previous.value_nonneg
  have half := x.halfBelow_pos
  linarith

theorem IsNearest.positive {q : ℚ} (nearest : x.IsNearest q) (positive : 0 < x.significand) :
    0 < q := by
  have half := nearest.canonical.halfBelow_lt_value positive
  have least := ((nearest.canonical.isNearest_iff positive q).mp nearest).1
  linarith

theorem IsNearest.between {p q r : ℚ} (positive : 0 < x.significand) (first : x.IsNearest p)
    (last : x.IsNearest r) (after : p ≤ q) (before : q ≤ r) : x.IsNearest q := by
  have canonical := first.canonical
  rw [canonical.isNearest_iff positive] at first last ⊢
  refine ⟨first.1.trans after, before.trans last.2.1, ?_⟩
  rintro (isLeast | isMost)
  · exact first.2.2 (.inl ((after.trans_eq isLeast).antisymm first.1))
  · exact last.2.2 (.inr (last.2.1.antisymm (isMost.symm.trans_le before)))

end interval

/-! ### The basin -/

def Basin.number (b : Basin) (n : Nat) : ℚ :=
  n * 10 ^ (-b.scale)

theorem Basin.number_le_iff (b : Basin) {m n : Nat} : b.number m ≤ b.number n ↔ m ≤ n := by
  have power : (0 : ℚ) < 10 ^ (-b.scale) := zpow_pos (by norm_num) _
  rw [number, number, mul_le_mul_iff_of_pos_right power, Nat.cast_le]

theorem Basin.number_inj (b : Basin) {m n : Nat} : b.number m = b.number n ↔ m = n := by
  rw [le_antisymm_iff, le_antisymm_iff, number_le_iff, number_le_iff]

theorem Basin.abs_number_sub (b : Basin) (m n : Nat) :
    |b.number m - b.number n| = ((m : Int) - n).natAbs * 10 ^ (-b.scale) := by
  have power : (0 : ℚ) < 10 ^ (-b.scale) := zpow_pos (by norm_num) _
  rw [number, number, ← sub_mul, abs_mul, abs_of_pos power, Nat.cast_natAbs]
  push_cast
  rfl

section basin

variable {x : Double}

/-- In quarters of the last place, scaled to a whole number of powers of ten. -/
theorem unit_mul (exponent : Int) :
    ((Nat.pow 2 exponent.toNat * Nat.pow 5 (-exponent).toNat : Nat) : ℚ) *
      10 ^ (-max (-exponent) 0) = 2 ^ exponent := by
  have ten : (10 : ℚ) = 2 * 5 := by norm_num
  have places : max (-exponent) 0 = ((-exponent).toNat : Int) := by omega
  have five : (5 : ℚ) ^ ((-exponent).toNat : Int) ≠ 0 := zpow_ne_zero _ (by norm_num)
  rw [places, ten, mul_zpow, zpow_neg, zpow_neg, Nat.pow_eq, Nat.pow_eq, Nat.cast_mul, Nat.cast_pow,
    Nat.cast_pow, Nat.cast_ofNat, Nat.cast_ofNat, ← zpow_natCast, ← zpow_natCast]
  calc (2 : ℚ) ^ (exponent.toNat : Int) * 5 ^ ((-exponent).toNat : Int) *
        ((2 ^ ((-exponent).toNat : Int))⁻¹ * (5 ^ ((-exponent).toNat : Int))⁻¹)
      = 2 ^ (exponent.toNat : Int) * (2 ^ ((-exponent).toNat : Int))⁻¹ := by field_simp
    _ = 2 ^ exponent := by
        rw [← zpow_neg, ← zpow_add₀ two_ne_zero]
        congr 1
        omega

theorem basin_value (x : Double) : x.basin.number x.basin.value = x.value := by
  have unit := unit_mul (x.exponent - 2)
  simp only [Basin.number, basin]
  rw [Nat.cast_mul, mul_assoc, unit, value, zpow_sub₀ two_ne_zero]
  push_cast
  ring

theorem basin_high (x : Double) : x.basin.number x.basin.high = x.value + x.halfAbove := by
  have unit := unit_mul (x.exponent - 2)
  simp only [Basin.number, basin]
  rw [Nat.cast_mul, mul_assoc, unit, value, halfAbove, zpow_sub₀ two_ne_zero,
    zpow_sub_one₀ two_ne_zero]
  push_cast
  ring

theorem basin_low (x : Double) (positive : 0 < x.significand) :
    x.basin.number x.basin.low = x.value - x.halfBelow := by
  have unit := unit_mul (x.exponent - 2)
  simp only [Basin.number, basin, halfBelow]
  split
  · rw [Nat.cast_mul, mul_assoc, unit, value, Nat.cast_sub (by omega), zpow_sub₀ two_ne_zero]
    push_cast
    ring
  · rw [Nat.cast_mul, mul_assoc, unit, value, Nat.cast_sub (by omega), zpow_sub₀ two_ne_zero,
      zpow_sub_one₀ two_ne_zero]
    push_cast
    ring

/-- The basin holds just what rounds to the double. -/
theorem IsCanonical.contains_basin_iff (canonical : x.IsCanonical) (positive : 0 < x.significand)
    (n : Nat) : x.basin.contains n = true ↔ x.IsNearest (x.basin.number n) := by
  have closed : x.basin.closed = true ↔ Even x.significand := by
    rw [Nat.even_iff]
    exact decide_eq_true_iff
  rw [canonical.isNearest_iff positive, ← basin_low x positive, ← basin_high, Basin.number_le_iff,
    Basin.number_le_iff, Basin.number_inj, Basin.number_inj, ← closed, Basin.contains]
  split
  · next even => simp [even]
  · next odd =>
    rw [Bool.and_eq_true, decide_eq_true_eq, decide_eq_true_eq, imp_iff_not odd]
    omega

end basin

/-! ### The search -/

structure Basin.IsClosest (b : Basin) (grid n : Nat) : Prop where
  inside : b.contains n = true
  onGrid : grid ∣ n
  near : ∀ other, grid ∣ other → b.contains other = true →
    ((n : Int) - b.value).natAbs ≤ ((other : Int) - b.value).natAbs

section search

variable {b : Basin} {grid l m n : Nat}

theorem Basin.contains_between (first : b.contains l = true) (last : b.contains n = true)
    (after : l ≤ m) (before : m ≤ n) : b.contains m = true := by
  unfold contains at first last ⊢
  split at first <;> split at last <;> simp_all <;> omega

theorem multiple_cases (value : Nat) (onGrid : grid ∣ n) :
    n ≤ value / grid * grid ∨ value / grid * grid + grid ≤ n := by
  obtain ⟨factor, rfl⟩ := onGrid
  rcases Nat.lt_or_ge (value / grid) factor with more | less
  · right
    rw [← Nat.succ_mul, Nat.mul_comm]
    exact Nat.mul_le_mul_left grid more
  · left
    rw [Nat.mul_comm]
    exact Nat.mul_le_mul_right grid less

theorem Basin.onGrid?_eq_some (inside : b.contains b.value = true) (positive : 0 < grid)
    (found : b.onGrid? grid = some n) : b.IsClosest grid n := by
  have below := Nat.div_mul_le_self b.value grid
  have above := Nat.lt_div_mul_add positive (a := b.value)
  have cases (other : Nat) (onGrid : grid ∣ other) := multiple_cases b.value onGrid
  have divides : grid ∣ b.value / grid * grid := Nat.dvd_mul_left _ _
  unfold onGrid? at found
  dsimp only at found
  generalize b.value / grid * grid = least at below above cases divides found
  split at found
  · next chosen =>
    cases found
    rw [Bool.and_eq_true, Bool.or_eq_true, decide_eq_true_eq, Bool.not_eq_true'] at chosen
    refine ⟨chosen.1, divides, fun other onGrid member => ?_⟩
    rcases cases other onGrid with less | more
    · omega
    · have reached := contains_between inside member above.le more
      rcases chosen.2 with missed | nearer
      · rw [missed] at reached
        cases reached
      · omega
  · next passed =>
    split at found
    · next reached =>
      cases found
      rw [Bool.and_eq_true, Bool.or_eq_true, decide_eq_true_eq, reached] at passed
      refine ⟨reached, divides.add (Nat.dvd_refl grid), fun other onGrid member => ?_⟩
      rcases cases other onGrid with less | more
      · have also := contains_between member inside less below
        have farther : ¬ b.value - least < least + grid - b.value :=
          fun nearer => passed ⟨also, .inr nearer⟩
        omega
      · omega
    · cases found

theorem Basin.onGrid?_eq_none (inside : b.contains b.value = true) (positive : 0 < grid)
    (found : b.onGrid? grid = none) (onGrid : grid ∣ n) : b.contains n = false := by
  have below := Nat.div_mul_le_self b.value grid
  have above := Nat.lt_div_mul_add positive (a := b.value)
  unfold onGrid? at found
  dsimp only at found
  rw [Bool.eq_false_iff]
  intro member
  rcases multiple_cases b.value onGrid with less | more
  · have reached := contains_between member inside less below
    rw [reached] at found
    split at found
    · cases found
    · next passed =>
      split at found
      · cases found
      · next missed => simp_all
  · have reached := contains_between inside member above.le more
    rw [reached, if_pos rfl] at found
    split at found <;> cases found

/-- The search stops on some grid, and all coarser ones up to the last it looks at have no member
in the basin. -/
theorem Basin.exists_isClosest (inside : b.contains b.value = true) (places : Nat) :
    ∃ k ≤ places, b.IsClosest (10 ^ k) (b.roundest places) ∧
      ∀ l, k < l → l ≤ places → ∀ n, 10 ^ l ∣ n → b.contains n = false := by
  induction places with
  | zero =>
    refine ⟨0, Nat.le_refl 0, ⟨inside, Nat.one_dvd _, fun other _ _ => ?_⟩, fun l more most => ?_⟩
    · rw [roundest, Int.sub_self]
      exact Nat.zero_le _
    · exact absurd most (Nat.not_le.mpr more)
  | succ places ih =>
    have positive : 0 < 10 ^ (places + 1) := Nat.pow_pos (by decide)
    rw [roundest, Nat.pow_eq]
    cases found : b.onGrid? (10 ^ (places + 1)) with
    | some n =>
      refine ⟨places + 1, Nat.le_refl _, onGrid?_eq_some inside positive found, ?_⟩
      intro l more most
      exact absurd most (Nat.not_le.mpr more)
    | none =>
      obtain ⟨k, few, closest, coarser⟩ := ih
      refine ⟨k, Nat.le_succ_of_le few, closest, fun l more most n onGrid => ?_⟩
      rcases Nat.le_succ_iff.mp most with before | rfl
      · exact coarser l more before n onGrid
      · exact onGrid?_eq_none inside positive found onGrid

end search

/-! ### The decimal -/

section decimal

variable {x : Double} {a : Decimal}

/-- No decimal that reads back as the double has fewer digits, and none with as many places is nearer
to it. -/
structure IsShortest (x : Double) (a : Decimal) : Prop where
  readsBack : x.IsNearest a.value
  fewest : ∀ b : Decimal, x.IsNearest b.value →
    (toString a.digits.natAbs).length ≤ (toString b.digits.natAbs).length
  near : ∀ b : Decimal, x.IsNearest b.value → b.scale = a.scale →
    |a.value - x.value| ≤ |b.value - x.value|

theorem basin_bounds (positive : 0 < x.significand) :
    0 < x.basin.low ∧ x.basin.high ≤ 2 * x.basin.value := by
  simp only [basin]
  have unit : 0 < Nat.pow 2 (x.exponent - 2).toNat * Nat.pow 5 (-(x.exponent - 2)).toNat :=
    Nat.mul_pos (Nat.two_pow_pos _) (Nat.pow_pos (by decide))
  constructor
  · refine Nat.mul_pos ?_ unit
    split <;> omega
  · rw [← Nat.mul_assoc 2]
    exact Nat.mul_le_mul_right _ (by omega)

theorem Basin.bounds_of_contains {b : Basin} {n : Nat} (member : b.contains n = true) :
    b.low ≤ n ∧ n ≤ b.high := by
  unfold contains at member
  split at member <;> (simp at member; omega)

/-- Grids beyond the last one the search looks at are too coarse for any member. -/
theorem IsCanonical.exists_grid (canonical : x.IsCanonical) (positive : 0 < x.significand) :
    ∃ k : Nat, x.basin.IsClosest (10 ^ k) (x.basin.roundest (toString x.basin.value).length) ∧
      ∀ l, k < l → ∀ n, 10 ^ l ∣ n → x.basin.contains n = false := by
  obtain ⟨low, high⟩ := basin_bounds positive
  have self : x.IsNearest x.value := by
    rw [canonical.isNearest_iff positive]
    have above := x.halfAbove_pos
    have below := x.halfBelow_pos
    refine ⟨by linarith, by linarith, ?_⟩
    rintro (same | same) <;> linarith
  have inside := (canonical.contains_basin_iff positive _).mpr (x.basin_value ▸ self)
  obtain ⟨k, few, closest, coarser⟩ :=
    Basin.exists_isClosest inside (toString x.basin.value).length
  refine ⟨k, closest, fun l more n onGrid => ?_⟩
  rcases Nat.lt_or_ge (toString x.basin.value).length l with beyond | looked
  · rw [Bool.eq_false_iff]
    intro member
    obtain ⟨least, most⟩ := Basin.bounds_of_contains member
    have long : x.basin.value < 10 ^ (toString x.basin.value).length :=
      (Nat.length_repr_le_iff Nat.length_repr_pos).mp (Nat.le_refl _)
    have power : 10 ^ ((toString x.basin.value).length + 1) ≤ n :=
      (Nat.pow_le_pow_right (by decide) beyond).trans (Nat.le_of_dvd (by omega) onGrid)
    rw [pow_succ] at power
    omega
  · exact coarser l more looked n onGrid

/-- What reads back as the double is a member of the basin, if it has no more places than that. -/
theorem IsNearest.exists_member {b : Decimal} (positive : 0 < x.significand)
    (nearest : x.IsNearest b.value) (coarse : b.scale ≤ x.basin.scale) :
    ∃ n : Nat, 10 ^ (x.basin.scale - b.scale).toNat ∣ n ∧ x.basin.number n = b.value ∧
      x.basin.contains n = true := by
  have digits := (Decimal.value_pos_iff b).mp (nearest.positive positive)
  obtain ⟨digits, scale⟩ := b
  obtain ⟨n, rfl⟩ := Int.eq_ofNat_of_zero_le digits.le
  obtain ⟨places, apart⟩ := Int.le.dest coarse
  dsimp only at apart nearest ⊢
  have same : x.basin.number (n * 10 ^ places) = Decimal.value { digits := n, scale } := by
    rw [← Decimal.value_longer n scale places, apart, Basin.number, Decimal.value]
    push_cast
    rfl
  refine ⟨n * 10 ^ places, ?_, same, ?_⟩
  · rw [← apart, add_sub_cancel_left, Int.toNat_natCast]
    exact Nat.dvd_mul_left _ _
  · rwa [nearest.canonical.contains_basin_iff positive, same]

/-- The places that are left are those of a grid without a coarser one. -/
theorem IsCanonical.exists_closest (canonical : x.IsCanonical) (positive : 0 < x.significand) :
    ∃ (k n : Nat), x.shortest.value = x.basin.number n ∧ x.basin.IsClosest (10 ^ k) n ∧
      x.shortest.normalized.scale ≤ x.basin.scale - k ∧
      ∀ l, k < l → ∀ n, 10 ^ l ∣ n → x.basin.contains n = false := by
  obtain ⟨k, closest, coarser⟩ := canonical.exists_grid positive
  have member := (canonical.contains_basin_iff positive _).mp closest.inside
  have number : x.shortest.value = x.basin.number _ := rfl
  rw [← number] at member
  have digits := (Decimal.value_pos_iff _).mp (member.positive positive)
  have onGrid : ((10 ^ k : Nat) : Int) ∣ x.shortest.digits :=
    Int.natCast_dvd_natCast.mpr closest.onGrid
  push_cast at onGrid
  exact ⟨k, _, number, closest, Decimal.scale_normalized_le_of_dvd digits.ne' onGrid, coarser⟩

/-- No decimal that reads back as the double has fewer places. -/
theorem IsCanonical.scale_le (canonical : x.IsCanonical) (positive : 0 < x.significand)
    {b : Decimal} (nearest : x.IsNearest b.value) : x.shortest.normalized.scale ≤ b.scale := by
  obtain ⟨k, n, -, -, fine, coarser⟩ := canonical.exists_closest positive
  refine fine.trans ?_
  by_contra coarse
  obtain ⟨n, onGrid, -, member⟩ := nearest.exists_member positive (by omega)
  rw [coarser _ (by omega) n onGrid] at member
  cases member

/-- A number with fewer digits but no fewer places is smaller by a power of ten at least. That power
has a single digit, and the interval reaches over it. -/
theorem IsNearest.length_le {b : Decimal} (positive : 0 < x.significand)
    (first : x.IsNearest a.value) (second : x.IsNearest b.value)
    (fewest : ∀ c : Decimal, x.IsNearest c.value → a.scale ≤ c.scale) :
    (toString a.digits.natAbs).length ≤ (toString b.digits.natAbs).length := by
  have bounds {c : Decimal} (nearest : x.IsNearest c.value) :
      (10 : ℚ) ^ ((toString c.digits.natAbs).length + -c.scale - 1) ≤ c.value ∧
        c.value < 10 ^ ((toString c.digits.natAbs).length + -c.scale) := by
    have digits := (Decimal.value_pos_iff c).mp (nearest.positive positive)
    have bounds := length_repr_bounds (Int.natAbs_pos.mpr digits.ne') (-c.scale)
    rwa [Nat.cast_natAbs, abs_of_pos digits] at bounds
  have single : 0 < (toString b.digits.natAbs).length := Nat.length_repr_pos
  have places := fewest b second
  by_contra fewer
  have between : (10 : ℚ) ^ ((toString b.digits.natAbs).length + -b.scale) ≤
      10 ^ ((toString a.digits.natAbs).length + -a.scale - 1) :=
    zpow_le_zpow_right₀ (by norm_num) (by omega)
  have power := second.between positive first ((bounds second).2.le.trans between)
    (bounds first).1
  have less := fewest
    { digits := 1, scale := -((toString a.digits.natAbs).length + -a.scale - 1) }
    (by rwa [Decimal.value, Int.cast_one, one_mul, Int.neg_neg])
  dsimp only at less
  omega

theorem normalized_shortest_zero : zero.shortest.normalized = { digits := 0, scale := 0 } :=
  if_pos (by decide +kernel)

theorem isShortest_zero : zero.IsShortest { digits := 0, scale := 0 } := by
  have none : Decimal.value { digits := 0, scale := 0 } = 0 :=
    (Decimal.value_eq_zero_iff _).mpr rfl
  refine ⟨?_, fun b _ => Nat.length_repr_pos, fun b _ _ => ?_⟩
  · rw [none, isNearest_iff_of_small (le_refl 0) (zpow_pos two_pos _)]
  · rw [none, value_zero, sub_self, abs_zero]
    exact abs_nonneg _

theorem isShortest_shortest (canonical : x.IsCanonical) :
    x.IsShortest x.shortest.normalized := by
  rcases Nat.eq_zero_or_pos x.significand with none | positive
  · rw [canonical.eq_zero none, normalized_shortest_zero]
    exact isShortest_zero
  obtain ⟨k, n, number, closest, fine, -⟩ := canonical.exists_closest positive
  have member := (canonical.contains_basin_iff positive n).mp closest.inside
  have readsBack : x.IsNearest x.shortest.normalized.value := by
    rwa [Decimal.value_normalized, number]
  refine ⟨readsBack, fun b nearest => ?_, fun b nearest same => ?_⟩
  · exact readsBack.length_le positive nearest fun c => canonical.scale_le positive
  · obtain ⟨m, onGrid, value, inside⟩ := nearest.exists_member positive (by omega)
    have near := closest.near m ((Nat.pow_dvd_pow 10 (by omega)).trans onGrid) inside
    rw [Decimal.value_normalized, number, ← value, ← x.basin_value, Basin.abs_number_sub,
      Basin.abs_number_sub]
    gcongr

end decimal

end Double

end Primer
