import Primer.Proofs.Decimal.Reading
import Primer.Proofs.Decimal.Shortest
import Primer.Typing.Expression

/-! Which decimals double precision keeps.

A decimal goes to a double and back by way of two texts. What counts in the end is the number alone:
neither its sign nor the form it is written in, which the texts depend on, has a part in it.
-/

set_option autoImplicit false

namespace Primer

open Number

namespace Double

/-- The number, without its sign, is what the shortest decimal of its nearest double says. -/
def Keeps (number : ℚ) : Prop :=
  ∃ x : Double, x.IsNearest |number| ∧ x.exponent ≤ greatestExponent ∧ x.shortest.value = |number|

theorem keeps_neg (number : ℚ) : Keeps (-number) ↔ Keeps number := by
  unfold Keeps
  rw [abs_neg]

/-- Of the decimals that round to the same double, one that is kept has the fewest digits. -/
theorem Keeps.exists_isShortest {number : ℚ} (keeps : Keeps number) :
    ∃ (x : Double) (a : Decimal), x.IsNearest |number| ∧ x.IsShortest a ∧ a.value = |number| := by
  obtain ⟨x, nearest, -, same⟩ := keeps
  refine ⟨x, x.shortest.normalized, nearest, isShortest_shortest nearest.canonical, ?_⟩
  rw [Decimal.value_normalized, same]

theorem value_shortest_nonneg (x : Double) : 0 ≤ x.shortest.value :=
  mul_nonneg (Nat.cast_nonneg _) (zpow_pos (by norm_num) _).le

theorem scale_shortest_le {x : Double} (canonical : x.IsCanonical) :
    x.shortest.normalized.scale ≤ 1076 := by
  have least := canonical.least
  have scale : x.shortest.scale ≤ 1076 := by
    simp only [shortest, basin, leastExponent] at least ⊢
    omega
  rcases eq_or_ne x.shortest.digits 0 with none | some
  · rw [Decimal.normalized, if_pos none]
    decide
  · exact (Decimal.scale_normalized_le some).trans scale

/-- What is shown for a double is read as its shortest decimal again. -/
theorem ofText?_text {x : Double} (canonical : x.IsCanonical) (negative : Bool) :
    ∃ back, Decimal.ofText? (x.text negative).toList = some back ∧
      back.value = if negative then -x.shortest.value else x.shortest.value := by
  have scale := scale_shortest_le canonical
  have value := (Decimal.value_natAbs x.shortest.normalized).trans
    (congrArg _ (Decimal.value_normalized _))
  rw [abs_of_nonneg x.value_shortest_nonneg] at value
  have shown : (x.text negative).toList = withSign negative
      (Decimal.positional x.shortest.normalized.digits.natAbs x.shortest.normalized.scale).toList := by
    unfold text
    cases negative <;> simp [withSign]
  generalize x.shortest.normalized = a at scale value shown
  have few : a.scale.toNat < Nat.pow 2 63 := Nat.lt_of_le_of_lt (by omega : _ ≤ 1076) (by decide)
  have read := Decimal.ofText?_withSign
    (Decimal.isPositional_positional a.digits.natAbs a.scale) negative
  rw [if_pos (fits64_of_lt few), ← shown] at read
  refine ⟨_, read, ?_⟩
  have same := Decimal.positional_eq a.digits.natAbs a.scale
  rw [Decimal.value, Int.cast_natCast] at value
  rw [value] at same
  rw [← same]
  cases negative <;> simp [Decimal.value]

end Double

namespace Decimal

/-- The text of a decimal is read as the double nearest to it. -/
theorem exists_numeral (a : Decimal) :
    ∃ (mantissa : Nat) (exponent : Int), mantissa * 10 ^ exponent = |a.value| ∧
      Double.ofText? a.text.toList =
        some ⟨decide (a.digits < 0), Double.ofScientific mantissa exponent⟩ := by
  unfold text
  dsimp only
  generalize shown : (if a.digits = 0 then 0 else a.scale) = scale
  obtain ⟨mantissa, exponent, numeral, spelled⟩ := isNumeral_magnitudeText a.digits.natAbs scale
  refine ⟨mantissa, exponent, ?_, ?_⟩
  · rw [spelled, ← value_natAbs, value]
    split at shown
    · next zero => simp [zero]
    · rw [shown]
      rfl
  · rw [← Double.ofText?_withSign numeral]
    split
    · next negative => simp [withSign, negative]
    · next nonneg => simp [withSign, nonneg]

/-- A decimal counts as a double if double precision keeps its number. -/
theorem isDouble_iff (a : Decimal) : a.isDouble = true ↔ Double.Keeps a.value := by
  obtain ⟨mantissa, exponent, spelled, read⟩ := exists_numeral a
  have nearest (x : Double) := Double.ofScientific_eq_some_iff mantissa exponent x
  simp only [spelled] at nearest
  unfold isDouble
  rw [read]
  cases found : Double.ofScientific mantissa exponent with
  | none =>
    refine iff_of_false Bool.false_ne_true ?_
    rintro ⟨x, isNearest, small, -⟩
    rw [(nearest x).mpr ⟨isNearest, small⟩] at found
    cases found
  | some x =>
    obtain ⟨isNearest, small⟩ := (nearest x).mp found
    obtain ⟨back, again, value⟩ := Double.ofText?_text isNearest.canonical (a.digits < 0)
    have keeps : Double.Keeps a.value ↔ x.shortest.value = |a.value| := by
      refine ⟨?_, fun same => ⟨x, isNearest, small, same⟩⟩
      rintro ⟨y, isNearest, small, same⟩
      rw [(nearest y).mpr ⟨isNearest, small⟩] at found
      cases found
      exact same
    dsimp only
    rw [again, Option.any_some, equal_iff, value, keeps, abs_value]
    simp only [decide_eq_true_eq]
    split
    · exact neg_eq_iff_eq_neg
    · exact Iff.rfl

/-- One tenth is kept, although it is no double itself. A second decimal near the same double is
not. -/
example : isDouble { digits := 1, scale := 1 } = true ∧
    isDouble { digits := 10000000000000001, scale := 17 } = false := by
  decide +kernel

end Decimal

namespace Literal

theorem check_decimal (a : Decimal) :
    (Double.Keeps a.value ∧ check (.decimal a) = .ok .decimal) ∨
      (¬ Double.Keeps a.value ∧ check (.decimal a) = .error (.literalOutOfRange a.text)) := by
  rw [← a.isDouble_iff]
  unfold check
  dsimp only
  split
  · next isDouble => exact .inl ⟨isDouble, rfl⟩
  · next other => exact .inr ⟨other, rfl⟩

/-- Zeros at the end and a sign make no difference to whether a literal is in range. -/
theorem check_decimal_alike (digits scale : Int) (places : Nat) :
    let number : ℚ := digits * 10 ^ (-scale)
    let forms : List Decimal := [{ digits, scale },
      { digits := digits * 10 ^ places, scale := scale + places }, { digits := -digits, scale }]
    (Double.Keeps number ∧ ∀ a ∈ forms, check (.decimal a) = .ok .decimal) ∨
      (¬ Double.Keeps number ∧
        ∀ a ∈ forms, check (.decimal a) = .error (.literalOutOfRange a.text)) := by
  intro number forms
  have same : ∀ a ∈ forms, Double.Keeps a.value ↔ Double.Keeps number := by
    simp only [forms, List.forall_mem_cons, Decimal.value_longer, Decimal.value_neg,
      Double.keeps_neg]
    exact ⟨Iff.rfl, Iff.rfl, Iff.rfl, by simp⟩
  by_cases keeps : Double.Keeps number
  · refine .inl ⟨keeps, fun a member => ?_⟩
    exact (check_decimal a).resolve_right (fun other => other.1 ((same a member).mpr keeps)) |>.2
  · refine .inr ⟨keeps, fun a member => ?_⟩
    exact (check_decimal a).resolve_left (fun other => keeps ((same a member).mp other.1)) |>.2

end Literal

end Primer
