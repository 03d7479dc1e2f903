import Primer.Proofs.Decimal.Division
import Primer.Proofs.Number.Power

/-! Integers raised to integers.

The power is computed for the exponents that have a place in 64 bits, whatever the base. All others
are refused, each for its own reason.
-/

set_option autoImplicit false

namespace Primer.Number

theorem fitsNat64_iff (value : Nat) : fitsNat64 value ↔ value < 2 ^ 64 := by
  rw [fitsNat64, decide_eq_true_iff]
  rfl

theorem raise_of_neg {exponent : Int} (negative : exponent < 0) (base : Int) :
    raise base exponent = .error (.negativeExponent exponent) := by
  rw [raise, if_pos negative]

theorem raise_of_le {exponent : Int} (large : 2 ^ 64 ≤ exponent) (base : Int) :
    raise base exponent = .error (.exponentTooLarge exponent) := by
  have positive : ¬ exponent < 0 := by omega
  have outside : ¬ fitsNat64 exponent.toNat := by
    rw [fitsNat64_iff]
    omega
  rw [raise, if_neg positive, if_neg outside]

theorem raise_natCast {exponent : Nat} (small : exponent < 2 ^ 64) (base : Int) :
    raise base exponent = .ok (base ^ exponent) := by
  have positive : ¬ (exponent : Int) < 0 := by omega
  have inside : fitsNat64 exponent := (fitsNat64_iff exponent).mpr small
  rw [raise, if_neg positive, Int.toNat_natCast, if_pos inside, power_eq]

inductive Raised (base : Int) : Int → Except RunError Int → Prop where
  | negative {exponent : Int} : exponent < 0 →
    Raised base exponent (.error (.negativeExponent exponent))
  | tooLarge {exponent : Int} : 2 ^ 64 ≤ exponent →
    Raised base exponent (.error (.exponentTooLarge exponent))
  | computed {exponent : Nat} : exponent < 2 ^ 64 → Raised base exponent (.ok (base ^ exponent))

/-- There is no fourth kind of exponent. -/
theorem raised_raise (base exponent : Int) : Raised base exponent (raise base exponent) := by
  rcases Int.lt_or_le exponent 0 with negative | positive
  · rw [raise_of_neg negative]
    exact .negative negative
  · obtain ⟨exponent, rfl⟩ := Int.eq_ofNat_of_zero_le positive
    rcases Nat.lt_or_ge exponent (2 ^ 64) with small | large
    · rw [raise_natCast small]
      exact .computed small
    · have large : (2 ^ 64 : Int) ≤ exponent := by exact_mod_cast large
      rw [raise_of_le large]
      exact .tooLarge large

theorem raise_eq_iff {base exponent : Int} {outcome : Except RunError Int} :
    raise base exponent = outcome ↔ Raised base exponent outcome := by
  constructor
  · rintro rfl
    exact raised_raise base exponent
  · intro raised
    cases raised with
    | negative negative => exact raise_of_neg negative base
    | tooLarge large => exact raise_of_le large base
    | computed small => exact raise_natCast small base

/-- What a program may rely on when it raises one integer to another. -/
structure PowerLaws : Prop where
  negative (base exponent shown : Int) :
    raise base exponent = .error (.negativeExponent shown) ↔ exponent < 0 ∧ shown = exponent
  tooLarge (base exponent shown : Int) :
    raise base exponent = .error (.exponentTooLarge shown) ↔ 2 ^ 64 ≤ exponent ∧ shown = exponent
  computed (base exponent value : Int) :
    raise base exponent = .ok value ↔
      ∃ e : Nat, (e : Int) = exponent ∧ e < 2 ^ 64 ∧ value = base ^ e
  /-- The loop ends after a round for every bit of the exponent, and it ends with the power. -/
  ends (base : Int) (exponent : Nat) : ∃ last,
    Squaring.Runs exponent.size { result := 1, base, exponent } last ∧
      last.result = power base exponent ∧ power base exponent = base ^ exponent
  tens (exponent : Nat) : tenTo exponent = power 10 exponent ∧ tenTo exponent = 10 ^ exponent
  division (dividend divisor : Decimal) : dividend.divide divisor =
    if divisor.digits = 0 then .error .divisionByZero
    else .ok
      { digits := divideHalfEven (dividend.digits * 10 ^ divisor.scale.toNat)
          (divisor.digits * 10 ^ (-divisor.scale).toNat)
        scale := dividend.scale }

theorem power_lawful : PowerLaws where
  negative base exponent shown := by
    rw [raise_eq_iff]
    constructor
    · intro raised
      cases raised with | negative negative => exact ⟨negative, rfl⟩
    · rintro ⟨negative, rfl⟩
      exact .negative negative
  tooLarge base exponent shown := by
    rw [raise_eq_iff]
    constructor
    · intro raised
      cases raised with | tooLarge large => exact ⟨large, rfl⟩
    · rintro ⟨large, rfl⟩
      exact .tooLarge large
  computed base exponent value := by
    rw [raise_eq_iff]
    constructor
    · intro raised
      cases raised with | computed small => exact ⟨_, rfl, small, rfl⟩
    · rintro ⟨e, rfl, small, rfl⟩
      exact .computed small
  ends base exponent := by
    obtain ⟨last, runs⟩ := Squaring.exists_runs { result := 1, base, exponent }
    exact ⟨last, runs, runs.outcome_eq.symm, power_eq base exponent⟩
  tens exponent := ⟨rfl, tenTo_eq exponent⟩
  division dividend divisor := by
    by_cases zero : divisor.digits = 0
    · rw [Decimal.divide_of_digits_eq_zero zero, if_pos zero]
    · rw [Decimal.divide_of_digits_ne_zero zero, if_neg zero, tenTo_eq, tenTo_eq]

/-- Without a factor even the power of zero is one. -/
example : raise 0 0 = .ok 1 := by
  with_unfolding_all rfl

end Primer.Number
