import Mathlib.Algebra.Ring.Int.Defs
import Mathlib.Data.Nat.Size
import Primer.Number.Power

/-! Repeated squaring computes powers.

Each round takes the last bit off the exponent and keeps what is left to be computed. So the loop
ends, after a round for every bit of the exponent, and it ends with the power.
-/

set_option autoImplicit false

namespace Primer.Number

/-- What is held between two rounds. -/
structure Squaring where
  result : Int
  base : Int
  exponent : Nat

namespace Squaring

def outcome (state : Squaring) : Int :=
  squaring state.result state.base state.exponent

/-- The power that is left to be computed, times what has been multiplied so far. -/
def target (state : Squaring) : Int :=
  state.result * state.base ^ state.exponent

def round (state : Squaring) : Squaring where
  result := if state.exponent % 2 = 1 then state.result * state.base else state.result
  base := if state.exponent / 2 = 0 then state.base else state.base * state.base
  exponent := state.exponent / 2

/-- Exactly so many rounds from the first state to the last, none of them without an exponent, and
no exponent behind them. -/
inductive Runs : Nat → Squaring → Squaring → Prop where
  | done {state : Squaring} : state.exponent = 0 → Runs 0 state state
  | next {rounds : Nat} {state last : Squaring} : state.exponent ≠ 0 →
    Runs rounds state.round last → Runs (rounds + 1) state last

variable {state last : Squaring} {rounds : Nat}

/-! ### One round -/

theorem outcome_done (done : state.exponent = 0) : state.outcome = state.result := by
  rw [outcome, squaring, if_pos done]

theorem outcome_round (more : state.exponent ≠ 0) : state.round.outcome = state.outcome := by
  have unfolded : state.outcome =
      if state.exponent / 2 = 0 then state.round.result
      else squaring state.round.result (state.base * state.base) (state.exponent / 2) := by
    rw [outcome, squaring, if_neg more]
    rfl
  rw [unfolded]
  -- With no bit left the loop returns the result without going round again; it would be the same.
  split
  · next gone => exact outcome_done gone
  · next remains => rw [outcome, round, if_neg remains]

/-- The bit that is taken off moves one factor to the result, or none. -/
theorem result_round (state : Squaring) :
    state.round.result = state.result * state.base ^ (state.exponent % 2) := by
  rcases Nat.mod_two_eq_zero_or_one state.exponent with even | odd
  · rw [round, even, if_neg Nat.zero_ne_one, pow_zero, mul_one]
  · rw [round, odd, if_pos rfl, pow_one]

/-- The base counts for its square, although it is not squared when no bit remains: then no factor
of it is left. -/
theorem base_pow_round (state : Squaring) :
    state.round.base ^ (state.exponent / 2) = state.base ^ (2 * (state.exponent / 2)) := by
  by_cases gone : state.exponent / 2 = 0
  · rw [gone, Nat.mul_zero, pow_zero, pow_zero]
  · rw [round, if_neg gone, pow_mul, pow_two]

theorem target_round (state : Squaring) : state.round.target = state.target :=
  calc
    state.round.target
      = state.result * state.base ^ (state.exponent % 2) *
          state.base ^ (2 * (state.exponent / 2)) := by
        rw [← result_round, ← base_pow_round, target]
        rfl
    _ = state.result * state.base ^ (state.exponent % 2 + 2 * (state.exponent / 2)) := by
        rw [mul_assoc, pow_add]
    _ = state.target := by rw [Nat.mod_add_div, target]

/-! ### All rounds -/

theorem size_eq_size_half {exponent : Nat} (more : exponent ≠ 0) :
    exponent.size = (exponent / 2).size + 1 := by
  have bits := Nat.bit_bodd_div2 exponent
  have size := Nat.size_bit (bits.symm ▸ more)
  rwa [bits, Nat.div2_val] at size

/-- The loop has a round for every bit of the exponent. -/
theorem exists_runs (state : Squaring) : ∃ last, Runs state.exponent.size state last := by
  induction exponent : state.exponent using Nat.strongRecOn generalizing state with
  | ind bits ih =>
    subst exponent
    by_cases done : state.exponent = 0
    · rw [done]
      exact ⟨state, .done done⟩
    · have less : state.exponent / 2 < state.exponent :=
        Nat.div_lt_self (Nat.pos_of_ne_zero done) Nat.one_lt_two
      obtain ⟨last, runs⟩ := ih _ less state.round rfl
      rw [size_eq_size_half done]
      exact ⟨last, .next done runs⟩

theorem Runs.outcome_eq (runs : Runs rounds state last) : state.outcome = last.result := by
  induction runs with
  | done done => exact outcome_done done
  | next more _ ih => rw [← outcome_round more, ih]

theorem Runs.result_eq (runs : Runs rounds state last) : last.result = state.target := by
  induction runs with
  | done done => rw [target, done, pow_zero, mul_one]
  | next _ _ ih => rw [ih, target_round]

theorem outcome_eq (state : Squaring) : state.outcome = state.target := by
  obtain ⟨last, runs⟩ := state.exists_runs
  rw [runs.outcome_eq, runs.result_eq]

end Squaring

theorem squaring_eq (result base : Int) (exponent : Nat) :
    squaring result base exponent = result * base ^ exponent :=
  Squaring.outcome_eq { result, base, exponent }

theorem power_eq (base : Int) (exponent : Nat) : power base exponent = base ^ exponent := by
  rw [power, squaring_eq, one_mul]

theorem tenTo_eq (exponent : Nat) : tenTo exponent = 10 ^ exponent :=
  power_eq 10 exponent

end Primer.Number
