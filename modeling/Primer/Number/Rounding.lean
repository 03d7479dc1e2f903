/-!
Division of integers to the nearest integer.
-/

set_option autoImplicit false

namespace Primer.Number

/-- Whether the truncated quotient is to move away from zero: the remainder is more than half the
divisor, or exactly half of it beside an odd quotient. -/
def roundsAway (quotient remainder denominator : Int) : Bool :=
  match compare (remainder.natAbs * 2) denominator.natAbs with
  | .gt => true
  | .lt => false
  | .eq => quotient % 2 ≠ 0

/-- The integer nearest to `numerator / denominator`; of two equally near, the even one. -/
def divideHalfEven (numerator denominator : Int) : Int :=
  let quotient := numerator.tdiv denominator
  let remainder := numerator.tmod denominator
  if remainder = 0 then quotient
  else if roundsAway quotient remainder denominator then
    if (numerator < 0) ≠ (denominator < 0) then quotient - 1 else quotient + 1
  else quotient

end Primer.Number
