/-!
Powers of integers by repeated squaring.
-/

set_option autoImplicit false

namespace Primer.Number

/-- Multiplies `result` by `base ^ exponent`. The base is squared only while a bit of the exponent
is left. -/
def squaring (result base : Int) (exponent : Nat) : Int :=
  if exponent = 0 then result
  else
    let result := if exponent % 2 = 1 then result * base else result
    if exponent / 2 = 0 then result
    else squaring result (base * base) (exponent / 2)
termination_by exponent

def power (base : Int) (exponent : Nat) : Int :=
  squaring 1 base exponent

def tenTo (exponent : Nat) : Int :=
  power 10 exponent

end Primer.Number
