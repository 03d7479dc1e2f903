/-!
Integers that have a place in a word of a given width.
-/

set_option autoImplicit false

namespace Primer.Number

/-- Whether `value` has a place in `bits` bits, one of them for the sign. -/
def fitsSigned (bits : Nat) (value : Int) : Bool :=
  let limit : Int := Nat.pow 2 (bits - 1)
  0 ≤ limit + value && value < limit

def fits32 : Int → Bool := fitsSigned 32

def fits64 : Int → Bool := fitsSigned 64

def fits128 : Int → Bool := fitsSigned 128

def fitsNat64 (value : Nat) : Bool :=
  value < Nat.pow 2 64

end Primer.Number
