import Primer.Number.Power
import Primer.Number.Rounding

/-!
Exact decimal numbers. A number is kept with the scale it was written or computed at, so `1.5` and
`1.50` are two forms of one number; comparison sees only the number.
-/

set_option autoImplicit false

namespace Primer

/-- The number `digits * 10 ^ (-scale)`. -/
structure Decimal where
  digits : Int
  scale : Int
  deriving Repr, DecidableEq

namespace Decimal

open Number

def extend (a : Decimal) (places : Nat) : Decimal :=
  { digits := a.digits * tenTo places, scale := a.scale + places }

def aligned (a b : Decimal) : Int × Int :=
  (a.digits * tenTo (b.scale - a.scale).toNat, b.digits * tenTo (a.scale - b.scale).toNat)

def order (a b : Decimal) : Ordering :=
  let (x, y) := aligned a b
  compare x y

/-- Whether two forms are one number. The signs come first, so that a zero is never brought to the
scale of another number. -/
def equal (a b : Decimal) : Bool :=
  a.digits.sign == b.digits.sign && (a.digits == 0 || order a b == .eq)

/-- Most places that a sum with zero takes over from the zero. -/
def placesFromZero : Nat := 15

def addZero (a : Decimal) (zeroScale : Int) : Decimal :=
  a.extend (min (zeroScale - a.scale).toNat placesFromZero)

def add (a b : Decimal) : Decimal :=
  if b.digits = 0 then a.addZero b.scale
  else if a.digits = 0 then b.addZero a.scale
  else
    let (x, y) := aligned a b
    { digits := x + y, scale := max a.scale b.scale }

def sub (a b : Decimal) : Decimal :=
  let (x, y) := aligned a b
  { digits := x - y, scale := max a.scale b.scale }

def stripZeros (digits scale : Int) : Decimal :=
  if h : digits ≠ 0 ∧ digits % 10 = 0 then stripZeros (digits / 10) (scale - 1)
  else { digits, scale }
termination_by digits.natAbs
decreasing_by omega

/-- The form with the fewest digits; every zero becomes `0` at scale zero. -/
def normalized (a : Decimal) : Decimal :=
  if a.digits = 0 then { digits := 0, scale := 0 } else stripZeros a.digits a.scale

/-- Largest scale at which a product recognises a factor one. -/
def largestUnitScale : Nat := 38

def isUnit (a : Decimal) : Bool :=
  0 ≤ a.scale && a.scale ≤ largestUnitScale && a.digits == tenTo a.scale.toNat

/-- A product; beside a recognised one it is the other factor in its shortest form. -/
def mul (a b : Decimal) : Decimal :=
  if a.isUnit then b.normalized
  else if b.isUnit then a.normalized
  else { digits := a.digits * b.digits, scale := a.scale + b.scale }

/-- The quotient at the scale of the dividend, rounded half to even; none for a zero divisor. -/
def divide? (dividend divisor : Decimal) : Option Decimal :=
  if divisor.digits = 0 then none
  else
    let numerator := dividend.digits * tenTo divisor.scale.toNat
    let denominator := divisor.digits * tenTo (-divisor.scale).toNat
    some { digits := divideHalfEven numerator denominator, scale := dividend.scale }

end Decimal

end Primer
