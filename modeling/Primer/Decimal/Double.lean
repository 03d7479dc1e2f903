import Primer.Decimal.Text

/-!
Double-precision numbers, and which decimals survive the way through one: a decimal is shown as
text, the text is read as the nearest double, and the shortest text of this double is read as a
decimal again.
-/

set_option autoImplicit false

namespace Primer

open Number

/-- The number `significand * 2 ^ exponent`. -/
structure Double where
  significand : Nat
  exponent : Int
  deriving Repr, DecidableEq

namespace Double

def precision : Nat := 53

def leastExponent : Int := -1074

def greatestExponent : Int := 971

def zero : Double :=
  { significand := 0, exponent := leastExponent }

/-- The exponent of the binade of `numerator / denominator`: the greatest `e` such that `2 ^ e` is
not above it. -/
def binade (numerator denominator : Nat) : Int :=
  let e := (numerator.log2 : Int) - denominator.log2
  if denominator * Nat.pow 2 e.toNat ≤ numerator * Nat.pow 2 (-e).toNat then e else e - 1

/-- The double nearest to a positive quotient, ties to the even significand; none if it is too
large. -/
def nearest? (numerator denominator : Nat) : Option Double :=
  let exponent := max (binade numerator denominator - (precision - 1 : Nat)) leastExponent
  let numerator := numerator * Nat.pow 2 (-exponent).toNat
  let denominator := denominator * Nat.pow 2 exponent.toNat
  let significand := (divideHalfEven numerator denominator).toNat
  let (significand, exponent) :=
    if significand = Nat.pow 2 precision then (Nat.pow 2 (precision - 1), exponent + 1)
    else (significand, exponent)
  if exponent > greatestExponent then none else some { significand, exponent }

/-! ### From text -/

/-- Numbers with more digits before their point are infinite. -/
def mostWholeDigits : Int := 309

/-- Numbers with more zeros behind their point are zero. -/
def leastWholeDigits : Int := -324

/-- The double nearest to `mantissa * 10 ^ exponent`, none for infinity. -/
def ofScientific (mantissa : Nat) (exponent : Int) : Option Double :=
  let wholeDigits := (toString mantissa).length + exponent
  if mantissa = 0 ∨ wholeDigits < leastWholeDigits then some zero
  else if wholeDigits > mostWholeDigits then none
  else nearest? (mantissa * Nat.pow 10 exponent.toNat) (Nat.pow 10 (-exponent).toNat)

structure Signed where
  negative : Bool
  /-- None for infinity. -/
  magnitude : Option Double
  deriving Repr, DecidableEq

def splitSign : List Char → Bool × List Char
  | '-' :: text => (true, text)
  | '+' :: text => (false, text)
  | text => (false, text)

/-- Digits with a point among them or next to them, and a power of ten behind. -/
def ofText? (text : List Char) : Option Signed := do
  let (negative, text) := splitSign text
  let base := text.takeWhile fun c => !isExponentMark c
  let whole := base.takeWhile (· ≠ '.')
  let fraction := (base.dropWhile (· ≠ '.')).drop 1
  let mantissa ← digits? (whole ++ fraction)
  let exponent ← match text.dropWhile fun c => !isExponentMark c with
    | [] => some 0
    | _ :: power => signed? digits? power
  some { negative, magnitude := ofScientific mantissa (exponent - fraction.length) }

/-! ### To text -/

/-- The numbers that round to a double, and the double itself, as multiples of one power of ten. -/
structure Basin where
  low : Nat
  value : Nat
  high : Nat
  closed : Bool
  scale : Int
  deriving Repr, DecidableEq

/-- The neighbour below a power of two is only half as far away as the one above, unless both are
subnormal. In quarters of the last place everything is whole. -/
def basin (x : Double) : Basin :=
  let exponent := x.exponent - 2
  let unit := Nat.pow 2 exponent.toNat * Nat.pow 5 (-exponent).toNat
  let least := Nat.pow 2 (precision - 1)
  let below := if x.significand = least ∧ leastExponent < x.exponent then 1 else 2
  { low := (4 * x.significand - below) * unit
    value := 4 * x.significand * unit
    high := (4 * x.significand + 2) * unit
    closed := x.significand % 2 = 0
    scale := max (-exponent) 0 }

def Basin.contains (b : Basin) (n : Nat) : Bool :=
  if b.closed then b.low ≤ n && n ≤ b.high else b.low < n && n < b.high

/-- The multiple of `grid` in the basin that is nearest to the value; of two equally near, the
larger. -/
def Basin.onGrid? (b : Basin) (grid : Nat) : Option Nat :=
  let below := b.value / grid * grid
  let above := below + grid
  if b.contains below && (!b.contains above || b.value - below < above - b.value) then some below
  else if b.contains above then some above
  else none

/-- The nearest member of the basin on the coarsest power of ten up to `10 ^ places`. -/
def Basin.roundest (b : Basin) : Nat → Nat
  | 0 => b.value
  | places + 1 => (b.onGrid? (Nat.pow 10 (places + 1))).getD (b.roundest places)

/-- The decimal with the fewest digits that reads back as the double. -/
def shortest (x : Double) : Decimal :=
  let b := x.basin
  { digits := b.roundest (toString b.value).length, scale := b.scale }

def text (negative : Bool) (x : Double) : String :=
  let a := x.shortest.normalized
  (if negative then "-" else "") ++ Decimal.positional a.digits.natAbs a.scale

end Double

/-- Whether the decimal survives the way through a double unchanged. -/
def Decimal.isDouble (a : Decimal) : Bool :=
  match Double.ofText? a.text.toList with
  | some { negative, magnitude := some x } =>
    (Decimal.ofText? (x.text negative).toList).any fun back => back.equal a
  | _ => false

end Primer
