import Primer.Decimal.Basic
import Primer.Number.Numeral
import Primer.Number.Range

/-!
Decimal numbers as text: how they are read from source and how they are shown.
-/

set_option autoImplicit false

namespace Primer.Decimal

open Number

def exponent? : List Char → Option Int
  | [] => some 0
  | _ :: text => (signed? digits? text).filter fits128

/-- The digits of a number without exponent, and how many of them follow its point. A point at the
very end counts as absent. -/
def splitPoint (text : List Char) : List Char × Nat :=
  let whole := text.takeWhile (· ≠ '.')
  match text.dropWhile (· ≠ '.') with
  | [] | [_] => (whole, 0)
  | _ :: fraction => (whole ++ fraction, (fraction.filter (· ≠ '_')).length)

def ofText? (text : List Char) : Option Decimal := do
  let base := text.takeWhile fun c => !isExponentMark c
  let exponent ← exponent? (text.dropWhile fun c => !isExponentMark c)
  let (digits, places) := splitPoint base
  let scale := (places : Int) - exponent
  let digits ← integer? digits
  if fits64 scale then some { digits, scale } else none

/-- Most zeros between the point and the first digit in positional form. -/
def leadingZeros : Nat := 5

/-- Most zeros behind the digits of a whole number in positional form. -/
def trailingZeros : Nat := 15

def zeros (n : Nat) : String :=
  "".pushn '0' n

def withPoint (digits : String) (places : Nat) : String :=
  if places < digits.length then
    let whole := digits.length - places
    String.ofList (digits.toList.take whole) ++ "." ++ String.ofList (digits.toList.drop whole)
  else "0." ++ zeros (places - digits.length) ++ digits

def scientific (digits : String) (exponent : Int) : String :=
  let fraction := String.ofList (digits.toList.drop 1)
  String.ofList (digits.toList.take 1) ++ (if fraction.isEmpty then "" else "." ++ fraction) ++
    "E" ++ toString exponent

def positional (magnitude : Nat) (scale : Int) : String :=
  if scale ≤ 0 then toString magnitude ++ zeros (-scale).toNat
  else withPoint (toString magnitude) scale.toNat

/-- A number that is not negative: positional as long as few zeros are needed to fill it up. -/
def magnitudeText (magnitude : Nat) (scale : Int) : String :=
  let digits := toString magnitude
  if scale > 0 ∧ scale - digits.length > leadingZeros then
    scientific digits (digits.length - scale - 1)
  else if -scale > trailingZeros then digits ++ "e+" ++ toString (-scale)
  else positional magnitude scale

/-- Every zero is shown as `0`, whatever its scale. -/
def text (a : Decimal) : String :=
  let scale := if a.digits = 0 then 0 else a.scale
  (if a.digits < 0 then "-" else "") ++ magnitudeText a.digits.natAbs scale

end Primer.Decimal
