/-!
Integers read from text.
-/

set_option autoImplicit false

namespace Primer.Number

def digitValue (c : Char) : Nat :=
  c.toNat - '0'.toNat

def ofDigits (digits : List Char) : Nat :=
  digits.foldl (fun value c => 10 * value + digitValue c) 0

def digits? (text : List Char) : Option Nat :=
  if text ≠ [] ∧ text.all Char.isDigit then some (ofDigits text) else none

/-- Digits among which underscores may stand anywhere but in front. -/
def natural? (text : List Char) : Option Nat :=
  match text with
  | [] | '_' :: _ => none
  | _ =>
    if text.all fun c => c.isDigit || c == '_' then some (ofDigits (text.filter Char.isDigit))
    else none

def signed? (magnitude? : List Char → Option Nat) : List Char → Option Int
  | '-' :: rest => (magnitude? rest).map fun n => -(n : Int)
  | '+' :: rest => (magnitude? rest).map Int.ofNat
  | text => (magnitude? text).map Int.ofNat

def isExponentMark (c : Char) : Bool :=
  c == 'e' || c == 'E'

def integer? (text : List Char) : Option Int :=
  signed? natural? text

end Primer.Number
