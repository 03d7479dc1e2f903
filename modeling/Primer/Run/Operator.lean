import Primer.Diagnostic.RunError
import Primer.Number.Range
import Primer.Run.Value

/-!
Operators applied to values.
-/

set_option autoImplicit false

namespace Primer

def Number.raise (base exponent : Int) : Except RunError Int :=
  if exponent < 0 then .error (.negativeExponent exponent)
  else if fitsNat64 exponent.toNat then .ok (power base exponent.toNat)
  else .error (.exponentTooLarge exponent)

def Number.divide (dividend divisor : Int) : Except RunError Int :=
  if divisor = 0 then .error .divisionByZero else .ok (dividend.tdiv divisor)

def Decimal.divide (dividend divisor : Decimal) : Except RunError Decimal :=
  match dividend.divide? divisor with
  | some quotient => .ok quotient
  | none => .error .divisionByZero

namespace Operator

open Value

def refuse (operator : Operator) (left right : Value) : Except RunError Value :=
  .error (.badOperands operator left.kind right.kind)

def ordered (operator : Operator) (wanted : Ordering) (left right : Value) :
    Except RunError Value :=
  match left.order? right with
  | some order => .ok (boolean (order == wanted))
  | none => operator.refuse left right

/-- A string on either side makes an addition a concatenation of texts. -/
def sum (left right : Value) : Except RunError Value :=
  match left, right with
  | string _, _ | _, string _ => .ok (string (left.text ++ right.text))
  | integer a, integer b => .ok (integer (a + b))
  | decimal a, decimal b => .ok (decimal (a.add b))
  | _, _ => refuse .add left right

def apply (operator : Operator) (left right : Value) : Except RunError Value :=
  match operator, left, right with
  | .and, boolean a, boolean b => .ok (boolean (a && b))
  | .or, boolean a, boolean b => .ok (boolean (a || b))
  | .equal, _, _ => .ok (boolean (left.equal right))
  | .notEqual, _, _ => .ok (boolean (!left.equal right))
  | .less, _, _ => ordered .less .lt left right
  | .greater, _, _ => ordered .greater .gt left right
  | .add, _, _ => sum left right
  | .subtract, integer a, integer b => .ok (integer (a - b))
  | .subtract, decimal a, decimal b => .ok (decimal (a.sub b))
  | .multiply, integer a, integer b => .ok (integer (a * b))
  | .multiply, decimal a, decimal b => .ok (decimal (a.mul b))
  | .divide, integer a, integer b => integer <$> Number.divide a b
  | .divide, decimal a, decimal b => decimal <$> a.divide b
  | .power, integer a, integer b => integer <$> Number.raise a b
  | _, _, _ => operator.refuse left right

end Operator

end Primer
