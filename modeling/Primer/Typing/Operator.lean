import Primer.Diagnostic.StaticError
import Primer.Tree.Operator

/-!
Types of operands and results.
-/

set_option autoImplicit false

namespace Primer

def Ty.require (target actual : Ty) : Except StaticError Unit :=
  if target.accepts actual then .ok () else .error (.typeMismatch target actual)

def Operator.resultType? (operator : Operator) (left right : Ty) : Option Ty :=
  match operator with
  | and | or => if left = .boolean ∧ right = .boolean then some .boolean else none
  | less | greater | equal | notEqual =>
    if Ty.accepts .comparable left ∧ left = right then some .boolean else none
  | add =>
    if left = .string ∨ right = .string then some .string
    else if left = right ∧ (left = .integer ∨ left = .decimal) then some left
    else none
  | subtract | multiply | divide =>
    if left = right ∧ (left = .integer ∨ left = .decimal) then some left else none
  | power => if left = .integer ∧ right = .integer then some .integer else none

def Operator.resultType (operator : Operator) (left right : Ty) : Except StaticError Ty :=
  match operator.resultType? left right with
  | some type => .ok type
  | none => .error (.badOperands operator left right)

end Primer
