import Primer.Decimal.Double
import Primer.Decimal.Text
import Primer.Number.Range
import Primer.Scope.Basic
import Primer.Tree.Expr
import Primer.Typing.Operator

/-!
Typing of expressions. A typed expression is the given one with its types and bindings filled in;
what stood there before does not matter.
-/

set_option autoImplicit false

namespace Primer

abbrev Names := Environment Variable Signature

def Literal.check (value : Literal) : Except StaticError Ty :=
  match value with
  | .integer n =>
    if Number.fits32 n then .ok .integer else .error (.literalOutOfRange (toString n))
  | .decimal a => if a.isDouble then .ok .decimal else .error (.literalOutOfRange a.text)
  | value => .ok value.type

namespace Names

def findVariable (names : Names) (name : String) : Except StaticError Variable :=
  match names.getVariable? name with
  | some binding => .ok binding
  | none => .error (.unknownVariable name)

def findFunction (names : Names) (name : String) (arity : Nat) : Except StaticError Signature :=
  match names.getFunction? name arity with
  | some binding => .ok binding
  | none => .error (.unknownFunction name arity)

end Names

mutual

/-- The expression with everything filled in, and its type. A list has no type of its own. -/
def Expr.check (names : Names) : Expr → Except StaticError (Expr × Ty)
  | .literal value _ => do
    let type ← value.check
    return (.literal value type, type)
  | .group inner _ => do
    let (inner, type) ← inner.check names
    return (.group inner type, type)
  | .binary operator left right _ => do
    let (left, leftType) ← left.check names
    let (right, rightType) ← right.check names
    let type ← operator.resultType leftType rightType
    return (.binary operator left right type, type)
  | .named name _ _ => do
    let binding ← names.findVariable name
    if binding.isList then throw (.bareList name)
    return (.named name binding binding.type, binding.type)
  | .element name index _ _ => do
    let binding ← names.findVariable name
    if !binding.isList then throw (.notAList name)
    let (index, indexType) ← index.check names
    Ty.require .integer indexType
    return (.element name index binding binding.type, binding.type)
  | .call name arguments _ _ => do
    let binding ← names.findFunction name arguments.length
    let arguments ← Expr.checkArguments names arguments binding.parameterTypes
    return (.call name arguments binding binding.returnType, binding.returnType)
  | .list .. => throw .misplacedList

def Expr.checkArguments (names : Names) : List Expr → List Ty → Except StaticError (List Expr)
  | argument :: arguments, parameter :: parameters => do
    let (argument, actual) ← argument.check names
    parameter.require actual
    return argument :: (← Expr.checkArguments names arguments parameters)
  | arguments, _ => return arguments

end

/-- Elements of a list. The first one sets the type if none is given. -/
def Expr.checkElements (names : Names) (type : Option Ty) :
    List Expr → Except StaticError (List Expr × Option Ty)
  | [] => return ([], type)
  | first :: rest => do
    let (first, actual) ← first.check names
    if let some type := type then type.require actual
    let (rest, type) ← Expr.checkElements names (type.getD actual) rest
    return (first :: rest, type)

def Ty.resolve (name : String) : Except StaticError Ty :=
  match Ty.ofName? name with
  | some type => .ok type
  | none => .error (.unknownType name)

def Variable.declare (names : Names) (name : String) (typeName : Option String) (mutable : Bool)
    (value : Option Expr) : Except StaticError (Option Expr × Variable) := do
  let declared ← typeName.mapM Ty.resolve
  match value, declared with
  | some (.list elements _ _), declared =>
    let (elements, type) ← Expr.checkElements names declared elements
    match type with
    | some type => return (some (.list elements type type), .list name type mutable)
    | none => throw (.emptyList name)
  | some value, some declared =>
    let (value, actual) ← value.check names
    declared.require actual
    return (some value, .single name declared mutable)
  | some value, none =>
    let (value, actual) ← value.check names
    return (some value, .single name actual mutable)
  | none, some declared => return (none, .single name declared mutable)
  | none, none => throw (.missingValue name)

end Primer
