import Primer.Tree.Stmt
import Primer.Typing.Expression

/-!
Typing of statements. Declarations add to the scope they stand in; everything else leaves the
names as they are, also when a statement is refused.
-/

set_option autoImplicit false

namespace Primer

structure Checker.Body where
  signature : Signature
  returns : Nat
  deriving Repr

structure Checker where
  names : Names
  body : Option Checker.Body
  deriving Repr

def Checker.comeBack (checker : Checker) (chain : Chain) : Checker :=
  { checker with names := checker.names.enter chain }

abbrev Check := EStateM StaticError Checker

namespace Check

def ofNames {α : Type} (answer : Names → Except StaticError α) : Check α := fun checker =>
  match answer checker.names with
  | .ok result => .ok result checker
  | .error error => .error error checker

def expression (value : Expr) : Check (Expr × Ty) :=
  ofNames value.check

def require (target actual : Ty) : Check Unit :=
  ofNames fun _ => target.require actual

def inScope {α : Type} (work : Check α) : Check α := fun { names, body } =>
  let caller := names.current
  match work { names := names.push, body } with
  | .ok result after => .ok result (after.comeBack caller)
  | .error error after => .error error (after.comeBack caller)

def declare (name : String) (typeName : Option String) (mutable : Bool) (value : Option Expr) :
    Check (Option Expr × Variable) := do
  let (value, binding) ← ofNames fun names => Variable.declare names name typeName mutable value
  modify fun checker => { checker with names := checker.names.defineVariable name binding }
  return (value, binding)

def condition (value : Expr) : Check Expr := do
  let (value, type) ← expression value
  require .boolean type
  return value

/-- A variable or an element of a list. A single variable must be mutable; the elements of a list
always are. -/
def receiver (value : Expr) : Check (Expr × Ty) := do
  match value with
  | .named .. =>
    let (value, type) ← expression value
    if let .named _ (some binding) _ := value then
      if !binding.mutable then throw (.immutable binding.name)
    return (value, type)
  | .element .. => expression value
  | _ => throw .badReceiver

def countReturn : Check Unit :=
  modify fun checker =>
    { checker with body := checker.body.map fun body => { body with returns := body.returns + 1 } }

end Check

open Check

mutual

def Stmt.check : Stmt → Check Stmt
  | .expression value => do
    if !value.isCall then throw .badExpressionStatement
    let (value, _) ← expression value
    return .expression value
  | .declaration name typeName value _ => do
    let (value, binding) ← declare name typeName true value
    return .declaration name typeName value binding
  | .assignment target value => do
    let (target, expected) ← receiver target
    let (value, actual) ← expression value
    require expected actual
    return .assignment target value
  | .conditional test thenBody elseBody => do
    let test ← condition test
    if thenBody.isEmpty then throw .emptyThenBranch
    let thenBody ← inScope (Stmt.checkAll thenBody)
    let elseBody ← inScope (Stmt.checkAll elseBody)
    return .conditional test thenBody elseBody
  | .loop test body => do
    let test ← condition test
    let body ← inScope (Stmt.checkAll body)
    return .loop test body
  | .switch value cases => do
    let (value, type) ← expression value
    return .switch value (← Case.checkAll type cases)
  | .returns value => do
    match (← get).body with
    | none => throw .returnOutsideFunction
    | some body =>
      let (value, actual) ← expression value
      require body.signature.returnType actual
      countReturn
      return .returns value

def Stmt.checkAll : List Stmt → Check (List Stmt)
  | [] => return []
  | statement :: statements => do
    let statement ← statement.check
    return statement :: (← Stmt.checkAll statements)

def Case.checkAll (type : Ty) : List Case → Check (List Case)
  | [] => return []
  | .matching value body :: cases => do
    let (value, actual) ← expression value
    if actual ≠ type then throw (.typeMismatch type actual)
    let body ← inScope (Stmt.checkAll body)
    return .matching value body :: (← Case.checkAll type cases)
  | .otherwise body :: cases => do
    if !cases.isEmpty then throw .misplacedDefault
    let body ← inScope (Stmt.checkAll body)
    return .otherwise body :: (← Case.checkAll type cases)

end

end Primer
