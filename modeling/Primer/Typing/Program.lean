import Primer.Tree.Program
import Primer.Typing.Statement

/-!
Typing of programs. A function is known to the functions behind it and, from its first line on, to
itself.
-/

set_option autoImplicit false

namespace Primer

/-- The type that a function is checked against. The main function returns `Integer` whether it
says so or not; any other function that says nothing returns `Any`. -/
def Function.returnType (function : Function) : Except StaticError Ty := do
  match function.isMain, ← function.returnTypeName.mapM Ty.resolve with
  | true, none => return .integer
  | true, some declared =>
    if declared = .integer then return .integer else throw (.mainReturnType declared)
  | false, declared => return declared.getD .any

def Function.signature (function : Function) : Except StaticError Signature := do
  let parameterTypes ← function.parameterTypes.mapM Ty.resolve
  let returnType ← function.returnType
  return .declared function.name parameterTypes returnType

def Ty.needsReturn (type : Ty) : Bool :=
  type ≠ .nil && type ≠ .any

def Names.defineParameters (names : Names) (parameters : List (String × Ty)) : Names :=
  parameters.foldl
    (fun names (name, type) => names.defineVariable name (.single name type true)) names

namespace Checker

def initial : Checker :=
  { names := Environment.root.defineFunction "print" 1 .print, body := none }

end Checker

namespace Check

/-- Does a piece of work in the body of a function and comes back from it, however it ends. The
result also tells how many return statements the body has. -/
def inFunction {α : Type} (signature : Signature) (parameters : List String) (work : Check α) :
    Check (α × Nat) := fun { names, body } =>
  let caller := names.current
  let names := Names.defineParameters names.push (parameters.zip signature.parameterTypes)
  let back (after : Checker) : Checker := { after.comeBack caller with body }
  match work { names, body := some { signature, returns := 0 } } with
  | .ok result after => .ok (result, (after.body.map Checker.Body.returns).getD 0) (back after)
  | .error error after => .error error (back after)

def global (global : Global) : Check Global := do
  let (value, binding) ← declare global.name global.typeName global.mutable global.value
  return { global with value, binding := some binding }

def function (function : Function) : Check Function := do
  let signature ← ofNames fun _ => function.signature
  let names := (← get).names
  if names.bindsFunction names.current function.name function.arity then
    throw (.duplicateFunction function.name function.arity)
  modify fun checker =>
    { checker with
      names := checker.names.defineFunction function.name function.arity signature }
  let (body, returns) ← inFunction signature function.parameters (Stmt.checkAll function.body)
  if returns = 0 ∧ signature.returnType.needsReturn then
    throw (.missingReturn function.name signature.returnType)
  return { function with body, binding := some signature }

def program (program : Program) : Check Program := do
  let globals ← program.globals.mapM global
  let functions ← program.functions.mapM function
  let names := (← get).names
  if !names.bindsFunction names.global "main" 0 then throw .missingMain
  return { globals, functions }

end Check

def Program.check (program : Program) : Except StaticError Program :=
  match Check.program program Checker.initial with
  | .ok program _ => .ok program
  | .error error _ => .error error

end Primer
