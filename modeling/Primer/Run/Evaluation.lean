import Primer.Run.Machine
import Primer.Run.Operator

/-!
Runs. Expressions and statements are evaluated along their structure; calls of functions and
rounds of loops draw on a budget of steps, so that every evaluation ends. A run whose budget is
used up has no result.
-/

set_option autoImplicit false

namespace Primer

open Eval

abbrev Call := Callable → List Value → Eval Value

def Eval.callNamed (call : Call) (name : String) (arguments : List Value) : Eval Value := do
  match (← get).scopes.getFunction? name arguments.length with
  | some callable => call callable arguments
  | none => fail (.unknownFunction name arguments.length)

mutual

def Expr.evaluate (call : Call) : Expr → Eval Value
  | .literal value _ => return .ofLiteral value
  | .group inner _ => inner.evaluate call
  | .binary operator left right _ => do
    let left ← left.evaluate call
    let right ← right.evaluate call
    ofExcept (operator.apply left right)
  | .named name _ _ => do
    load (← cell name)
  | .element name index _ _ => do
    let cell ← cell name
    let index ← index.evaluate call
    let items ← items name cell
    return items[← slot index items.length]?.getD .nil
  | .call name arguments _ _ => do
    callNamed call name (← Expr.evaluateAll call arguments)
  | .list elements _ _ => return .sequence (← Expr.evaluateAll call elements)

def Expr.evaluateAll (call : Call) : List Expr → Eval (List Value)
  | [] => return []
  | first :: rest => do
    let first ← first.evaluate call
    return first :: (← Expr.evaluateAll call rest)

end

namespace Eval

def condition (call : Call) (test : Expr) : Eval Bool := do
  match ← test.evaluate call with
  | .boolean value => return value
  | other => fail (.unexpectedKind "Boolean" other.kind)

def assign (call : Call) (receiver value : Expr) : Eval Unit := do
  match receiver with
  | .named name _ _ =>
    let value ← value.evaluate call
    store (← cell name) value
  | .element name index _ _ =>
    let value ← value.evaluate call
    let cell ← cell name
    let index ← index.evaluate call
    let items ← items name cell
    let slot ← slot index items.length
    store cell (.sequence (items.set slot value))
  | _ => fail .badReceiver

/-- Repeats `body` as long as `test` holds, at most as often as there is fuel. -/
def repeatWhile (test : Eval Bool) (body : Eval Control) : Nat → Eval Control
  | 0 => throw .outOfFuel
  | fuel + 1 => do
    if ← test then
      match ← body with
      | .next => repeatWhile test body fuel
      | .returning value => return .returning value
    else return .next

end Eval

mutual

def Stmt.execute (call : Call) (fuel : Nat) : Stmt → Eval Control
  | .expression value => do
    discard (value.evaluate call)
    return .next
  | .declaration name _ value _ => do
    let value ← match value with
      | some value => value.evaluate call
      | none => pure .nil
    define name value
    return .next
  | .assignment receiver value => do
    assign call receiver value
    return .next
  | .conditional test thenBody elseBody => do
    if ← condition call test then inScope (Stmt.executeAll call fuel thenBody)
    else inScope (Stmt.executeAll call fuel elseBody)
  | .loop test body =>
    repeatWhile (condition call test) (inScope (Stmt.executeAll call fuel body)) fuel
  | .switch value cases => do
    Case.select call fuel (← value.evaluate call) cases
  | .returns value => return .returning (← value.evaluate call)

def Stmt.executeAll (call : Call) (fuel : Nat) : List Stmt → Eval Control
  | [] => return .next
  | first :: rest => do
    match ← first.execute call fuel with
    | .next => Stmt.executeAll call fuel rest
    | .returning value => return .returning value

def Case.select (call : Call) (fuel : Nat) (value : Value) : List Case → Eval Control
  | [] => return .next
  | .matching candidate body :: cases => do
    if (← candidate.evaluate call).equal value then inScope (Stmt.executeAll call fuel body)
    else Case.select call fuel value cases
  | .otherwise body :: _ => inScope (Stmt.executeAll call fuel body)

end

/-- Carries out a call. The body of a function runs in a new scope inside the one that the function
was loaded into; once that scope is left behind, the function is not declared any more. -/
def Callable.invoke : Nat → Call
  | 0, _, _ => throw .outOfFuel
  | _ + 1, .print, arguments => do
    printLine (arguments.headD .nil).text
    return .nil
  | fuel + 1, .declared function scope, arguments => do
    if function.arity ≠ arguments.length then
      fail (.argumentCount function.name function.arity arguments.length)
    if !(← get).scopes.reaches scope.top then
      fail (.unknownFunction function.name function.arity)
    let control ← inChild scope do
      modify fun machine => machine.defineAll (function.parameters.zip arguments)
      Stmt.executeAll (Callable.invoke fuel) fuel function.body
    match control with
    | .next => return .nil
    | .returning value => return value

def ampleFuel : Nat :=
  Nat.pow 2 62

namespace Eval

def call (fuel : Nat) (name : String) (arguments : List Value) : Eval Value :=
  callNamed (Callable.invoke fuel) name arguments

/-- Evaluates the globals in their order, then binds the functions. -/
def loadProgram (fuel : Nat) (program : Program) : Eval Unit := do
  program.globals.forM fun global => do
    let value ← match global.value with
      | some value => value.evaluate (Callable.invoke fuel)
      | none => pure .nil
    define global.name value
  modify fun machine =>
    { machine with
      scopes := program.functions.foldl
        (fun scopes function =>
          scopes.defineFunction function.name function.arity (.declared function scopes.current))
        machine.scopes }

def exitCode (value : Value) : Eval Int :=
  match value with
  | .integer code =>
    if Number.fits32 code then pure code else fail (.exitCodeOutOfRange code)
  | other => fail (.unexpectedKind "Integer" other.kind)

def runProgram (fuel : Nat) (program : Program) : Eval Int := do
  loadProgram fuel program
  let value ← call fuel "main" []
  flush
  exitCode value

end Eval

end Primer
