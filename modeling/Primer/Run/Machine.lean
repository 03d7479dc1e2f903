import Primer.Diagnostic.RunError
import Primer.Run.Value
import Primer.Scope.Basic
import Primer.Tree.Program

/-!
The state of a run: names bound to cells, the cells, and the console.
-/

set_option autoImplicit false

namespace Primer

/-- Where a run prints to. A fault is what the console answers instead of doing its work. -/
structure Console where
  text : String := ""
  writeFault : Option String := none
  flushFault : Option String := none
  deriving Repr

def Console.append (console : Console) (line : String) : Console :=
  { console with text := console.text ++ line }

inductive Callable where
  | declared (function : Function) (scope : Chain)
  | print

structure Machine where
  /-- Variables are bound to the numbers of their cells. -/
  scopes : Environment Nat Callable
  cells : Array Value
  console : Console

inductive Halt where
  | error (error : RunError)
  | outOfFuel
  deriving Repr, DecidableEq

inductive Control where
  | next
  | returning (value : Value)
  deriving Repr

abbrev Eval := EStateM Halt Machine

namespace Machine

def initial (console : Console) : Machine :=
  { scopes := Environment.root.defineFunction "print" 1 .print, cells := #[], console }

def define (machine : Machine) (name : String) (value : Value) : Machine :=
  { machine with
    scopes := machine.scopes.defineVariable name machine.cells.size
    cells := machine.cells.push value }

def defineAll (machine : Machine) (bindings : List (String × Value)) : Machine :=
  bindings.foldl (fun machine (name, value) => machine.define name value) machine

def value? (machine : Machine) (name : String) : Option Value :=
  (machine.scopes.getVariable? name).bind fun cell => machine.cells[cell]?

def comeBack (machine : Machine) (chain : Chain) : Machine :=
  { machine with scopes := machine.scopes.enter chain }

end Machine

namespace Eval

def fail {α : Type} (error : RunError) : Eval α :=
  throw (.error error)

def ofExcept {α : Type} : Except RunError α → Eval α
  | .ok value => pure value
  | .error error => fail error

def define (name : String) (value : Value) : Eval Unit :=
  modify fun machine => machine.define name value

def cell (name : String) : Eval Nat := do
  match (← get).scopes.getVariable? name with
  | some cell => return cell
  | none => fail (.unknownVariable name)

def load (cell : Nat) : Eval Value := do
  return (← get).cells[cell]?.getD .nil

def store (cell : Nat) (value : Value) : Eval Unit :=
  modify fun machine => { machine with cells := machine.cells.setIfInBounds cell value }

def items (name : String) (cell : Nat) : Eval (List Value) := do
  match ← load cell with
  | .sequence items => return items
  | _ => fail (.notASequence name)

def slot (index : Value) (length : Nat) : Eval Nat := do
  match index with
  | .integer i =>
    if 0 ≤ i ∧ i < length then return i.toNat else fail (.indexOutOfRange i length)
  | other => fail (.unexpectedKind "Integer" other.kind)

def printLine (text : String) : Eval Unit := do
  match (← get).console.writeFault with
  | some reason => fail (.output reason)
  | none =>
    modify fun machine => { machine with console := machine.console.append (text ++ "\n") }

def flush : Eval Unit := do
  match (← get).console.flushFault with
  | some reason => fail (.output reason)
  | none => return ()

/-- Does a piece of work in a new scope inside `outer` and comes back from it, however the work
ends. -/
def inChild {α : Type} (outer : Chain) (work : Eval α) : Eval α := fun { scopes, cells, console } =>
  let caller := scopes.current
  let (inner, scopes) := scopes.child outer
  match work { scopes := scopes.enter inner, cells, console } with
  | .ok result after => .ok result (after.comeBack caller)
  | .error halt after => .error halt (after.comeBack caller)

def inScope {α : Type} (work : Eval α) : Eval α := do
  inChild (← get).scopes.current work

end Eval

end Primer
