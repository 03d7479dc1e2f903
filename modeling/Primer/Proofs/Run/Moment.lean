import Primer.Proofs.Run.Program
import Primer.Proofs.Tree.Part

/-! Moments of runs.

At a moment of a run a part of the program is about to be worked on by a machine. Moments follow the
order of evaluation: a part is come to once what stands before it has been worked on with success, a
loop is come to again behind each of its rounds, and the body of a function when the function is
called. Runs that never end have all their moments too, since each of these needs only finite work.
-/

set_option autoImplicit false

namespace Primer

open Eval

def Expr.Yields (expr : Expr) (machine : Machine) (value : Value) (after : Machine) : Prop :=
  ∃ fuel, expr.evaluate (Callable.invoke fuel) machine = .ok value after

def Expr.YieldAll (exprs : List Expr) (machine : Machine) (values : List Value) (after : Machine) :
    Prop :=
  ∃ fuel, Expr.evaluateAll (Callable.invoke fuel) exprs machine = .ok values after

def Expr.Begins (value : Option Expr) (machine : Machine) (found : Value) (after : Machine) :
    Prop :=
  ∃ fuel, initialValue (Callable.invoke fuel) value machine = .ok found after

def Stmt.Ends (statement : Stmt) (machine : Machine) (control : Control) (after : Machine) : Prop :=
  ∃ fuel, statement.execute (Callable.invoke fuel) fuel machine = .ok control after

def Stmt.BlockEnds (statements : List Stmt) (machine : Machine) (control : Control)
    (after : Machine) : Prop :=
  ∃ fuel, inScope (Stmt.executeAll (Callable.invoke fuel) fuel statements) machine =
    .ok control after

def Machine.block (machine : Machine) : Machine :=
  machine.inside machine.scopes.current

/-- From a part to one of its own, by a turn. -/
inductive Step : Part Value → Machine → Nat → Part Value → Machine → Prop where
  | inner {machine : Machine} {inner : Expr} {type : Option Ty} :
    Step (.value (.group inner type)) machine 0 (.value inner) machine
  | left {machine : Machine} {operator : Operator} {left right : Expr} {type : Option Ty} :
    Step (.value (.binary operator left right type)) machine 0 (.value left) machine
  | right {machine after : Machine} {operator : Operator} {left right : Expr} {type : Option Ty}
      {found : Value} (before : left.Yields machine found after) :
    Step (.value (.binary operator left right type)) machine 1 (.value right) after
  | index {machine : Machine} {name : String} {index : Expr} {binding : Option Variable}
      {type : Option Ty} :
    Step (.value (.element name index binding type)) machine 0 (.value index) machine
  | arguments {machine : Machine} {name : String} {arguments : List Expr}
      {binding : Option Signature} {type : Option Ty} :
    Step (.value (.call name arguments binding type)) machine 0 (.values arguments) machine
  | elements {machine : Machine} {elements : List Expr} {elementType type : Option Ty} :
    Step (.value (.list elements elementType type)) machine 0 (.values elements) machine
  | head {machine : Machine} {first : Expr} {rest : List Expr} :
    Step (.values (first :: rest)) machine 0 (.value first) machine
  | tail {machine after : Machine} {first : Expr} {rest : List Expr} {found : Value}
      (before : first.Yields machine found after) :
    Step (.values (first :: rest)) machine 1 (.values rest) after
  | targetIndex {machine : Machine} {name : String} {index : Expr} {binding : Option Variable}
      {type : Option Ty} :
    Step (.target (.element name index binding type)) machine 0 (.value index) machine
  | expression {machine : Machine} {value : Expr} :
    Step (.statement (.expression value)) machine 0 (.value value) machine
  | declared {machine : Machine} {name : String} {typeName : Option String} {value : Expr}
      {binding : Option Variable} :
    Step (.statement (.declaration name typeName (some value) binding)) machine 0 (.value value)
      machine
  /-- The receiver is looked at when the value is there. -/
  | receiver {machine after : Machine} {receiver value : Expr} {found : Value}
      (before : value.Yields machine found after) :
    Step (.statement (.assignment receiver value)) machine 0 (.target receiver) after
  | assigned {machine : Machine} {receiver value : Expr} :
    Step (.statement (.assignment receiver value)) machine 1 (.value value) machine
  | test {machine : Machine} {test : Expr} {thenBody elseBody : List Stmt} :
    Step (.statement (.conditional test thenBody elseBody)) machine 0 (.value test) machine
  | thenBody {machine after : Machine} {test : Expr} {thenBody elseBody : List Stmt}
      (holds : test.Yields machine (.boolean true) after) :
    Step (.statement (.conditional test thenBody elseBody)) machine 1 (.statements thenBody)
      after.block
  | elseBody {machine after : Machine} {test : Expr} {thenBody elseBody : List Stmt}
      (fails : test.Yields machine (.boolean false) after) :
    Step (.statement (.conditional test thenBody elseBody)) machine 2 (.statements elseBody)
      after.block
  | loopTest {machine : Machine} {test : Expr} {body : List Stmt} :
    Step (.statement (.loop test body)) machine 0 (.value test) machine
  | loopBody {machine after : Machine} {test : Expr} {body : List Stmt}
      (holds : test.Yields machine (.boolean true) after) :
    Step (.statement (.loop test body)) machine 1 (.statements body) after.block
  | scrutinee {machine : Machine} {value : Expr} {cases : List Case} :
    Step (.statement (.switch value cases)) machine 0 (.value value) machine
  | cases {machine after : Machine} {value : Expr} {cases : List Case} {found : Value}
      (about : value.Yields machine found after) :
    Step (.statement (.switch value cases)) machine 1 (.cases found cases) after
  | returned {machine : Machine} {value : Expr} :
    Step (.statement (.returns value)) machine 0 (.value value) machine
  | first {machine : Machine} {first : Stmt} {rest : List Stmt} :
    Step (.statements (first :: rest)) machine 0 (.statement first) machine
  | next {machine after : Machine} {first : Stmt} {rest : List Stmt}
      (before : first.Ends machine .next after) :
    Step (.statements (first :: rest)) machine 1 (.statements rest) after
  | candidate {machine : Machine} {scrutinee : Value} {value : Expr} {body : List Stmt}
      {rest : List Case} :
    Step (.cases scrutinee (.matching value body :: rest)) machine 0 (.value value) machine
  | matched {machine after : Machine} {scrutinee found : Value} {value : Expr} {body : List Stmt}
      {rest : List Case} (before : value.Yields machine found after)
      (same : found.equal scrutinee = true) :
    Step (.cases scrutinee (.matching value body :: rest)) machine 1 (.statements body) after.block
  | unmatched {machine after : Machine} {scrutinee found : Value} {value : Expr}
      {body : List Stmt} {rest : List Case} (before : value.Yields machine found after)
      (different : found.equal scrutinee = false) :
    Step (.cases scrutinee (.matching value body :: rest)) machine 2 (.cases scrutinee rest) after
  | otherwise {machine : Machine} {scrutinee : Value} {body : List Stmt} {rest : List Case} :
    Step (.cases scrutinee (.otherwise body :: rest)) machine 1 (.statements body) machine.block

/-- A call on the machine, with arguments that are there, goes into the body of a function. -/
def Machine.Enters (machine : Machine) (name : String) (arguments : List Value)
    (function : Function) (inner : Machine) : Prop :=
  ∃ scope, machine.scopes.getFunction? name arguments.length = some (.declared function scope) ∧
    function.arity = arguments.length ∧ machine.scopes.reaches scope.top = true ∧
    inner = (machine.inside scope).defineAll (function.parameters.zip arguments)

def Program.LoadsGlobal (typed : Program) (console : Console) (index : Nat) (global : Global)
    (machine : Machine) : Prop :=
  ∃ earlier later fuel, typed.globals = earlier ++ global :: later ∧ earlier.length = index ∧
    earlier.forM (loadGlobal fuel) (.initial console) = .ok () machine

/-- Some run of the program on a new machine comes to the part that stands in this place, with this
machine. -/
inductive Reaches (typed : Program) (console : Console) : Place → Part Value → Machine → Prop where
  | global {index : Nat} {global : Global} {value : Expr} {machine : Machine}
      (loads : typed.LoadsGlobal console index global machine) (given : global.value = some value) :
    Reaches typed console (Root.global index).place (.value value) machine
  | main {fuel : Nat} {machine inner : Machine} {function : Function}
      (loads : loadProgram fuel typed (.initial console) = .ok () machine)
      (enters : machine.Enters "main" [] function inner) :
    Reaches typed console (Root.body function.name function.arity).place
      (.statements function.body) inner
  | turn {place : Place} {part inner : Part Value} {machine after : Machine} {index : Nat}
      (reaches : Reaches typed console place part machine)
      (step : Step part machine index inner after) :
    Reaches typed console (place.turn index) inner after
  | again {place : Place} {test : Expr} {body : List Stmt} {machine between after : Machine}
      (reaches : Reaches typed console place (.statement (.loop test body)) machine)
      (holds : test.Yields machine (.boolean true) between)
      (round : Stmt.BlockEnds body between .next after) :
    Reaches typed console place (.statement (.loop test body)) after
  | call {place : Place} {name : String} {arguments : List Expr} {binding : Option Signature}
      {type : Option Ty} {machine after inner : Machine} {values : List Value}
      {function : Function}
      (reaches : Reaches typed console place (.value (.call name arguments binding type)) machine)
      (before : Expr.YieldAll arguments machine values after)
      (enters : after.Enters name values function inner) :
    Reaches typed console (Root.body function.name function.arity).place
      (.statements function.body) inner

/-- What made a cell. The arguments of a call are in the newest cells when its body begins. -/
inductive Creates (typed : Program) (console : Console) : Origin → Nat → Prop where
  | global {index : Nat} {global : Global} {machine after : Machine} {found : Value}
      (loads : typed.LoadsGlobal console index global machine)
      (begins : Expr.Begins global.value machine found after) :
    Creates typed console (.global index) after.cells.size
  | parameter {function : Function} {machine : Machine} {index : Nat}
      (reaches : Reaches typed console (Root.body function.name function.arity).place
        (.statements function.body) machine)
      (inside : index < function.parameters.length) :
    Creates typed console (.parameter function.name function.arity index)
      (machine.cells.size - function.parameters.length + index)
  | declaration {place : Place} {machine after : Machine} {name : String}
      {typeName : Option String} {value : Option Expr} {binding : Option Variable} {found : Value}
      (reaches : Reaches typed console place
        (.statement (.declaration name typeName value binding)) machine)
      (begins : Expr.Begins value machine found after) :
    Creates typed console (.declaration place) after.cells.size

end Primer
