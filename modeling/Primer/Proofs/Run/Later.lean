import Primer.Proofs.Run.Isolation

/-! Moments that follow from a moment.

From a part that work has begun on, further moments are come to by turns, rounds and calls. Each of
these leads through work that is done and then, perhaps, into a new scope. What such work and such
entries keep is kept at all later moments.
-/

set_option autoImplicit false

namespace Primer

open Eval

inductive Later (part : Part Value) (machine : Machine) : Part Value → Machine → Prop where
  | now : Later part machine part machine
  | turn {middle inner : Part Value} {between after : Machine} {index : Nat}
      (later : Later part machine middle between) (step : Step middle between index inner after) :
    Later part machine inner after
  | again {test : Expr} {body : List Stmt} {round tested after : Machine}
      (later : Later part machine (.statement (.loop test body)) round)
      (holds : test.Yields round (.boolean true) tested)
      (ends : Stmt.BlockEnds body tested .next after) :
    Later part machine (.statement (.loop test body)) after
  | call {name : String} {arguments : List Expr} {binding : Option Signature} {type : Option Ty}
      {between after inner : Machine} {values : List Value} {function : Function}
      (later : Later part machine (.value (.call name arguments binding type)) between)
      (before : Expr.YieldAll arguments between values after)
      (enters : after.Enters name values function inner) :
    Later part machine (.statements function.body) inner

section growth

variable {machine after : Machine}

theorem Expr.Yields.keeps {expr : Expr} {value : Value} (yields : expr.Yields machine value after) :
    machine.Keeps after := by
  obtain ⟨fuel, ran⟩ := yields
  exact (expr.keeps_evaluate (Callable.keeps_invoke fuel)).of_ok ran

theorem Expr.YieldAll.keeps {exprs : List Expr} {values : List Value}
    (yield : Expr.YieldAll exprs machine values after) : machine.Keeps after := by
  obtain ⟨fuel, ran⟩ := yield
  exact (Expr.keeps_evaluateAll (Callable.keeps_invoke fuel) exprs).of_ok ran

theorem Stmt.Ends.keepsOuter {statement : Stmt} {control : Control}
    (ends : statement.Ends machine control after) : machine.KeepsOuter after := by
  obtain ⟨fuel, ran⟩ := ends
  have calls := Callable.keeps_invoke fuel
  exact (Stmt.keepsOuter_execute calls (Stmt.keeps_execute calls fuel statement)).of_ok ran

theorem Stmt.BlockEnds.keeps {statements : List Stmt} {control : Control}
    (ends : Stmt.BlockEnds statements machine control after) : machine.Keeps after := by
  obtain ⟨fuel, ran⟩ := ends
  exact (keeps_inScope
    (Stmt.keepsOuter_executeAll (Callable.keeps_invoke fuel) fuel statements)).of_ok ran

theorem Step.preserves {holds : Machine → Prop} {part inner : Part Value} {index : Nat}
    (grows : ∀ {machine after}, machine.KeepsOuter after → holds machine → holds after)
    (block : ∀ {machine}, holds machine → holds machine.block)
    (step : Step part machine index inner after) (start : holds machine) : holds after := by
  cases step with
  | inner | left | index | arguments | elements | head | targetIndex | expression | declared
  | assigned | test | loopTest | scrutinee | returned | first | candidate => exact start
  | right before | tail before | receiver before | cases before =>
    exact grows before.keeps.outer start
  | unmatched before _ => exact grows before.keeps.outer start
  | next before => exact grows before.keepsOuter start
  | thenBody before | elseBody before | loopBody before =>
    exact block (grows before.keeps.outer start)
  | matched before _ => exact block (grows before.keeps.outer start)
  | otherwise => exact block start

end growth

/-! ### Machines on which every call leads back to the global scope -/

structure Machine.Regular (machine : Machine) : Prop where
  rooted : machine.scopes.Rooted
  loaded : ∀ {key callable}, (machine.scopes.boundFunctions 0).lookup key = some callable →
    callable.AtRoot

namespace Machine.Regular

variable {machine after : Machine}

theorem of_grows {isOpen : Nat → Prop} (regular : machine.Regular)
    (grows : machine.Grows isOpen after) : after.Regular where
  rooted := regular.rooted.of_grows grows.scopes
  loaded looked := by
    rw [grows.scopes.boundFunctions 0] at looked
    exact regular.loaded looked

theorem block (regular : machine.Regular) : machine.block.Regular where
  rooted := regular.rooted.child_current
  loaded looked := by
    unfold Machine.block at looked
    rw [boundFunctions_inside] at looked
    exact regular.loaded looked

theorem enter (regular : machine.Regular) : (machine.inside Chain.root).Regular where
  rooted := regular.rooted.child_root
  loaded looked := by
    rw [boundFunctions_inside] at looked
    exact regular.loaded looked

/-- The body of a function begins in a scope inside the global one. -/
theorem of_enters (regular : machine.Regular) {name : String} {values : List Value}
    {function : Function} {inner : Machine} (enters : machine.Enters name values function inner) :
    inner = (machine.inside Chain.root).defineAll (function.parameters.zip values) := by
  obtain ⟨scope, found, -, -, rfl⟩ := enters
  rw [regular.rooted.getFunction?] at found
  have atRoot : scope = Chain.root := regular.loaded found
  rw [atRoot]

theorem entered (regular : machine.Regular) {name : String} {values : List Value}
    {function : Function} {inner : Machine} (enters : machine.Enters name values function inner) :
    inner.Regular := by
  rw [regular.of_enters enters]
  exact regular.enter.of_grows (keepsOuter_defineAll _ _)

theorem step (regular : machine.Regular) {part inner : Part Value} {index : Nat}
    (step : Step part machine index inner after) : after.Regular :=
  step.preserves (fun grows regular => Regular.of_grows regular grows) Regular.block regular

end Machine.Regular

end Primer
