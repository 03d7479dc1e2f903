import Primer.Proofs.Run.Statement

/-! What work of any kind leaves of the scopes, however it ends.

The scope that was current is current again, the global one has not changed, and the scopes that
there were bind what they bound. A declaration that is carried out is the one exception: it binds
its own name in the scope that it stands in. Nothing is asked of the trees; they need not have been
checked.
-/

set_option autoImplicit false

namespace Primer

open Eval

/-! ### Blocks -/

namespace Eval

variable {α : Type}

def pushed (work : Eval α) : Eval α := fun machine =>
  match work { machine with scopes := machine.scopes.push } with
  | .ok result after => .ok result { after with scopes := after.scopes.pop }
  | .error halt after => .error halt { after with scopes := after.scopes.pop }

theorem pop_eq_comeBack {machine last : Machine}
    (kept : last.scopes.current = machine.scopes.push.current) :
    { last with scopes := last.scopes.pop } = last.comeBack machine.scopes.current := by
  unfold Environment.pop Machine.comeBack
  rw [kept, Environment.parent_current_push]

/-- Work that comes back to the pushed scope finds its link outwards as it was, so that the pop
leads to the scope that was current before. -/
theorem pushed_eq_inScope {work : Eval α} (inner : work.KeepsOuter) :
    pushed work = inScope work := by
  funext machine
  have kept := (inner (machine.inside machine.scopes.current)).scopes.current
  change _ = inChild machine.scopes.current work machine
  rw [inChild_eq]
  change (match work (machine.inside machine.scopes.current) with
    | .ok result after => _
    | .error halt after => _) = _
  cases ran : work (machine.inside machine.scopes.current) with
  | ok result last =>
    rw [after_of_ok ran] at kept
    exact congrArg _ (pop_eq_comeBack kept)
  | error halt last =>
    rw [after_of_error ran] at kept
    exact congrArg _ (pop_eq_comeBack kept)

end Eval

/-! ### Work of any kind -/

theorem Stmt.execute_declaration_eq {call : Call} (name : String) (typeName : Option String)
    (value : Option Expr) (binding : Option Variable) (rounds : Nat) (machine : Machine) :
    (Stmt.declaration name typeName value binding).execute call rounds machine =
      match initialValue call value machine with
      | .ok initial middle => .ok .next (middle.define name initial)
      | .error halt middle => .error halt middle := by
  rw [Stmt.execute_declaration]
  change EStateM.bind _ _ machine = _
  unfold EStateM.bind
  cases initialValue call value machine <;> rfl

section statements

variable {call : Call} {rounds : Nat} {machine last : Machine} {statement : Stmt}
  (calls : call.Keeps)

include calls

/-- A declaration that is carried out binds its name to a new cell; any other statement binds
nothing. -/
theorem Stmt.adds_of_ok {control : Control}
    (ran : statement.execute call rounds machine = .ok control last) :
    ∃ added, added.map Prod.fst = statement.declared? ∧
      (∀ binding ∈ added, machine.cells.size ≤ binding.2) ∧
      machine.scopes.Adds added last.scopes := by
  cases kind : statement.isDeclaration with
  | false =>
    have kept := (Stmt.keeps_execute calls rounds statement kind).of_ok ran
    rw [Stmt.declared?_eq_none kind]
    exact ⟨none, rfl, nofun, kept.scopes.adds⟩
  | true =>
    cases statement with
    | declaration name typeName value binding =>
      rw [Stmt.execute_declaration_eq] at ran
      cases evaluated : initialValue call value machine with
      | ok initial middle =>
        have kept := (keeps_initialValue calls value).of_ok evaluated
        rw [evaluated] at ran
        cases ran
        exact ⟨some (name, middle.cells.size), rfl, by simpa using kept.cells,
          kept.scopes.adds.define name middle.cells.size⟩
      | error halt middle =>
        rw [evaluated] at ran
        cases ran
    | expression | assignment | conditional | loop | switch | returns => cases kind

/-- A statement that fails binds nothing, a declaration no more than any other. -/
theorem Stmt.adds_of_error {halt : Halt}
    (ran : statement.execute call rounds machine = .error halt last) :
    machine.scopes.Adds none last.scopes := by
  cases kind : statement.isDeclaration with
  | false =>
    have kept := Stmt.keeps_execute calls rounds statement kind machine
    rw [Eval.after_of_error ran] at kept
    exact kept.scopes.adds
  | true =>
    cases statement with
    | declaration name typeName value binding =>
      have kept := keeps_initialValue calls value machine
      rw [Stmt.execute_declaration_eq] at ran
      cases evaluated : initialValue call value machine with
      | ok initial middle =>
        rw [evaluated] at ran
        cases ran
      | error halt middle =>
        rw [Eval.after_of_error evaluated] at kept
        rw [evaluated] at ran
        cases ran
        exact kept.scopes.adds
    | expression | assignment | conditional | loop | switch | returns => cases kind

end statements

/-- Whatever is evaluated, executed or called, on whatever machine, and whether it has a result,
returns or halts at any depth: the chains are the same behind it, and every scope binds what it
bound, but for the variable of a declaration that is carried out. -/
theorem Machine.scopes_restored (steps rounds : Nat) (machine : Machine) :
    (∀ expr : Expr,
      machine.scopes.Adds none
        ((expr.evaluate (Callable.invoke steps)).after machine).scopes) ∧
    (∀ statement : Stmt,
      match statement.execute (Callable.invoke steps) rounds machine with
      | .ok _ last => ∃ added, added.map Prod.fst = statement.declared? ∧
          (∀ binding ∈ added, machine.cells.size ≤ binding.2) ∧
          machine.scopes.Adds added last.scopes
      | .error _ last => machine.scopes.Adds none last.scopes) ∧
    (∀ body : List Stmt,
      let block := Stmt.executeAll (Callable.invoke steps) rounds body
      inScope block = pushed block ∧
        machine.scopes.Adds none ((pushed block).after machine).scopes) ∧
    (∀ callable arguments,
      machine.scopes.Adds none ((Callable.invoke steps callable arguments).after machine).scopes) ∧
    (∀ name arguments,
      machine.scopes.Adds none ((Eval.call steps name arguments).after machine).scopes) := by
  have calls := Callable.keeps_invoke steps
  refine ⟨fun expr => ?expression, fun statement => ?statement, fun body => ?block,
    fun callable arguments => ?invocation, fun name arguments => ?call⟩
  case expression => exact (expr.keeps_evaluate calls machine).scopes.adds
  case statement =>
    split
    · next ran => exact Stmt.adds_of_ok calls ran
    · next ran => exact Stmt.adds_of_error calls ran
  case block =>
    have inner := Stmt.keepsOuter_executeAll calls rounds body
    refine ⟨(pushed_eq_inScope inner).symm, ?_⟩
    rw [pushed_eq_inScope inner]
    exact (keeps_inScope inner machine).scopes.adds
  case invocation => exact (calls callable arguments machine).scopes.adds
  case call =>
    exact (keeps_callNamed calls name arguments machine).scopes.adds

end Primer
