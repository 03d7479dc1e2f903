import Primer.Proofs.Scope.Growth
import Primer.Proofs.Tree.Every
import Primer.Run.Evaluation

/-! What a computation leaves of the machine that it starts on, however it ends.

An expression binds nothing in a scope that existed before it; a statement binds at most in the
scope that it stands in. Calls come back to the scope that they were made in.
-/

set_option autoImplicit false

namespace Primer

structure Machine.Grows (isOpen : Nat → Prop) (before after : Machine) : Prop where
  scopes : before.scopes.Grows isOpen after.scopes
  cells : before.cells.size ≤ after.cells.size

namespace Machine

abbrev Keeps (before after : Machine) : Prop :=
  Grows (fun _ => False) before after

abbrev KeepsOuter (before after : Machine) : Prop :=
  Grows (· = before.scopes.current.top) before after

theorem Grows.refl {isOpen : Nat → Prop} (machine : Machine) : Grows isOpen machine machine :=
  ⟨.refl _, Nat.le_refl _⟩

theorem Grows.trans {isOpen : Nat → Prop} {first second third : Machine}
    (left : Grows isOpen first second) (right : Grows isOpen second third) :
    Grows isOpen first third :=
  ⟨left.scopes.trans right.scopes, Nat.le_trans left.cells right.cells⟩

theorem Keeps.outer {before after : Machine} (keeps : Keeps before after) :
    KeepsOuter before after :=
  ⟨Environment.Keeps.outer keeps.scopes, keeps.cells⟩

theorem KeepsOuter.trans {first second third : Machine} (left : KeepsOuter first second)
    (right : KeepsOuter second third) : KeepsOuter first third :=
  ⟨Environment.KeepsOuter.trans left.scopes right.scopes, Nat.le_trans left.cells right.cells⟩

def inside (machine : Machine) (outer : Chain) : Machine :=
  { machine with
    scopes := (machine.scopes.child outer).2.enter (machine.scopes.child outer).1 }

theorem keepsOuter_define (machine : Machine) (name : String) (value : Value) :
    KeepsOuter machine (machine.define name value) :=
  ⟨machine.scopes.keepsOuter_defineVariable name machine.cells.size, by simp [define]⟩

@[simp] theorem size_define (machine : Machine) (name : String) (value : Value) :
    (machine.define name value).cells.size = machine.cells.size + 1 := by
  simp [define]

theorem size_defineAll (machine : Machine) (bindings : List (String × Value)) :
    (machine.defineAll bindings).cells.size = machine.cells.size + bindings.length := by
  induction bindings generalizing machine with
  | nil => rfl
  | cons binding rest ih =>
    have grown := ih (machine.define binding.1 binding.2)
    rw [size_define] at grown
    rw [List.length_cons]
    exact grown.trans (by omega)

theorem keepsOuter_defineAll (machine : Machine) (bindings : List (String × Value)) :
    KeepsOuter machine (machine.defineAll bindings) := by
  induction bindings generalizing machine with
  | nil => exact .refl machine
  | cons binding rest ih =>
    exact (machine.keepsOuter_define binding.1 binding.2).trans (ih (machine.define _ _))

theorem keeps_comeBack {before after : Machine} {outer : Chain}
    (inner : KeepsOuter (before.inside outer) after) :
    Keeps before (after.comeBack before.scopes.current) :=
  ⟨Environment.keeps_of_child inner.scopes, inner.cells⟩

end Machine

namespace Eval

variable {α β : Type}

def after (work : Eval α) (machine : Machine) : Machine :=
  match work machine with
  | .ok _ after => after
  | .error _ after => after

theorem after_bind (work : Eval α) (next : α → Eval β) (machine : Machine) :
    (work >>= next).after machine =
      match work machine with
      | .ok value middle => (next value).after middle
      | .error _ middle => middle := by
  simp only [after, bind, EStateM.bind]
  cases work machine <;> rfl

theorem after_bind_of_ok {work : Eval α} {next : α → Eval β} {machine middle : Machine}
    {value : α} (ran : work machine = .ok value middle) :
    (work >>= next).after machine = (next value).after middle := by
  rw [after_bind, ran]

theorem after_bind_of_error {work : Eval α} {next : α → Eval β} {machine middle : Machine}
    {halt : Halt} (ran : work machine = .error halt middle) :
    (work >>= next).after machine = middle := by
  rw [after_bind, ran]

theorem after_of_error {work : Eval α} {machine last : Machine} {halt : Halt}
    (ran : work machine = .error halt last) : work.after machine = last := by
  unfold after
  rw [ran]

theorem after_of_ok {work : Eval α} {machine last : Machine} {value : α}
    (ran : work machine = .ok value last) : work.after machine = last := by
  unfold after
  rw [ran]

/-- What holds behind a computation, and is handed on by what follows, holds behind both. -/
theorem holds_bind {holds : Machine → Prop} {work : Eval α} {next : α → Eval β} {machine : Machine}
    (first : holds (work.after machine))
    (rest : ∀ value middle, work machine = .ok value middle → holds middle →
      holds ((next value).after middle)) :
    holds ((work >>= next).after machine) := by
  cases ran : work machine with
  | ok value middle =>
    rw [after_of_ok ran] at first
    rw [after_bind_of_ok ran]
    exact rest value middle ran first
  | error halt middle =>
    rw [after_of_error ran] at first
    rw [after_bind_of_error ran]
    exact first

/-- What holds across a computation on this machine, and from where it ends across what follows,
holds across both. -/
theorem related_bind {related : Machine → Machine → Prop} {work : Eval α} {next : α → Eval β}
    {machine : Machine}
    (trans : ∀ {first second third}, related first second → related second third →
      related first third)
    (first : related machine (work.after machine))
    (rest : ∀ value middle, work machine = .ok value middle →
      related middle ((next value).after middle)) :
    related machine ((work >>= next).after machine) :=
  holds_bind first fun value middle ran before => trans before (rest value middle ran)

def Keeps (work : Eval α) : Prop :=
  ∀ machine : Machine, machine.Keeps (work.after machine)

def KeepsOuter (work : Eval α) : Prop :=
  ∀ machine : Machine, machine.KeepsOuter (work.after machine)

theorem Keeps.of_ok {work : Eval α} {machine last : Machine} {value : α} (keeps : work.Keeps)
    (ran : work machine = .ok value last) : machine.Keeps last := by
  have kept := keeps machine
  rwa [after_of_ok ran] at kept

theorem KeepsOuter.of_ok {work : Eval α} {machine last : Machine} {value : α}
    (keeps : work.KeepsOuter) (ran : work machine = .ok value last) : machine.KeepsOuter last := by
  have kept := keeps machine
  rwa [after_of_ok ran] at kept

theorem Keeps.outer {work : Eval α} (keeps : work.Keeps) : work.KeepsOuter :=
  fun machine => (keeps machine).outer

theorem Keeps.bind {work : Eval α} {next : α → Eval β} (first : work.Keeps)
    (rest : ∀ value, (next value).Keeps) : (work >>= next).Keeps := fun machine =>
  related_bind Machine.Grows.trans (first machine) fun value middle _ => rest value middle

theorem KeepsOuter.bind {work : Eval α} {next : α → Eval β} (first : work.KeepsOuter)
    (rest : ∀ value, (next value).KeepsOuter) : (work >>= next).KeepsOuter := fun machine =>
  related_bind Machine.KeepsOuter.trans (first machine) fun value middle _ => rest value middle

/-! ### Computations that leave the machine alone -/

def Reads (work : Eval α) : Prop :=
  ∀ machine : Machine, work.after machine = machine

theorem Reads.of_ok {work : Eval α} {machine last : Machine} {value : α} (reads : work.Reads)
    (ran : work machine = .ok value last) : machine = last := by
  rw [← after_of_ok ran, reads machine]

theorem Reads.bind {work : Eval α} {next : α → Eval β} (first : work.Reads)
    (rest : ∀ value, (next value).Reads) : (work >>= next).Reads := by
  intro machine
  have same : machine = (work >>= next).after machine :=
    related_bind Eq.trans (first machine).symm fun value middle _ => (rest value middle).symm
  exact same.symm

/-- Behind a look at the machine, either nothing follows or what follows starts on the same one. -/
theorem Reads.after_bind {work : Eval α} (reads : work.Reads) (next : α → Eval β)
    (machine : Machine) :
    (work >>= next).after machine = machine ∨
      ∃ value, work machine = .ok value machine ∧
        (work >>= next).after machine = (next value).after machine := by
  cases ran : work machine with
  | ok value middle =>
    cases reads.of_ok ran
    exact .inr ⟨value, rfl, after_bind_of_ok ran⟩
  | error halt middle =>
    rw [after_bind_of_error ran, ← after_of_error ran]
    exact .inl (reads machine)

theorem reads_pure (value : α) : (pure value : Eval α).Reads :=
  fun _ => rfl

theorem reads_throw (halt : Halt) : (throw halt : Eval α).Reads :=
  fun _ => rfl

theorem reads_fail (error : RunError) : (fail error : Eval α).Reads :=
  fun _ => rfl

theorem reads_get : (get : Eval Machine).Reads :=
  fun _ => rfl

theorem reads_ofExcept (answer : Except RunError α) : (ofExcept answer).Reads := by
  cases answer with
  | ok value => exact reads_pure value
  | error error => exact reads_fail error

theorem reads_cell (name : String) : (cell name).Reads := by
  apply reads_get.bind
  intro machine
  split
  · exact reads_pure _
  · exact reads_fail _

theorem reads_load (number : Nat) : (load number).Reads :=
  reads_get.bind fun _ => reads_pure _

theorem reads_items (name : String) (number : Nat) : (items name number).Reads := by
  apply (reads_load number).bind
  intro value
  split
  · exact reads_pure _
  · exact reads_fail _

theorem reads_slot (index : Value) (length : Nat) : (slot index length).Reads := by
  unfold slot
  split
  · split
    · exact reads_pure _
    · exact reads_fail _
  · exact reads_fail _

theorem Reads.keeps {work : Eval α} (reads : work.Reads) : work.Keeps := by
  intro machine
  rw [reads machine]
  exact .refl machine

theorem keeps_pure (value : α) : (pure value : Eval α).Keeps :=
  (reads_pure value).keeps

theorem keeps_throw (halt : Halt) : (throw halt : Eval α).Keeps :=
  (reads_throw halt).keeps

theorem keeps_fail (error : RunError) : (fail error : Eval α).Keeps :=
  keeps_throw _

theorem keeps_get : (get : Eval Machine).Keeps :=
  reads_get.keeps

theorem keeps_store (number : Nat) (value : Value) : (store number value).Keeps :=
  fun machine => ⟨.refl _, Nat.le_of_eq (Array.size_set! machine.cells number value).symm⟩

theorem keeps_printLine (text : String) : (printLine text).Keeps := by
  refine keeps_get.bind fun machine => ?_
  split
  · exact keeps_fail _
  · exact fun machine => ⟨.refl _, Nat.le_refl _⟩

theorem keepsOuter_define (name : String) (value : Value) : (define name value).KeepsOuter :=
  fun machine => machine.keepsOuter_define name value

theorem inChild_eq (outer : Chain) (work : Eval α) (machine : Machine) :
    inChild outer work machine =
      match work (machine.inside outer) with
      | .ok result after => .ok result (after.comeBack machine.scopes.current)
      | .error halt after => .error halt (after.comeBack machine.scopes.current) := rfl

theorem after_inChild (outer : Chain) (work : Eval α) (machine : Machine) :
    (inChild outer work).after machine =
      (work.after (machine.inside outer)).comeBack machine.scopes.current := by
  unfold after
  rw [inChild_eq]
  cases work (machine.inside outer) <;> rfl

theorem keeps_inChild (outer : Chain) {work : Eval α} (inner : work.KeepsOuter) :
    (inChild outer work).Keeps := by
  intro machine
  rw [after_inChild]
  exact Machine.keeps_comeBack (inner (machine.inside outer))

theorem keeps_inScope {work : Eval α} (inner : work.KeepsOuter) : (inScope work).Keeps :=
  fun machine => keeps_inChild machine.scopes.current inner machine

theorem keeps_repeatWhile {test : Eval Bool} {body : Eval Control} (testKeeps : test.Keeps)
    (bodyKeeps : body.Keeps) (fuel : Nat) : (repeatWhile test body fuel).Keeps := by
  induction fuel with
  | zero => exact keeps_throw _
  | succ fuel ih =>
    refine testKeeps.bind fun holds => ?_
    split
    · refine bodyKeeps.bind fun control => ?_
      split
      · exact ih
      · exact keeps_pure _
    · exact keeps_pure _

end Eval

open Eval

def Call.Keeps (call : Call) : Prop :=
  ∀ callable arguments, (call callable arguments).Keeps

section calls

variable {call : Call}

theorem Eval.keeps_callNamed (calls : call.Keeps) (name : String) (arguments : List Value) :
    (callNamed call name arguments).Keeps := by
  refine keeps_get.bind fun machine => ?_
  split
  · exact calls _ arguments
  · exact keeps_fail _

mutual

theorem Expr.keeps_evaluate (calls : call.Keeps) : (expr : Expr) → (expr.evaluate call).Keeps
  | .literal _ _ => keeps_pure _
  | .group inner _ => inner.keeps_evaluate calls
  | .binary _ left right _ =>
    (left.keeps_evaluate calls).bind fun _ => (right.keeps_evaluate calls).bind fun _ =>
      (reads_ofExcept _).keeps
  | .named name _ _ => ((reads_cell name).bind fun _ => reads_load _).keeps
  | .element name index _ _ =>
    (reads_cell name).keeps.bind fun _ => (index.keeps_evaluate calls).bind fun _ =>
      (reads_items name _).keeps.bind fun _ => (reads_slot _ _).keeps.bind fun _ => keeps_pure _
  | .call name arguments _ _ =>
    (Expr.keeps_evaluateAll calls arguments).bind fun _ => keeps_callNamed calls name _
  | .list elements _ _ => (Expr.keeps_evaluateAll calls elements).bind fun _ => keeps_pure _

theorem Expr.keeps_evaluateAll (calls : call.Keeps) :
    (exprs : List Expr) → (Expr.evaluateAll call exprs).Keeps
  | [] => keeps_pure _
  | first :: rest =>
    (first.keeps_evaluate calls).bind fun _ => (Expr.keeps_evaluateAll calls rest).bind fun _ =>
      keeps_pure _

end

variable (calls : call.Keeps)

include calls

theorem Eval.keeps_condition (test : Expr) : (condition call test).Keeps := by
  refine (test.keeps_evaluate calls).bind fun value => ?_
  split
  · exact keeps_pure _
  · exact keeps_fail _

theorem Eval.keeps_assign (receiver value : Expr) : (assign call receiver value).Keeps := by
  unfold assign
  split
  · exact (value.keeps_evaluate calls).bind fun _ => (reads_cell _).keeps.bind fun _ =>
      keeps_store _ _
  · exact (value.keeps_evaluate calls).bind fun _ => (reads_cell _).keeps.bind fun _ =>
      (Expr.keeps_evaluate calls _).bind fun _ => (reads_items _ _).keeps.bind fun _ =>
        (reads_slot _ _).keeps.bind fun _ => keeps_store _ _
  · exact keeps_fail _

theorem Stmt.keepsOuter_execute {fuel : Nat} {statement : Stmt}
    (keeps : statement.isDeclaration = false → (statement.execute call fuel).Keeps) :
    (statement.execute call fuel).KeepsOuter := by
  cases statement with
  | declaration name typeName value binding =>
    have tail : ∀ value, (do define name value; return Control.next : Eval Control).KeepsOuter :=
      fun value => (keepsOuter_define name value).bind fun _ => (keeps_pure _).outer
    unfold Stmt.execute
    cases value with
    | some value => exact (value.keeps_evaluate calls).outer.bind tail
    | none => exact (keeps_pure _).outer.bind tail
  | expression | assignment | conditional | loop | switch | returns => exact (keeps rfl).outer

mutual

theorem Stmt.keeps_execute (fuel : Nat) : (statement : Stmt) → statement.isDeclaration = false →
    (statement.execute call fuel).Keeps
  | .expression value, _ => by
    unfold Stmt.execute
    exact ((value.keeps_evaluate calls).bind fun _ => keeps_pure _).bind fun _ => keeps_pure _
  | .assignment receiver value, _ =>
    (keeps_assign calls receiver value).bind fun _ => keeps_pure _
  | .conditional test thenBody elseBody, _ => by
    unfold Stmt.execute
    refine (keeps_condition calls test).bind fun holds => ?_
    cases holds with
    | true => exact keeps_inScope (Stmt.keepsOuter_executeAll fuel thenBody)
    | false => exact keeps_inScope (Stmt.keepsOuter_executeAll fuel elseBody)
  | .loop test body, _ =>
    keeps_repeatWhile (keeps_condition calls test)
      (keeps_inScope (Stmt.keepsOuter_executeAll fuel body)) fuel
  | .switch value cases, _ =>
    (value.keeps_evaluate calls).bind fun found => Case.keeps_select fuel found cases
  | .returns value, _ => (value.keeps_evaluate calls).bind fun _ => keeps_pure _

theorem Stmt.keepsOuter_executeAll (fuel : Nat) :
    (statements : List Stmt) → (Stmt.executeAll call fuel statements).KeepsOuter
  | [] => (keeps_pure _).outer
  | first :: rest => by
    unfold Stmt.executeAll
    refine (Stmt.keepsOuter_execute calls (Stmt.keeps_execute fuel first)).bind fun control => ?_
    cases control with
    | next => exact Stmt.keepsOuter_executeAll fuel rest
    | returning value => exact (keeps_pure _).outer

theorem Case.keeps_select (fuel : Nat) (value : Value) :
    (cases : List Case) → (Case.select call fuel value cases).Keeps
  | [] => keeps_pure _
  | .matching candidate body :: rest => by
    unfold Case.select
    refine (candidate.keeps_evaluate calls).bind fun found => ?_
    split
    · exact keeps_inScope (Stmt.keepsOuter_executeAll fuel body)
    · exact Case.keeps_select fuel value rest
  | .otherwise body :: _ => keeps_inScope (Stmt.keepsOuter_executeAll fuel body)

end

end calls

/-- A call leaves the scopes of the caller alone, however deep it goes and however it ends. -/
theorem Callable.keeps_invoke (fuel : Nat) : Call.Keeps (Callable.invoke fuel) := by
  induction fuel with
  | zero => exact fun _ _ => keeps_throw _
  | succ fuel ih =>
    intro callable arguments
    cases callable with
    | print => exact (keeps_printLine _).bind fun _ => keeps_pure _
    | declared function scope =>
      unfold Callable.invoke
      -- Parameters and declarations are bound in the scope of the call, which is left behind.
      have body : (inChild scope do
          modify fun machine => machine.defineAll (function.parameters.zip arguments)
          Stmt.executeAll (Callable.invoke fuel) fuel function.body).Keeps := by
        refine keeps_inChild scope (KeepsOuter.bind ?_ fun _ =>
          Stmt.keepsOuter_executeAll ih fuel function.body)
        exact fun machine => machine.keepsOuter_defineAll _
      split
      · exact keeps_fail _
      · refine keeps_get.bind fun machine => ?_
        split
        · exact keeps_fail _
        · refine body.bind fun control => ?_
          cases control with
          | next => exact keeps_pure _
          | returning value => exact keeps_pure _

end Primer
