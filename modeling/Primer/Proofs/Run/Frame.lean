import Primer.Proofs.Run.Footprint

/-! Expressions leave local variables alone.

A variable has a cell of its own. What is evaluated may call functions, and these may assign to
variables; but the body of a function reaches the scopes that it made itself and the global one. So
of all cells that were there before, only those of global variables can hold another value behind an
expression, whatever it calls and however it ends.
-/

set_option autoImplicit false

namespace Primer

open Eval

/-! ### Bindings -/

namespace Machine

def Binds (machine : Machine) (number : Nat) (name : String) (cell : Nat) : Prop :=
  (machine.scopes.boundVariables number).lookup name = some cell

/-- Every variable has a cell that no other one has. -/
structure Separate (machine : Machine) : Prop where
  inside : ∀ {number name cell}, machine.Binds number name cell → cell < machine.cells.size
  distinct : ∀ {number other name also cell}, machine.Binds number name cell →
    machine.Binds other also cell → number = other ∧ name = also

section bindings

variable {machine after : Machine} {number cell : Nat} {name : String}

theorem binds_of_getVariable? (found : machine.scopes.getVariable? name = some cell) :
    ∃ number ∈ machine.scopes.current.numbers, machine.Binds number name cell := by
  rw [Environment.getVariable?_eq] at found
  exact List.exists_of_findSome?_eq_some found

theorem binds_inside {outer : Chain} :
    (machine.inside outer).Binds number name cell ↔ machine.Binds number name cell := by
  unfold Binds
  rw [boundVariables_inside]

theorem not_binds_size : ¬ machine.Binds machine.scopes.scopes.size name cell := by
  simp [Binds]

/-- What a declaration binds is the newest cell. -/
theorem binds_define {added : String} {value : Value}
    (binds : (machine.define added value).Binds number name cell) :
    (number = machine.scopes.current.top ∧ name = added ∧ cell = machine.cells.size) ∨
      machine.Binds number name cell := by
  unfold Binds at binds
  change (Environment.boundVariables (machine.scopes.defineVariable _ _) _).lookup _ = _ at binds
  rw [Environment.boundVariables_defineVariable] at binds
  split at binds
  · next top =>
    rcases List.lookup_cons_eq_some.mp binds with ⟨named, newest⟩ | ⟨-, older⟩
    · exact .inl ⟨top.1, named, newest.symm⟩
    · exact .inr older
  · exact .inr binds

theorem Separate.inside_scope (separate : machine.Separate) (outer : Chain) :
    (machine.inside outer).Separate where
  inside binds := separate.inside (binds_inside.mp binds)
  distinct binds also := separate.distinct (binds_inside.mp binds) (binds_inside.mp also)

theorem Separate.define (separate : machine.Separate) (added : String) (value : Value) :
    (machine.define added value).Separate where
  inside binds := by
    rw [size_define]
    rcases binds_define binds with ⟨-, -, newest⟩ | older
    · omega
    · exact Nat.lt_succ_of_lt (separate.inside older)
  distinct binds also := by
    rcases binds_define binds with ⟨top, named, newest⟩ | older <;>
      rcases binds_define also with ⟨alsoTop, alsoNamed, alsoNewest⟩ | alsoOlder
    · exact ⟨top.trans alsoTop.symm, named.trans alsoNamed.symm⟩
    · have inside := separate.inside alsoOlder
      omega
    · have inside := separate.inside older
      omega
    · exact separate.distinct older alsoOlder

end bindings

/-! ### What is spared -/

/-- The cells of `before` are spared, those of variables in open scopes apart, and no further
variable has come by one of them. -/
structure Spares (isOpen : Nat → Prop) (before after : Machine) : Prop where
  current : after.scopes.current = before.scopes.current
  size : before.cells.size ≤ after.cells.size
  cells : ∀ cell < before.cells.size,
    (∀ number name, isOpen number → ¬ before.Binds number name cell) →
    after.cells[cell]? = before.cells[cell]?
  older : ∀ number name, ∀ cell < before.cells.size, after.Binds number name cell →
    before.Binds number name cell
  separate : before.Separate → after.Separate

namespace Spares

variable {isOpen : Nat → Prop} {machine after first second third : Machine}

theorem refl (machine : Machine) : Spares isOpen machine machine where
  current := rfl
  size := Nat.le_refl _
  cells _ _ _ := rfl
  older _ _ _ _ binds := binds
  separate := id

theorem trans (left : Spares isOpen first second) (right : Spares isOpen second third) :
    Spares isOpen first third where
  current := right.current.trans left.current
  size := Nat.le_trans left.size right.size
  cells cell inside closed := by
    have kept := left.cells cell inside closed
    rw [← kept]
    -- An open scope that binds the cell now did so before.
    apply right.cells cell (Nat.lt_of_lt_of_le inside left.size)
    exact fun number name opened binds =>
      closed number name opened (left.older number name cell inside binds)
  older number name cell inside binds :=
    left.older number name cell inside
      (right.older number name cell (Nat.lt_of_lt_of_le inside left.size) binds)
  separate := right.separate ∘ left.separate

theorem mono {larger : Nat → Prop} (spares : Spares isOpen machine after)
    (inclusion : ∀ number, isOpen number → larger number) : Spares larger machine after where
  current := spares.current
  size := spares.size
  cells cell inside closed :=
    spares.cells cell inside fun number name opened => closed number name (inclusion number opened)
  older := spares.older
  separate := spares.separate

theorem define (machine : Machine) (name : String) (value : Value) :
    Spares isOpen machine (machine.define name value) where
  current := rfl
  size := by simp
  cells cell inside _ := by
    unfold Machine.define
    rw [Array.getElem?_push_lt inside, Array.getElem?_eq_getElem inside]
  older number other cell inside binds := by
    rcases binds_define binds with ⟨-, -, newest⟩ | older
    · omega
    · exact older
  separate separate := separate.define name value

theorem defineAll (machine : Machine) (bindings : List (String × Value)) :
    Spares isOpen machine (machine.defineAll bindings) := by
  induction bindings generalizing machine with
  | nil => exact .refl machine
  | cons binding rest ih => exact (define machine binding.1 binding.2).trans (ih _)

theorem store (spares : Spares isOpen machine after) {number cell : Nat} {name : String}
    (opened : isOpen number) (binds : machine.Binds number name cell) (value : Value) :
    Spares isOpen machine { after with cells := after.cells.setIfInBounds cell value } where
  current := spares.current
  size := by
    rw [Array.size_setIfInBounds]
    exact spares.size
  cells other inside closed := by
    have different : cell ≠ other := by
      rintro rfl
      exact closed number name opened binds
    rw [Array.getElem?_setIfInBounds_ne different]
    exact spares.cells other inside closed
  older := spares.older
  separate separate :=
    have kept := spares.separate separate
    { inside := fun binds => by
        rw [Array.size_setIfInBounds]
        exact kept.inside binds
      distinct := kept.distinct }

theorem left {outer : Chain}
    (inner : Spares (fun number => number = 0 ∨
      number ∈ (machine.inside outer).scopes.current.numbers) (machine.inside outer) after) :
    Spares (fun number => number = 0 ∨ number ∈ outer.numbers) machine
      (after.comeBack machine.scopes.current) where
  current := rfl
  size := inner.size
  cells cell inside closed := by
    apply inner.cells cell inside
    intro number name opened binds
    have bound := binds_inside.mp binds
    rcases opened with root | here
    · exact closed number name (.inl root) bound
    -- The new scope is the only one that is not outside as well, and it binds nothing yet.
    rcases List.mem_cons.mp here with rfl | outside
    · exact not_binds_size bound
    · exact closed number name (.inr outside) bound
  older number name cell inside binds := binds_inside.mp (inner.older number name cell inside binds)
  separate separate :=
    have kept := inner.separate (separate.inside_scope outer)
    { inside := kept.inside, distinct := kept.distinct }

end Spares

end Machine

/-! ### The footprint -/

/-- Expressions change global variables at most, statements also those that they can see. -/
def Footprint.sparing : Footprint where
  moment _ machine := machine.Regular
  ready _ _ machine := machine.Regular
  evaluated machine := machine.Spares (· = 0)
  executed machine := machine.Spares fun number =>
    number = 0 ∨ number ∈ machine.scopes.current.numbers

theorem Footprint.lawful_sparing : sparing.Lawful where
  turn regular step := Machine.Regular.step regular step
  again regular holds ends :=
    Machine.Regular.of_grows (Machine.Regular.of_grows regular holds.keeps) ends.keeps
  arguments regular yield := Machine.Regular.of_grows regular yield.keeps
  enters regular entered := Machine.Regular.entered regular entered
  refl machine := .refl machine
  evaluated_trans left right := .trans left right
  executed_trans {first second third} left right := by
    -- Both see the same scopes.
    change Machine.Spares _ second third at right
    rw [Machine.Spares.current left] at right
    exact .trans left right
  executed spares := spares.mono fun _ => .inl
  printed machine _ :=
    { Machine.Spares.refl machine with
      separate := fun separate => ⟨separate.inside, separate.distinct⟩ }
  defined _ _ := .define _ _ _
  stored _ found value := by
    obtain ⟨number, here, binds⟩ := Machine.binds_of_getVariable? found
    exact (Machine.Spares.refl _).store (.inr here) binds value
  replaced _ found spares _ _ _ := by
    obtain ⟨number, here, binds⟩ := Machine.binds_of_getVariable? found
    exact (Machine.Spares.mono spares fun _ => .inl).store (.inr here) binds _
  left inner := .left inner
  called {name values machine function inner after} regular entered executed := by
    have started : Machine.Spares (fun _ => False) (machine.inside Chain.root) inner := by
      rw [Machine.Regular.of_enters regular entered]
      exact .defineAll _ _
    change Machine.Spares _ inner after at executed
    rw [started.current] at executed
    have body := (started.mono fun _ => False.elim).trans executed
    -- Outside the scope of the body there is only the global one.
    apply body.left.mono
    rintro number (root | root)
    · exact root
    · exact List.mem_singleton.mp root

/-! ### Machines that operations leave and go through -/

/-- The machines between operations. Programs and statements need not have been checked, and no
operation has to succeed. -/
inductive Machine.Idle (console : Console) : Machine → Prop where
  | new : Idle console (.initial console)
  | load {machine : Machine} (earlier : Idle console machine) (program : Program) (fuel : Nat) :
    Idle console ((loadProgram fuel program).after machine)
  | run {machine : Machine} (earlier : Idle console machine) (program : Program) (fuel : Nat) :
    Idle console ((runProgram fuel program).after machine)
  | call {machine : Machine} (earlier : Idle console machine) (name : String)
      (arguments : List Value) (fuel : Nat) :
    Idle console ((call fuel name arguments).after machine)
  | execute {machine : Machine} (earlier : Idle console machine) (statement : Stmt) (fuel : Nat) :
    Idle console ((statement.execute (Callable.invoke fuel) fuel).after machine)

inductive Machine.Occurs (console : Console) : Machine → Prop where
  | idle {machine : Machine} (idle : Idle console machine) : Occurs console machine
  | loaded {start machine after : Machine} {earlier : List Global} {fuel : Nat} {value : Expr}
      {part : Part Value} (idle : Idle console start)
      (loads : earlier.forM (loadGlobal fuel) start = .ok () machine)
      (later : Later (.value value) machine part after) : Occurs console after
  | called {start inner after : Machine} {name : String} {arguments : List Value}
      {function : Function} {part : Part Value} (idle : Idle console start)
      (enters : start.Enters name arguments function inner)
      (later : Later (.statements function.body) inner part after) : Occurs console after
  | executed {start after : Machine} {statement : Stmt} {part : Part Value}
      (idle : Idle console start) (later : Later (.statement statement) start part after) :
    Occurs console after

namespace Machine

structure Settled (machine : Machine) : Prop where
  top : machine.AtTop
  regular : machine.Regular
  separate : machine.Separate

namespace Settled

variable {machine after : Machine} {α : Type}

theorem initial (console : Console) : (Machine.initial console).Settled where
  top := atTop_initial console
  regular :=
    { rooted := (atTop_initial console).rooted
      loaded := fun looked => by
        obtain ⟨-, rfl⟩ := Callable.of_lookup_builtIn looked
        trivial }
  separate :=
    have unbound : ∀ {number name cell}, ¬ (Machine.initial console).Binds number name cell := by
      intro number name cell
      have empty : (Machine.initial console).scopes.boundVariables number = [] := by
        cases number <;> rfl
      simp [Binds, empty]
    { inside := fun binds => absurd binds unbound
      distinct := fun binds => absurd binds unbound }

theorem of_work (settled : machine.Settled) {work : Eval α} (keeps : work.KeepsOuter)
    (executed : Footprint.sparing.executed machine (work.after machine)) :
    (work.after machine).Settled where
  top := settled.top.of_keepsOuter (keeps machine)
  regular := settled.regular.of_grows (keeps machine)
  separate := executed.separate settled.separate

theorem loadGlobal (settled : machine.Settled) (fuel : Nat) (global : Global) :
    ((Eval.loadGlobal fuel global).after machine).Settled := by
  have lawful := Footprint.lawful_sparing
  apply settled.of_work (keepsOuter_loadGlobal fuel global)
  have value := lawful.evaluated_initialValue (lawful.calls fuel) fun given
    (_ : global.value = some given) => settled.regular
  apply lawful.executed_bind (lawful.executed value)
  intro found middle _
  exact Spares.define middle global.name found

theorem loadGlobals (settled : machine.Settled) (fuel : Nat) (globals : List Global) :
    ((globals.forM (Eval.loadGlobal fuel)).after machine).Settled := by
  induction globals generalizing machine with
  | nil => exact settled
  | cons first rest ih =>
    apply holds_bind (settled.loadGlobal fuel first)
    exact fun _ middle _ one => ih one

theorem load (settled : machine.Settled) (functions : List Function) :
    (machine.load functions).Settled := by
  induction functions generalizing machine with
  | nil => exact settled
  | cons first rest ih =>
    obtain ⟨top, -, functions⟩ := settled.top.load [first]
    -- A function takes no cell, and calls of it lead to the global scope.
    have same : ∀ {number name cell}, (machine.load [first]).Binds number name cell →
        machine.Binds number name cell := by
      intro number name cell binds
      unfold Binds at binds ⊢
      rwa [← Environment.boundVariables_defineFunction]
    have one : (machine.load [first]).Settled :=
      { top
        regular :=
          { rooted := top.rooted
            loaded := fun looked => by
              rw [functions] at looked
              rcases List.lookup_cons_eq_some.mp looked with ⟨-, rfl⟩ | ⟨-, older⟩
              · exact rfl
              · exact settled.regular.loaded older }
        separate :=
          { inside := fun binds => settled.separate.inside (same binds)
            distinct := fun binds also => settled.separate.distinct (same binds) (same also) } }
    exact ih one

theorem loadProgram (settled : machine.Settled) (fuel : Nat) (program : Program) :
    ((Eval.loadProgram fuel program).after machine).Settled := by
  rw [loadProgram_eq]
  apply holds_bind (settled.loadGlobals fuel program.globals)
  exact fun _ middle _ globals => globals.load program.functions

theorem call (settled : machine.Settled) (fuel : Nat) (name : String) (arguments : List Value) :
    ((Eval.call fuel name arguments).after machine).Settled := by
  have lawful := Footprint.lawful_sparing
  apply settled.of_work (keeps_callNamed (Callable.keeps_invoke fuel) name arguments).outer
  exact lawful.executed (lawful.calls fuel name arguments machine settled.regular)

theorem runProgram (settled : machine.Settled) (fuel : Nat) (program : Program) :
    ((Eval.runProgram fuel program).after machine).Settled := by
  rw [runProgram_eq]
  apply holds_bind (settled.loadProgram fuel program)
  intro _ loaded _ ready
  apply holds_bind (ready.call fuel "main" [])
  intro value last _ called
  -- What follows the call only looks at the machine.
  rw [reads_flush.bind fun _ => reads_exitCode value]
  exact called

theorem execute (settled : machine.Settled) (fuel : Nat) (statement : Stmt) :
    ((statement.execute (Callable.invoke fuel) fuel).after machine).Settled := by
  have lawful := Footprint.lawful_sparing
  have calls := Callable.keeps_invoke fuel
  apply settled.of_work (Stmt.keepsOuter_execute calls (Stmt.keeps_execute calls fuel statement))
  exact lawful.executes_statement (lawful.calls fuel) statement machine settled.regular

end Settled

theorem Idle.settled {console : Console} {machine : Machine} (idle : Idle console machine) :
    machine.Settled := by
  induction idle with
  | new => exact .initial console
  | load _ program fuel ih => exact ih.loadProgram fuel program
  | run _ program fuel ih => exact ih.runProgram fuel program
  | call _ name arguments fuel ih => exact ih.call fuel name arguments
  | execute _ statement fuel ih => exact ih.execute fuel statement

theorem Separate.entered {machine inner : Machine} (separate : machine.Separate)
    (regular : machine.Regular) {name : String} {values : List Value} {function : Function}
    (enters : machine.Enters name values function inner) : inner.Separate := by
  rw [regular.of_enters enters]
  have spares : Spares (fun _ => False) (machine.inside Chain.root) _ :=
    .defineAll _ (function.parameters.zip values)
  exact spares.separate (separate.inside_scope Chain.root)

theorem Separate.later {machine after : Machine} {part inner : Part Value}
    (separate : machine.Separate) (regular : machine.Regular)
    (later : Later part machine inner after) : after.Regular ∧ after.Separate := by
  apply Footprint.lawful_sparing.later _ _ _ later regular separate
  · exact fun executed separate => Spares.separate executed separate
  · exact fun separate => separate.inside_scope _
  · exact fun regular enters separate => separate.entered regular enters

theorem Occurs.holds {console : Console} {machine : Machine} (occurs : Occurs console machine) :
    machine.Regular ∧ machine.Separate := by
  cases occurs with
  | idle idle => exact ⟨idle.settled.regular, idle.settled.separate⟩
  | @loaded start _ _ earlier fuel _ _ idle loads later =>
    have settled := idle.settled.loadGlobals fuel earlier
    rw [after_of_ok loads] at settled
    exact settled.separate.later settled.regular later
  | called idle enters later =>
    have settled := idle.settled
    have separate := settled.separate.entered settled.regular enters
    exact separate.later (settled.regular.entered enters) later
  | executed idle later => exact idle.settled.separate.later idle.settled.regular later

theorem Binds.lt_size {machine : Machine} {number cell : Nat} {name : String}
    (binds : machine.Binds number name cell) : number < machine.scopes.scopes.size := by
  by_contra outside
  have missing : machine.scopes.scopes[number]? = none :=
    Array.getElem?_eq_none_iff.mpr (Nat.le_of_not_lt outside)
  simp [Binds, Environment.boundVariables, missing] at binds

/-- No two variables share a cell, and no cell changes in the evaluation of an expression, those of
global variables apart: all other variables keep their cells and their values, whichever function
they belong to. -/
theorem Occurs.evaluate_spares {console : Console} {machine : Machine}
    (occurs : Occurs console machine) :
    (∀ number other name also cell, machine.Binds number name cell →
      machine.Binds other also cell → number = other ∧ name = also) ∧
    ∀ (expr : Expr) (fuel : Nat),
      (∀ cell < machine.cells.size, (∀ name, ¬ machine.Binds 0 name cell) →
        ((expr.evaluate (Callable.invoke fuel)).after machine).cells[cell]? =
          machine.cells[cell]?) ∧
      ∀ number name cell, number ≠ 0 → machine.Binds number name cell →
        ((expr.evaluate (Callable.invoke fuel)).after machine).Binds number name cell ∧
        ∃ value, machine.cells[cell]? = some value ∧
          ((expr.evaluate (Callable.invoke fuel)).after machine).cells[cell]? = some value := by
  obtain ⟨regular, separate⟩ := occurs.holds
  refine ⟨fun _ _ _ _ _ => separate.distinct, fun expr fuel => ?_⟩
  have lawful := Footprint.lawful_sparing
  have spares : machine.Spares (· = 0) _ :=
    lawful.evaluates (lawful.calls fuel) expr machine regular
  have spared : ∀ cell < machine.cells.size, (∀ name, ¬ machine.Binds 0 name cell) →
      ((expr.evaluate (Callable.invoke fuel)).after machine).cells[cell]? =
        machine.cells[cell]? := by
    intro cell inside unbound
    apply spares.cells cell inside
    rintro _ name rfl
    exact unbound name
  refine ⟨spared, fun number name cell inner binds => ⟨?_, ?_⟩⟩
  · have keeps := expr.keeps_evaluate (Callable.keeps_invoke fuel) machine
    unfold Binds
    rw [keeps.scopes.boundVariables number binds.lt_size id]
    exact binds
  · have inside := separate.inside binds
    refine ⟨machine.cells[cell], Array.getElem?_eq_getElem inside, ?_⟩
    rw [spared cell inside, Array.getElem?_eq_getElem inside]
    -- The cell has a local variable already.
    exact fun other also => inner (separate.distinct binds also).1

end Machine

namespace Sample

/-- A function that assigns to its parameter and then calls itself. -/
def countdown : Program where
  globals := []
  functions :=
    [{ name := "down", parameters := ["n"], parameterTypes := ["Integer"]
       returnTypeName := some "Integer", binding := none
       body :=
        [.assignment (.named "n" none none)
            (.binary .subtract (.named "n" none none) (.literal (.integer 1) none) none),
          .conditional (.binary .less (.literal (.integer 0) none) (.named "n" none none) none)
            [.returns (.call "down" [.named "n" none none] none none)] [],
          .returns (.named "n" none none)] }]

def down : Expr :=
  .call "down" [.named "n" none none] none none

end Sample

/-- In an activation with the parameter 2, a further call that counts down leaves it alone. -/
theorem Sample.down_spares_parameter :
    ∃ machine after, Machine.Occurs {} machine ∧ machine.Binds 1 "n" 0 ∧
      machine.cells[0]? = some (.integer 2) ∧
      Sample.down.evaluate (Callable.invoke 3) machine = .ok (.integer 0) after ∧
      after.Binds 1 "n" 0 ∧ after.cells[0]? = some (.integer 2) := by
  have start : Machine.Idle {} (.initial {}) := .new
  have enters : Machine.Enters ((Eval.loadProgram 1 Sample.countdown).after (.initial {})) "down"
      [.integer 2] _ _ := ⟨Chain.root, rfl, rfl, rfl, rfl⟩
  have occurs := Machine.Occurs.called (start.load Sample.countdown 1) enters .now
  refine ⟨_, _, occurs, rfl, rfl, rfl, ?_⟩
  obtain ⟨kept, value, before, behind⟩ :=
    (occurs.evaluate_spares.2 Sample.down 3).2 1 "n" 0 Nat.one_ne_zero rfl
  cases before
  exact ⟨kept, behind⟩

end Primer
