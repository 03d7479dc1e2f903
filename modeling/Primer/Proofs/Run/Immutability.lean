import Primer.Proofs.Run.Frame
import Primer.Proofs.Run.Loading

/-! What cannot be assigned to stays as it is.

Whether a variable may be assigned to is decided by checking, from the declaration that it finds for
the name; what is assigned to is the cell that the name leads to in the run. At each assignment the
two belong together, so the cell of an immutable global is never assigned to, and where a list is,
an element takes the place of another one. Both holds along whole runs, whatever is called and
whatever shadows what.
-/

set_option autoImplicit false

namespace Primer

open Eval

/-! ### Steady machines -/

/-- The cells in `fixed` hold what they held, and sequences are as long as they were. -/
structure Machine.Steady (fixed : Nat → Prop) (before after : Machine) : Prop where
  bindings : ∀ {number binding}, binding ∈ before.scopes.boundVariables number →
    binding ∈ after.scopes.boundVariables number
  lists : ∀ {cell : Nat} {items : List Value}, before.cells[cell]? = some (.sequence items) →
    ∃ held, after.cells[cell]? = some (.sequence held) ∧ held.length = items.length
  fixed : ∀ {cell : Nat} {value : Value}, fixed cell → before.cells[cell]? = some value →
    after.cells[cell]? = some value

namespace Machine.Steady

variable {fixed : Nat → Prop} {machine first second third : Machine}

theorem refl (machine : Machine) : Steady fixed machine machine where
  bindings := id
  lists held := ⟨_, held, rfl⟩
  fixed _ held := held

theorem trans (left : Steady fixed first second) (right : Steady fixed second third) :
    Steady fixed first third where
  bindings member := right.bindings (left.bindings member)
  lists held := by
    obtain ⟨items, between, same⟩ := left.lists held
    obtain ⟨last, behind, also⟩ := right.lists between
    exact ⟨last, behind, also.trans same⟩
  fixed isFixed held := right.fixed isFixed (left.fixed isFixed held)

theorem inside (machine : Machine) (outer : Chain) :
    Steady fixed machine (machine.inside outer) where
  bindings member := by
    rw [boundVariables_inside]
    exact member
  lists held := ⟨_, held, rfl⟩
  fixed _ held := held

theorem comeBack (machine : Machine) (chain : Chain) :
    Steady fixed machine (machine.comeBack chain) where
  bindings := id
  lists held := ⟨_, held, rfl⟩
  fixed _ held := held

theorem define (machine : Machine) (name : String) (value : Value) :
    Steady fixed machine (machine.define name value) := by
  have kept : ∀ {cell : Nat} {held : Value}, machine.cells[cell]? = some held →
      (machine.define name value).cells[cell]? = some held := by
    intro cell held before
    have inside := (Array.getElem?_eq_some_iff.mp before).1
    unfold Machine.define
    rw [Array.getElem?_push_lt inside, ← before, Array.getElem?_eq_getElem inside]
  refine ⟨fun {number binding} member => ?_, fun held => ⟨_, kept held, rfl⟩, fun _ => kept⟩
  change binding ∈ (machine.scopes.defineVariable _ _).boundVariables number
  rw [Environment.boundVariables_defineVariable]
  split
  · exact List.mem_cons_of_mem _ member
  · exact member

theorem defineAll (machine : Machine) (bindings : List (String × Value)) :
    Steady fixed machine (machine.defineAll bindings) := by
  induction bindings generalizing machine with
  | nil => exact .refl machine
  | cons binding rest ih => exact (define machine binding.1 binding.2).trans (ih _)

theorem store {cell : Nat} {value : Value} (free : ¬ fixed cell)
    (long : ∀ items, machine.cells[cell]? = some (.sequence items) →
      ∃ held, value = .sequence held ∧ held.length = items.length) :
    Steady fixed machine { machine with cells := machine.cells.setIfInBounds cell value } where
  bindings := id
  lists {other items} held := by
    by_cases same : cell = other
    · subst same
      obtain ⟨items, rfl, also⟩ := long _ held
      have inside := (Array.getElem?_eq_some_iff.mp held).1
      exact ⟨items, Array.getElem?_setIfInBounds_self_of_lt inside, also⟩
    · exact ⟨items, (Array.getElem?_setIfInBounds_ne same).trans held, rfl⟩
  fixed {other _} isFixed held := by
    have different : cell ≠ other := by
      rintro rfl
      exact free isFixed
    exact (Array.getElem?_setIfInBounds_ne different).trans held

theorem entered {name : String} {values : List Value} {function : Function} {inner : Machine}
    (regular : machine.Regular) (enters : machine.Enters name values function inner) :
    Steady fixed machine inner := by
  rw [regular.of_enters enters]
  exact (Steady.inside machine Chain.root).trans (.defineAll _ _)

end Machine.Steady

/-! ### Declarations -/

theorem Expr.Begins.ends {name : String} {typeName : Option String} {value : Option Expr}
    {binding : Option Variable} {machine after : Machine} {found : Value}
    (begins : Expr.Begins value machine found after) :
    Stmt.Ends (.declaration name typeName value binding) machine .next
      (after.define name found) := by
  obtain ⟨fuel, began⟩ := begins
  refine ⟨fuel, ?_⟩
  rw [Stmt.execute_declaration]
  exact EStateM.bind_eq_ok.mpr ⟨found, after, began, rfl⟩

theorem Expr.length_of_evaluateAll {call : Call} {exprs : List Expr} {machine after : Machine}
    {values : List Value} (ran : Expr.evaluateAll call exprs machine = .ok values after) :
    values.length = exprs.length := by
  induction exprs generalizing machine values with
  | nil =>
    cases ran
    rfl
  | cons first rest ih =>
    unfold Expr.evaluateAll at ran
    obtain ⟨value, middle, -, ran⟩ := EStateM.bind_eq_ok.mp ran
    obtain ⟨others, last, restRan, ran⟩ := EStateM.bind_eq_ok.mp ran
    cases ran
    exact congrArg Nat.succ (ih restRan)

theorem Expr.Begins.list {elements : List Expr} {elementType type : Option Ty}
    {machine after : Machine} {found : Value}
    (begins : Expr.Begins (some (.list elements elementType type)) machine found after) :
    ∃ items, found = .sequence items ∧ items.length = elements.length := by
  obtain ⟨fuel, ran⟩ := begins
  change Expr.evaluate _ _ _ = _ at ran
  unfold Expr.evaluate at ran
  obtain ⟨items, last, all, ran⟩ := EStateM.bind_eq_ok.mp ran
  cases ran
  exact ⟨items, rfl, Expr.length_of_evaluateAll all⟩

theorem Variable.Initial.given_list {names : Names} {binding : Variable}
    {value typed : Option Expr} (initial : Variable.Initial names binding value typed)
    (list : binding.isList = true) :
    ∃ elements elementType type, typed = some (.list elements elementType type) := by
  cases initial with
  | missing single | single single =>
    rw [list] at single
    cases single
  | list => exact ⟨_, _, _, rfl⟩

/-! ### Cells of immutable globals -/

theorem Bindings.Agree.related_of_split {V W : Type} {related : Nat → V → W → Prop}
    {newer older : List (String × V)} {newerImages olderImages : List (String × W)}
    {name other : String} {value : V} {image : W}
    (agree : Bindings.Agree related (newer ++ (name, value) :: older)
      (newerImages ++ (other, image) :: olderImages))
    (same : older.length = olderImages.length) : related older.length value image := by
  induction newer generalizing newerImages with
  | nil =>
    cases newerImages with
    | nil => exact agree.2.1
    | cons =>
      have counted := agree.length_eq
      simp only [List.nil_append, List.length_cons, List.length_append] at counted
      omega
  | cons first newer ih =>
    cases newerImages with
    | nil =>
      have counted := agree.length_eq
      simp only [List.nil_append, List.length_cons, List.length_append] at counted
      omega
    | cons image newerImages => exact ih agree.2.2

/-- The cell in the table stands where checking has a variable that is neither mutable nor a
list. -/
def Bindings.Fixed (names : List (String × Variable)) (table : List (String × Nat)) (cell : Nat) :
    Prop :=
  ∃ name other binding newer older newerCells olderCells,
    names = newer ++ (name, binding) :: older ∧
      table = newerCells ++ (other, cell) :: olderCells ∧ older.length = olderCells.length ∧
      binding.mutable = false ∧ binding.isList = false

theorem Fits.fixed {discipline : Discipline} {setting : Setting} {names : Names}
    {kinds : List Variable} {machine : Machine}
    (fits : Fits discipline setting names kinds machine) {cell : Nat}
    (fixed : Bindings.Fixed setting.globals (machine.scopes.boundVariables 0) cell) :
    ∃ binding, kinds[cell]? = some binding ∧ binding.mutable = false ∧ binding.isList = false := by
  obtain ⟨name, other, binding, newer, older, newerCells, olderCells, static, dynamic, counted,
    immutable, single⟩ := fixed
  have level := fits.agree.root fits.static fits.dynamic
  rw [fits.globals, static, dynamic] at level
  exact ⟨binding, level.related_of_split counted, immutable, single⟩

theorem Discipline.not_admits_sequence {discipline : Discipline} {type : Ty} {items : List Value} :
    ¬ discipline.Admits type (.sequence items) := by
  rintro (admitted | ⟨-, stray⟩)
  · cases admitted
  · cases stray

/-! ### Functions inside the global scope -/

structure Machine.Within (table : List (String × Nat)) (machine : Machine) : Prop where
  regular : machine.Regular
  inner : machine.scopes.current.top ≠ 0
  bound : machine.scopes.boundVariables 0 = table

namespace Machine.Within

variable {table : List (String × Nat)} {machine after : Machine}

theorem of_keepsOuter (within : machine.Within table) (keeps : machine.KeepsOuter after) :
    after.Within table where
  regular := within.regular.of_grows keeps
  inner := by
    rw [keeps.scopes.current]
    exact within.inner
  bound := by
    have rooted := within.regular.rooted
    rw [keeps.scopes.boundVariables 0 (rooted.lt_size rooted.root) within.inner.symm]
    exact within.bound

theorem block (within : machine.Within table) : machine.block.Within table where
  regular := within.regular.block
  inner := within.regular.rooted.push_ne_root
  bound := (boundVariables_inside _ _ 0).trans within.bound

theorem step (within : machine.Within table) {part inner : Part Value} {index : Nat}
    (step : Step part machine index inner after) : after.Within table :=
  step.preserves (fun keeps within => Within.of_keepsOuter within keeps) Within.block within

theorem entered (regular : machine.Regular) (bound : machine.scopes.boundVariables 0 = table)
    {name : String} {values : List Value} {function : Function} {inner : Machine}
    (enters : machine.Enters name values function inner) : inner.Within table := by
  have started : (machine.inside Chain.root).Within table :=
    { regular := regular.enter
      inner := Nat.ne_of_gt (regular.rooted.lt_size regular.rooted.root)
      bound := (boundVariables_inside _ _ 0).trans bound }
  rw [regular.of_enters enters]
  exact started.of_keepsOuter (keepsOuter_defineAll _ _)

end Machine.Within

/-! ### The footprint -/

/-- A run comes to the part, and the names that checking had there are those of the program. -/
def Program.Meant (program typed : Program) (last : Checker) (console : Console)
    (part : Part Value) (machine : Machine) : Prop :=
  ∃ place source checker, Reaches typed console place part machine ∧
    program.Knows .lenient typed last console place part machine source checker
      (.ofProgram typed last)

/-- Behind the loading, machines stay steady. -/
def Footprint.steady (program typed : Program) (last : Checker) (console : Console)
    (table : List (String × Nat)) : Footprint where
  moment part machine := machine.Within table ∧ program.Meant typed last console part machine
  ready name values machine :=
    machine.Regular ∧ machine.scopes.boundVariables 0 = table ∧
      ∀ function inner, machine.Enters name values function inner →
        program.Meant typed last console (.statements function.body) inner
  evaluated := Machine.Steady (Bindings.Fixed (last.names.boundVariables 0) table)
  executed := Machine.Steady (Bindings.Fixed (last.names.boundVariables 0) table)

section program

variable {program typed : Program} {loaded last : Checker} {console : Console}
  {table : List (String × Nat)} {machine : Machine}

/-- The cell of a single variable that is assigned to holds no list, and it is not fixed. -/
theorem Program.Meant.named {name : String} {bound : Option Variable} {type : Option Ty}
    {cell : Nat}
    (meant : program.Meant typed last console (.target (.named name bound type)) machine)
    (found : machine.scopes.getVariable? name = some cell) :
    ¬ Bindings.Fixed (last.names.boundVariables 0) (machine.scopes.boundVariables 0) cell ∧
      ∀ items, machine.cells[cell]? ≠ some (.sequence items) := by
  obtain ⟨place, source, checker, -, knows⟩ := meant
  obtain ⟨kinds, fits⟩ := knows.meets.fits
  cases knows.checks with
  | target checked =>
    obtain ⟨targetChecked, -, target⟩ := Check.of_receiver checked
    cases Expr.typed_of_check targetChecked with
    | @named _ _ _ binding looked single =>
      obtain ⟨number, here, made⟩ := fits.cell looked
      cases found.symm.trans here
      -- Checking has found the variable that the cell was made for, and let the assignment pass.
      have mutable : binding.mutable = true := by
        rcases target with ⟨_, _, _, same, mutable⟩ | ⟨_, _, _, _, other⟩
        · cases same
          exact mutable binding looked
        · cases other
      constructor
      · intro fixed
        obtain ⟨other, also, immutable, -⟩ := fits.fixed fixed
        cases made.symm.trans also
        rw [mutable] at immutable
        cases immutable
      · intro items held
        -- A single variable holds a value of its type, and no type has lists.
        obtain ⟨value, stored, holds⟩ := fits.stored.get made
        cases held.symm.trans stored
        exact Discipline.not_admits_sequence ((Discipline.holds_single single).mp holds)

theorem Program.Meant.element {name : String} {index : Expr} {bound : Option Variable}
    {type : Option Ty} {cell : Nat}
    (meant : program.Meant typed last console (.target (.element name index bound type)) machine)
    (found : machine.scopes.getVariable? name = some cell) :
    ¬ Bindings.Fixed (last.names.boundVariables 0) (machine.scopes.boundVariables 0) cell := by
  obtain ⟨place, source, checker, -, knows⟩ := meant
  obtain ⟨kinds, fits⟩ := knows.meets.fits
  cases knows.checks with
  | target checked =>
    obtain ⟨targetChecked, -⟩ := Check.of_receiver checked
    cases Expr.typed_of_check targetChecked with
    | element looked list =>
      obtain ⟨number, here, made⟩ := fits.cell looked
      cases found.symm.trans here
      intro fixed
      obtain ⟨other, also, -, single⟩ := fits.fixed fixed
      cases made.symm.trans also
      rw [list] at single
      cases single

theorem Program.Meant.given_list {name : String} {typeName : Option String} {value : Option Expr}
    {binding : Variable} {rest : List Stmt}
    (meant : program.Meant typed last console
      (.statements (.declaration name typeName value (some binding) :: rest)) machine)
    (list : binding.isList = true) :
    ∃ elements elementType type, value = some (.list elements elementType type) := by
  obtain ⟨place, source, checker, -, knows⟩ := meant
  cases knows.checks with
  | statements inBody checked =>
    cases Stmt.allTyped_of_checkAll checked with
    | cons firstChecked _ =>
      cases Stmt.typed_of_check firstChecked with
      | declaration declared =>
        obtain ⟨initial, -⟩ := Variable.initial_of_declare declared
        exact initial.given_list list

variable (passes : program.Passes typed loaded last)
  (proper : ∀ function ∈ program.functions, function.Proper)

include passes proper

theorem Footprint.lawful_steady : (steady program typed last console table).Lawful where
  turn := by
    rintro part inner machine after index ⟨within, place, source, checker, reaches, knows⟩ step
    have sound := knows.serves.sound passes proper (passes.suits_lenient proper)
    obtain ⟨sourceInner, next, further⟩ := knows.turn sound reaches step
    exact ⟨within.step step, _, sourceInner, next, reaches.turn step, further⟩
  again := by
    rintro test body machine between after ⟨within, place, source, checker, reaches, knows⟩ holds
      ends
    have sound := knows.serves.sound passes proper (passes.suits_lenient proper)
    have tested := within.of_keepsOuter holds.keeps.outer
    exact ⟨tested.of_keepsOuter ends.keeps.outer, place, source, checker,
      reaches.again holds ends, knows.again sound holds ends⟩
  arguments := by
    rintro name arguments binding type machine values after
      ⟨within, place, source, checker, reaches, knows⟩ yield
    have suits := passes.suits_lenient proper
    have sound := knows.serves.sound passes proper suits
    have behind := within.of_keepsOuter yield.keeps.outer
    obtain ⟨meets, admitted⟩ := knows.arguments sound yield
    refine ⟨behind.regular, behind.bound, fun function inner enters => ?_⟩
    -- A body is known from its own beginning, with the arguments as its parameters.
    have called := reaches.call yield enters
    obtain ⟨body, next, entered⟩ := passes.knows_of_enters proper suits knows.serves meets enters
      (fun signature bound _ => admitted function inner enters signature bound) called
    exact ⟨_, body, next, called, entered⟩
  enters ready enters :=
    ⟨Machine.Within.entered ready.1 ready.2.1 enters, ready.2.2 _ _ enters⟩
  refl := Machine.Steady.refl
  evaluated_trans := Machine.Steady.trans
  executed_trans := Machine.Steady.trans
  executed := id
  printed _ _ := ⟨id, fun held => ⟨_, held, rfl⟩, fun _ held => held⟩
  defined _ _ := .define _ _ _
  stored := by
    rintro name binding type machine cell ⟨within, meant⟩ found value
    obtain ⟨free, noList⟩ := meant.named found
    rw [within.bound] at free
    exact .store free fun items held => absurd held (noList items)
  replaced := by
    rintro name index binding type machine cell after items ⟨within, meant⟩ found evaluated held
      slot value
    have free := meant.element found
    rw [within.bound] at free
    refine .trans evaluated (.store free fun others also => ?_)
    -- The list is replaced by one with the same number of elements.
    cases held.symm.trans also
    exact ⟨_, rfl, List.length_set⟩
  left executed := (Machine.Steady.inside _ _).trans (.trans executed (.comeBack _ _))
  called ready enters executed :=
    (Machine.Steady.entered ready.1 enters).trans (.trans executed (.comeBack _ _))

theorem Footprint.later_steady {part inner : Part Value} {after : Machine}
    (later : Later part machine inner after)
    (here : (steady program typed last console table).moment part machine) :
    (steady program typed last console table).moment inner after ∧
      Machine.Steady (Bindings.Fixed (last.names.boundVariables 0) table) machine after := by
  have lawful : (steady program typed last console table).Lawful := lawful_steady passes proper
  apply lawful.later _ _ _ later here (Machine.Steady.refl machine)
  · exact fun executed kept => kept.trans executed
  · exact fun kept => kept.trans (.inside _ _)
  · exact fun ready enters kept => kept.trans (.entered ready.1 enters)

end program

/-! ### Moments behind the loading -/

def Machine.Comes (loaded : Machine) (part : Part Value) (machine : Machine) : Prop :=
  ∃ function inner, loaded.Enters "main" [] function inner ∧
    Later (.statements function.body) inner part machine

inductive Machine.Runs (loaded : Machine) : Machine → Prop where
  | start : Runs loaded loaded
  | moment {part : Part Value} {machine : Machine} (comes : loaded.Comes part machine) :
    Runs loaded machine
  | last (fuel : Nat) : Runs loaded ((runMain fuel).after loaded)

inductive Stmt.Passes (statements : List Stmt) (start : Machine) : Machine → Prop where
  | moment {part : Part Value} {machine : Machine}
      (later : Later (.statements statements) start part machine) : Passes statements start machine
  | last (fuel : Nat) :
    Passes statements start
      ((Stmt.executeAll (Callable.invoke fuel) fuel statements).after start)

def Machine.global? (machine : Machine) (name : String) : Option Value :=
  ((machine.scopes.boundVariables 0).lookup name).bind fun cell => machine.cells[cell]?

def Machine.HasList (machine : Machine) (number : Nat) (name : String) (cell length : Nat) : Prop :=
  (name, cell) ∈ machine.scopes.boundVariables number ∧
    ∃ items, machine.cells[cell]? = some (.sequence items) ∧ items.length = length

theorem Machine.HasList.steady {fixed : Nat → Prop} {before after : Machine}
    {number cell length : Nat} {name : String} (has : before.HasList number name cell length)
    (steady : Machine.Steady fixed before after) : after.HasList number name cell length := by
  obtain ⟨member, items, held, counted⟩ := has
  obtain ⟨others, also, same⟩ := steady.lists held
  exact ⟨steady.bindings member, others, also, same.trans counted⟩

/-! ### Globals as checking bound them -/

theorem Checker.bindings_of_globals {globals typed : List Global} {before after : Checker}
    (top : before.AtTop) (checked : globals.mapM Check.global before = .ok typed after) :
    after.AtTop ∧ ∃ newer, after.names.boundVariables 0 = newer ++ before.names.boundVariables 0 ∧
      newer.length = typed.length := by
  induction globals generalizing before typed with
  | nil =>
    cases checked
    exact ⟨top, [], rfl, rfl⟩
  | cons first rest ih =>
    obtain ⟨result, others, middle, head, tail, rfl⟩ := EStateM.mapM_cons_eq_ok.mp checked
    obtain ⟨_, binding, -, -, same⟩ := Check.of_global head
    have bound := Environment.boundVariables_defineVariable_top before.names first.name binding
      top.rooted.bounded
    rw [Chain.top_eq_zero top.current] at bound
    obtain ⟨lastTop, newer, bindings, counted⟩ := ih (top.of_global head) tail
    refine ⟨lastTop, newer ++ [(first.name, binding)], ?_, ?_⟩
    · rw [bindings, same, bound, List.append_assoc, List.singleton_append]
    · rw [List.length_append, counted]
      rfl

/-- What checking has made of a global. -/
theorem Program.Passes.global_bound {program typed : Program} {loaded last : Checker}
    (passes : program.Passes typed loaded last) {earlier later : List Global} {global : Global}
    (split : typed.globals = earlier ++ global :: later) :
    ∃ binding names value newer older, global.binding = some binding ∧
      binding.mutable = global.mutable ∧
      Variable.Initial names binding value global.value ∧
      last.names.boundVariables 0 = newer ++ (global.name, binding) :: older ∧
      older.length = earlier.length := by
  have checked := passes.globals
  -- As many names are bound before the global as there are globals in front of it.
  rw [split] at checked
  obtain ⟨sources, source, others, before, next, -, earlierChecked, globalChecked, laterChecked,
    -⟩ := EStateM.mapM_split checked
  obtain ⟨top, older, olderBound, olderCounted⟩ :=
    Checker.bindings_of_globals Checker.atTop_initial earlierChecked
  have nextTop := top.of_global globalChecked
  obtain ⟨value, binding, declared, rfl, same⟩ := Check.of_global globalChecked
  obtain ⟨-, newer, newerBound, -⟩ := Checker.bindings_of_globals nextTop laterChecked
  obtain ⟨initial, fields, -⟩ := Variable.initial_of_declare declared
  have bound := Environment.boundVariables_defineVariable_top before.names source.name binding
    top.rooted.bounded
  have unbound : Checker.initial.names.boundVariables 0 = [] := rfl
  rw [Chain.top_eq_zero top.current, olderBound, unbound, List.append_nil] at bound
  refine ⟨binding, _, _, newer, older, rfl, by rw [fields], initial, ?_, olderCounted⟩
  rw [passes.globals_last, newerBound, same, bound]

section runs

variable {tokens : List Token} {program typed : Program} {last checker : Checker}
  {console : Console} {fuel : Nat} {loaded machine : Machine}

theorem Program.Passes.ready (passes : program.Passes typed checker last)
    (proper : ∀ function ∈ program.functions, function.Proper)
    (loads : loadProgram fuel typed (.initial console) = .ok () loaded) :
    (Footprint.steady program typed last console (loaded.scopes.boundVariables 0)).ready "main" []
      loaded := by
  have suits := passes.suits_lenient proper
  have meets := passes.meets_of_loadProgram proper suits loads
  obtain ⟨kinds, fits⟩ := meets.fits
  refine ⟨⟨fits.dynamic, fun looked => ?_⟩, rfl, fun function inner enters => ?_⟩
  · rw [fits.functions] at looked
    rcases Callable.of_lookup_table looked with rfl | ⟨function, -, rfl, -⟩ <;> trivial
  · obtain ⟨source, next, knows⟩ := passes.knows_of_main proper suits loads enters
    exact ⟨_, source, next, .main loads enters, knows⟩

/-- All that a run does behind the loading is steady, and it binds no further globals. -/
theorem Program.Passes.runs_steady (passes : program.Passes typed checker last)
    (proper : ∀ function ∈ program.functions, function.Proper)
    (loads : loadProgram fuel typed (.initial console) = .ok () loaded)
    (runs : loaded.Runs machine) :
    Machine.Steady (Bindings.Fixed (last.names.boundVariables 0) (loaded.scopes.boundVariables 0))
        loaded machine ∧
      machine.scopes.boundVariables 0 = loaded.scopes.boundVariables 0 := by
  have ready := passes.ready proper loads
  have lawful : (Footprint.steady program typed last console
      (loaded.scopes.boundVariables 0)).Lawful := Footprint.lawful_steady passes proper
  cases runs with
  | start => exact ⟨.refl loaded, rfl⟩
  | moment comes =>
    obtain ⟨function, inner, enters, later⟩ := comes
    obtain ⟨⟨within, -⟩, steady⟩ :=
      Footprint.later_steady passes proper later (lawful.enters ready enters)
    exact ⟨.trans (.entered ready.1 enters) steady, within.bound⟩
  | last fuel =>
    have rooted := ready.1.rooted
    have called := lawful.calls fuel "main" [] loaded ready
    constructor
    · unfold runMain
      apply lawful.evaluated_bind called
      intro value middle _
      -- What follows the call only looks at the machine.
      exact lawful.reads (reads_flush.bind fun _ => reads_exitCode value) middle
    · exact (keeps_runMain fuel loaded).scopes.boundVariables 0 (rooted.lt_size rooted.root) id

/-- The variable that is declared last under its name keeps the value that it was loaded with,
unless it is mutable or a list. -/
theorem Program.Passes.keeps_value (passes : program.Passes typed checker last)
    (proper : ∀ function ∈ program.functions, function.Proper)
    (loads : loadProgram fuel typed (.initial console) = .ok () loaded)
    {earlier later : List Global} {global : Global} {binding : Variable}
    (split : typed.globals = earlier ++ global :: later) (annotated : global.binding = some binding)
    (single : binding.isList = false) (immutable : global.mutable = false)
    (lasts : ∀ other ∈ later, other.name ≠ global.name) :
    ∃ machine found after, typed.LoadsGlobal console earlier.length global machine ∧
      Expr.Begins global.value machine found after ∧
      ∀ now, loaded.Runs now → now.global? global.name = some found := by
  obtain ⟨found, ⟨machine, after, reached, begins⟩, held, newer, older, bound, names, counted⟩ :=
    Program.loads_of_loadProgram loads split
  obtain ⟨declared, _, _, newerNames, olderNames, also, mutable, -, static, level⟩ :=
    passes.global_bound split
  cases annotated.symm.trans also
  have fixed : Bindings.Fixed (last.names.boundVariables 0) (loaded.scopes.boundVariables 0)
      earlier.length :=
    ⟨_, _, binding, newerNames, olderNames, newer, older, static, bound,
      level.trans counted.symm, mutable.trans immutable, single⟩
  -- Everything bound later goes by another name.
  have looked : (newer ++ (global.name, earlier.length) :: older).lookup global.name =
      some earlier.length := by
    refine List.lookup_eq_some_iff.mpr ⟨newer, older, rfl, fun entry member => ?_⟩
    have named : entry.1 ∈ later.map Global.name := by
      rw [← List.mem_reverse, ← names]
      exact List.mem_map_of_mem member
    obtain ⟨other, inside, same⟩ := List.mem_map.mp named
    exact bne_iff_ne.mpr (same ▸ (lasts other inside).symm)
  refine ⟨machine, found, after, reached, begins, fun now runs => ?_⟩
  obtain ⟨steady, same⟩ := passes.runs_steady proper loads runs
  unfold Machine.global?
  rw [same, bound, looked]
  exact steady.fixed fixed held

theorem Program.Passes.keeps_globalList (passes : program.Passes typed checker last)
    (proper : ∀ function ∈ program.functions, function.Proper)
    (loads : loadProgram fuel typed (.initial console) = .ok () loaded)
    {earlier later : List Global} {global : Global} {binding : Variable}
    (split : typed.globals = earlier ++ global :: later) (annotated : global.binding = some binding)
    (list : binding.isList = true) :
    ∃ elements elementType type, global.value = some (.list elements elementType type) ∧
      ∀ now, loaded.Runs now → now.HasList 0 global.name earlier.length elements.length := by
  obtain ⟨found, ⟨machine, after, -, begins⟩, held, newer, older, bound, -⟩ :=
    Program.loads_of_loadProgram loads split
  obtain ⟨declared, _, _, _, _, also, -, initial, -⟩ := passes.global_bound split
  cases annotated.symm.trans also
  obtain ⟨elements, elementType, type, given⟩ := initial.given_list list
  refine ⟨elements, elementType, type, given, fun now runs => ?_⟩
  rw [given] at begins
  obtain ⟨items, rfl, long⟩ := begins.list
  have has : loaded.HasList 0 global.name earlier.length elements.length := by
    refine ⟨?_, items, held, long⟩
    rw [bound]
    exact List.mem_append_right newer List.mem_cons_self
  exact has.steady (passes.runs_steady proper loads runs).1

/-- A list that is declared in a block keeps its length for as long as the block is worked on. -/
theorem Program.Passes.keeps_list (passes : program.Passes typed checker last)
    (proper : ∀ function ∈ program.functions, function.Proper)
    (loads : loadProgram fuel typed (.initial console) = .ok () loaded) {name : String}
    {typeName : Option String} {value : Option Expr} {binding : Variable} {rest : List Stmt}
    {after : Machine} {found : Value}
    (comes : loaded.Comes (.statements (.declaration name typeName value (some binding) :: rest))
      machine)
    (list : binding.isList = true) (begins : Expr.Begins value machine found after) :
    ∃ elements elementType type, value = some (.list elements elementType type) ∧
      ∀ now, Stmt.Passes rest (after.define name found) now →
        now.HasList machine.scopes.current.top name after.cells.size elements.length := by
  have lawful : (Footprint.steady program typed last console
      (loaded.scopes.boundVariables 0)).Lawful := Footprint.lawful_steady passes proper
  obtain ⟨function, inner, enters, later⟩ := comes
  have ready := passes.ready proper loads
  obtain ⟨here, -⟩ := Footprint.later_steady passes proper later (lawful.enters ready enters)
  obtain ⟨elements, elementType, type, rfl⟩ := here.2.given_list list
  refine ⟨elements, elementType, type, rfl, fun now passed => ?_⟩
  -- The list begins with its elements, in a new cell of the scope.
  obtain ⟨items, rfl, counted⟩ := begins.list
  have keeps := begins.keeps
  have rooted := here.1.regular.of_grows keeps
  have started : (after.define name (.sequence items)).HasList machine.scopes.current.top name
      after.cells.size elements.length := by
    have bound := Environment.boundVariables_defineVariable_top after.scopes name after.cells.size
      rooted.rooted.bounded
    rw [keeps.scopes.current] at bound
    refine ⟨bound ▸ List.mem_cons_self, items, ?_, counted⟩
    exact Array.getElem?_push_size
  have behind := lawful.turn here (.next begins.ends)
  cases passed with
  | moment later => exact started.steady (Footprint.later_steady passes proper later behind).2
  | last fuel => exact started.steady (lawful.executes_statements (lawful.calls fuel) rest _ behind)

/-- Once a checked program is loaded, whatever its run does, a global whose last declaration is that
of an immutable single variable holds the value that it was loaded with, and every list, global or
local, has as many elements as it was declared with. -/
theorem Program.keeps_immutable (parsed : Program.ofTokens tokens = .ok program)
    (checked : program.check = .ok typed)
    (loads : loadProgram fuel typed (.initial console) = .ok () loaded) :
    (∀ earlier global later, typed.globals = earlier ++ global :: later →
      ∃ binding, global.binding = some binding ∧
        (binding.isList = false → global.mutable = false →
          (∀ other ∈ later, other.name ≠ global.name) →
          ∃ machine found after, typed.LoadsGlobal console earlier.length global machine ∧
            Expr.Begins global.value machine found after ∧
            ∀ now, loaded.Runs now → now.global? global.name = some found) ∧
        (binding.isList = true →
          ∃ elements elementType type, global.value = some (.list elements elementType type) ∧
            ∀ now, loaded.Runs now →
              now.HasList 0 global.name earlier.length elements.length)) ∧
    ∀ machine name typeName value binding rest found after,
      loaded.Comes (.statements (.declaration name typeName value (some binding) :: rest)) machine →
      binding.isList = true → Expr.Begins value machine found after →
      ∃ elements elementType type, value = some (.list elements elementType type) ∧
        ∀ now, Stmt.Passes rest (after.define name found) now →
          now.HasList machine.scopes.current.top name after.cells.size elements.length := by
  obtain ⟨checker, last, passes⟩ := Program.passes_of_check checked
  have proper := Program.proper_of_ofTokens parsed
  constructor
  · intro earlier global later split
    obtain ⟨binding, _, _, _, _, annotated, -⟩ := passes.global_bound split
    refine ⟨binding, annotated, fun single immutable lasts => ?_, fun list => ?_⟩
    · exact passes.keeps_value proper loads split annotated single immutable lasts
    · exact passes.keeps_globalList proper loads split annotated list
  · intro machine name typeName value binding rest found after comes list begins
    exact passes.keeps_list proper loads comes list begins

end runs

namespace Sample

/-- An immutable variable that a parameter shadows, and two lists whose elements are assigned to. -/
def markTokens : List Token :=
  Token.spelled
    [(.identifier, "val"), (.identifier, "limit"), (.operator, "="), (.integer, "5"),
      (.operator, ";"),
      (.identifier, "val"), (.identifier, "marks"), (.operator, "="), (.operator, "["),
      (.integer, "3"), (.operator, ","), (.integer, "4"), (.operator, "]"), (.operator, ";"),
      (.identifier, "fun"), (.identifier, "mark"), (.operator, "("), (.identifier, "limit"),
      (.operator, ":"), (.identifier, "Integer"), (.operator, ")"), (.operator, ":"),
      (.identifier, "Integer"), (.identifier, "do"),
      (.identifier, "limit"), (.operator, "="), (.identifier, "limit"), (.operator, "+"),
      (.integer, "1"), (.operator, ";"),
      (.identifier, "marks"), (.operator, "["), (.integer, "0"), (.operator, "]"),
      (.operator, "="), (.identifier, "limit"), (.operator, ";"),
      (.identifier, "return"), (.identifier, "limit"), (.operator, ";"), (.identifier, "end"),
      (.identifier, "fun"), (.identifier, "main"), (.operator, "("), (.operator, ")"),
      (.identifier, "do"),
      (.identifier, "let"), (.identifier, "row"), (.operator, "="), (.operator, "["),
      (.identifier, "limit"), (.operator, "]"), (.operator, ";"),
      (.identifier, "row"), (.operator, "["), (.integer, "0"), (.operator, "]"),
      (.operator, "="), (.identifier, "mark"), (.operator, "("), (.identifier, "limit"),
      (.operator, ")"), (.operator, ";"),
      (.identifier, "return"), (.identifier, "row"), (.operator, "["), (.integer, "0"),
      (.operator, "]"), (.operator, ";"), (.identifier, "end")]

def marking (limit marks parameter row : Option Variable) (mark main : Option Signature)
    (integer : Option Ty) : Program where
  globals :=
    [{ name := "limit", typeName := none, mutable := false, binding := limit
       value := some (.literal (.integer 5) integer) },
      { name := "marks", typeName := none, mutable := false, binding := marks
        value := some (.list [.literal (.integer 3) integer, .literal (.integer 4) integer]
          integer integer) }]
  functions :=
    [{ name := "mark", parameters := ["limit"], parameterTypes := ["Integer"]
       returnTypeName := some "Integer", binding := mark
       body :=
        [.assignment (.named "limit" parameter integer)
            (.binary .add (.named "limit" parameter integer) (.literal (.integer 1) integer)
              integer),
          .assignment (.element "marks" (.literal (.integer 0) integer) marks integer)
            (.named "limit" parameter integer),
          .returns (.named "limit" parameter integer)] },
      { name := "main", parameters := [], parameterTypes := [], returnTypeName := none
        binding := main
        body :=
          [.declaration "row" none
              (some (.list [.named "limit" limit integer] integer integer)) row,
            .assignment (.element "row" (.literal (.integer 0) integer) row integer)
              (.call "mark" [.named "limit" limit integer] mark integer),
            .returns (.element "row" (.literal (.integer 0) integer) row integer)] }]

def marked : Program :=
  marking (some (.single "limit" .integer false)) (some (.list "marks" .integer false))
    (some (.single "limit" .integer true)) (some (.list "row" .integer true))
    (some (.declared "mark" [.integer] .integer)) (some (.declared "main" [] .integer))
    (some .integer)

theorem parsed_marks :
    Program.ofTokens markTokens = .ok (marking none none none none none none none) := by
  with_unfolding_all rfl

theorem checked_marks : (marking none none none none none none none).check = .ok marked := rfl

end Sample

/-- The run assigns to a parameter with the name of the immutable variable and to an element of each
list. -/
theorem Sample.marks_kept :
    Program.ofTokens Sample.markTokens =
        .ok (Sample.marking none none none none none none none) ∧
      (Sample.marking none none none none none none none).check = .ok Sample.marked ∧
      ∃ loaded last, Eval.loadProgram 1 Sample.marked (.initial {}) = .ok () loaded ∧
        Eval.runMain 4 loaded = .ok 6 last ∧ loaded.Runs last ∧
        last.global? "limit" = some (.integer 5) ∧ last.HasList 0 "marks" 1 2 ∧
        ∃ row binding rest machine after now,
          loaded.Comes (.statements (.declaration "row" none (some row) (some binding) :: rest))
            machine ∧
          binding.isList = true ∧ Expr.Begins (some row) machine (.sequence [.integer 5]) after ∧
          Stmt.Passes rest (after.define "row" (.sequence [.integer 5])) now ∧
          now.cells[2]? = some (.sequence [.integer 6]) ∧ now.HasList 1 "row" 2 1 := by
  refine ⟨Sample.parsed_marks, Sample.checked_marks,
    (Eval.loadProgram 1 Sample.marked).after (.initial {}), _, rfl, rfl, .last 4, ?_⟩
  obtain ⟨globals, locals⟩ :=
    Program.keeps_immutable Sample.parsed_marks Sample.checked_marks
      (rfl : Eval.loadProgram 1 Sample.marked (.initial {}) = .ok () _)
  obtain ⟨_, annotated, immutable, -⟩ := globals [] _ _ rfl
  cases annotated
  obtain ⟨_, found, _, -, -, kept⟩ := immutable rfl rfl (by decide)
  -- Once loaded, the variable holds its value, so this is what it holds at the end.
  have start : some (Value.integer 5) = some found := kept _ .start
  cases start
  obtain ⟨_, annotated, -, list⟩ := globals [_] _ [] rfl
  cases annotated
  obtain ⟨_, _, _, given, long⟩ := list rfl
  cases given
  have comes : ((Eval.loadProgram 1 Sample.marked).after (.initial {})).Comes (.statements _) _ :=
    ⟨_, _, ⟨Chain.root, rfl, rfl, rfl, rfl⟩, .now⟩
  obtain ⟨_, _, _, given, longs⟩ :=
    locals _ _ _ _ _ _ (.sequence [.integer 5]) _ comes rfl ⟨0, rfl⟩
  cases given
  exact ⟨kept _ (.last 4), long _ (.last 4), _, _, _, _, _, _, comes, rfl, ⟨0, rfl⟩, .last 3, rfl,
    longs _ (.last 3)⟩

end Primer
