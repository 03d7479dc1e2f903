import Primer.Proofs.Run.Footprint

/-! What loading leaves behind of the globals.

While globals are evaluated no function of the program is there to be called, so that evaluation
leaves all cells alone. The cell of a global is the one with its number, and it holds the value that
the global began with.
-/

set_option autoImplicit false

namespace Primer

open Eval

/-! ### Where only the built-in function is there -/

structure Machine.Unloaded (machine : Machine) : Prop where
  rooted : machine.scopes.Rooted
  functions : machine.scopes.boundFunctions 0 = Callable.builtIn

namespace Machine.Unloaded

variable {machine after : Machine}

theorem of_grows {isOpen : Nat → Prop} (unloaded : machine.Unloaded)
    (grows : machine.Grows isOpen after) : after.Unloaded :=
  ⟨unloaded.rooted.of_grows grows.scopes,
    (grows.scopes.boundFunctions 0).trans unloaded.functions⟩

theorem block (unloaded : machine.Unloaded) : machine.block.Unloaded :=
  ⟨unloaded.rooted.child_current, (boundFunctions_inside _ _ 0).trans unloaded.functions⟩

theorem not_enters (unloaded : machine.Unloaded) {name : String} {values : List Value}
    {function : Function} {inner : Machine} : ¬ machine.Enters name values function inner := by
  rintro ⟨scope, found, -⟩
  rw [unloaded.rooted.getFunction?, unloaded.functions] at found
  cases (Callable.of_lookup_builtIn found).2

theorem initial (console : Console) : (Machine.initial console).Unloaded :=
  ⟨(atTop_initial console).rooted, rfl⟩

end Machine.Unloaded

def Part.IsValue : Part Value → Prop
  | .value _ | .values _ => True
  | .target _ | .statement _ | .statements _ | .cases _ _ => False

theorem Part.IsValue.turn {part inner : Part Value} {machine after : Machine} {index : Nat}
    (value : part.IsValue) (step : Step part machine index inner after) : inner.IsValue := by
  cases step with
  | inner | left | right | index | arguments | elements | head | tail => trivial
  | _ => exact value.elim

/-- Where no function can be called, expressions leave the cells alone. -/
def Footprint.quiet : Footprint where
  moment part machine := part.IsValue ∧ machine.Unloaded
  ready _ _ machine := machine.Unloaded
  evaluated before after := after.cells = before.cells
  executed _ _ := True

theorem Footprint.lawful_quiet : quiet.Lawful where
  turn here step :=
    ⟨here.1.turn step,
      step.preserves (fun grows unloaded => Machine.Unloaded.of_grows unloaded grows)
        Machine.Unloaded.block here.2⟩
  again here _ _ := here.1.elim
  arguments here yield := Machine.Unloaded.of_grows here.2 yield.keeps
  enters unloaded enters := absurd enters (Machine.Unloaded.not_enters unloaded)
  refl _ := rfl
  evaluated_trans left right := Eq.trans right left
  executed_trans _ _ := trivial
  executed _ := trivial
  printed _ _ := rfl
  defined _ _ := trivial
  stored _ _ _ := trivial
  replaced _ _ _ _ _ _ := trivial
  left _ := trivial
  called unloaded enters := absurd enters (Machine.Unloaded.not_enters unloaded)

/-! ### Globals one after the other -/

structure Machine.Gains (globals : List Global) (before after : Machine) : Prop where
  top : after.AtTop
  unloaded : after.Unloaded
  bindings : ∃ newer, after.scopes.boundVariables 0 = newer ++ before.scopes.boundVariables 0 ∧
    newer.map Prod.fst = (globals.map Global.name).reverse
  cells : ∃ more, after.cells.toList = before.cells.toList ++ more ∧ more.length = globals.length

section globals

variable {fuel : Nat} {machine middle after : Machine} {found : Value}

theorem Expr.Begins.cells {value : Option Expr} (unloaded : machine.Unloaded)
    (begins : Expr.Begins value machine found after) : after.cells = machine.cells := by
  obtain ⟨fuel, ran⟩ := begins
  have lawful := Footprint.lawful_quiet
  have moment (given : Expr) (_ : value = some given) :
      Footprint.quiet.moment (.value given) machine := ⟨trivial, unloaded⟩
  have evaluated := lawful.evaluated_initialValue (lawful.calls fuel) moment
  rwa [after_of_ok ran] at evaluated

theorem Expr.Begins.keeps {value : Option Expr} (begins : Expr.Begins value machine found after) :
    machine.Keeps after := by
  obtain ⟨fuel, ran⟩ := begins
  exact (keeps_initialValue (Callable.keeps_invoke fuel) value).of_ok ran

/-- A global binds its name to the next cell. -/
theorem Machine.AtTop.define_global (top : machine.AtTop) (unloaded : machine.Unloaded)
    {global : Global} (begins : Expr.Begins global.value machine found middle) :
    (middle.define global.name found).AtTop ∧ (middle.define global.name found).Unloaded ∧
      (middle.define global.name found).scopes.boundVariables 0 =
        (global.name, machine.cells.size) :: machine.scopes.boundVariables 0 ∧
      (middle.define global.name found).cells = machine.cells.push found := by
  have keeps := begins.keeps
  have middleTop := top.of_keepsOuter keeps.outer
  have defined := middle.keepsOuter_define global.name found
  have zero := Chain.top_eq_zero middleTop.current
  refine ⟨middleTop.of_keepsOuter defined, (unloaded.of_grows keeps).of_grows defined, ?_, ?_⟩
  · have bound := Environment.boundVariables_defineVariable_top middle.scopes global.name
      middle.cells.size middleTop.rooted.bounded
    have kept := keeps.scopes.boundVariables 0 (top.rooted.lt_size top.rooted.root) id
    rw [zero, kept] at bound
    rw [← begins.cells unloaded]
    exact bound
  · unfold define
    rw [begins.cells unloaded]

theorem Machine.AtTop.gains (top : machine.AtTop) (unloaded : machine.Unloaded)
    {globals : List Global} (ran : globals.forM (loadGlobal fuel) machine = .ok () after) :
    machine.Gains globals after := by
  induction globals generalizing machine with
  | nil =>
    cases ran
    exact ⟨top, unloaded, ⟨[], rfl, rfl⟩, ⟨[], (List.append_nil _).symm, rfl⟩⟩
  | cons first rest ih =>
    obtain ⟨_, between, firstRan, restRan⟩ := EStateM.bind_eq_ok.mp ran
    obtain ⟨found, middle, began, defined⟩ := EStateM.bind_eq_ok.mp firstRan
    cases defined
    obtain ⟨nextTop, nextUnloaded, bound, cells⟩ := top.define_global unloaded ⟨fuel, began⟩
    obtain ⟨lastTop, lastUnloaded, ⟨newer, bindings, names⟩, more, added, counted⟩ :=
      ih nextTop nextUnloaded restRan
    -- The newest binding comes first, the newest cell last.
    refine ⟨lastTop, lastUnloaded, ⟨newer ++ [(first.name, machine.cells.size)], ?_, ?_⟩,
      ⟨found :: more, ?_, congrArg Nat.succ counted⟩⟩
    · rw [bindings, bound, List.append_assoc, List.singleton_append]
    · rw [List.map_append, names, List.map_singleton, List.map_cons, List.reverse_cons]
    · rw [added, cells, Array.toList_push, List.append_assoc, List.singleton_append]

end globals

/-- What loading has left of a global. -/
structure Program.Loads (program : Program) (console : Console) (loaded : Machine)
    (earlier : List Global) (global : Global) (later : List Global) (found : Value) : Prop where
  value : ∃ machine after, program.LoadsGlobal console earlier.length global machine ∧
    Expr.Begins global.value machine found after
  held : loaded.cells[earlier.length]? = some found
  bindings : ∃ newer older, loaded.scopes.boundVariables 0 =
      newer ++ (global.name, earlier.length) :: older ∧
    newer.map Prod.fst = (later.map Global.name).reverse ∧ older.length = earlier.length

/-- The value of each global is in the cell with its number, which its name is bound to. -/
theorem Program.loads_of_loadProgram {program : Program} {console : Console} {fuel : Nat}
    {loaded : Machine} (ran : loadProgram fuel program (.initial console) = .ok () loaded)
    {earlier later : List Global} {global : Global}
    (split : program.globals = earlier ++ global :: later) :
    ∃ found, program.Loads console loaded earlier global later found := by
  rw [loadProgram_eq] at ran
  obtain ⟨_, last, globalsRan, modified⟩ := EStateM.bind_eq_ok.mp ran
  cases modified
  rw [split] at globalsRan
  change (forM (earlier ++ global :: later) (loadGlobal fuel) : Eval Unit) _ = _ at globalsRan
  rw [List.forM_append] at globalsRan
  obtain ⟨_, machine, earlierRan, restRan⟩ := EStateM.bind_eq_ok.mp globalsRan
  obtain ⟨_, next, globalRan, laterRan⟩ := EStateM.bind_eq_ok.mp restRan
  obtain ⟨found, middle, began, defined⟩ := EStateM.bind_eq_ok.mp globalRan
  cases defined
  -- The globals before it have taken the cells with smaller numbers.
  obtain ⟨top, unloaded, ⟨older, olderBound, olderNames⟩, more, olderCells, counted⟩ :=
    (Machine.atTop_initial console).gains (.initial console) earlierRan
  obtain ⟨nextTop, nextUnloaded, bound, cells⟩ := top.define_global unloaded ⟨fuel, began⟩
  obtain ⟨lastTop, -, ⟨newer, newerBound, names⟩, added, newerCells, -⟩ :=
    nextTop.gains nextUnloaded laterRan
  have size : machine.cells.size = earlier.length := by
    rw [← Array.length_toList, olderCells, List.length_append, counted]
    exact Nat.zero_add _
  obtain ⟨-, same, -⟩ := lastTop.load program.functions
  have unbound : (Machine.initial console).scopes.boundVariables 0 = [] := rfl
  rw [unbound, List.append_nil] at olderBound
  refine ⟨found, ⟨machine, middle, ⟨earlier, later, fuel, split, rfl, earlierRan⟩, fuel, began⟩,
    ?_, newer, older, ?_, names, ?_⟩
  · change last.cells[earlier.length]? = some found
    rw [← Array.getElem?_toList, newerCells, cells, Array.toList_push, ← size]
    simp
  · rw [same, newerBound, bound, size, olderBound]
  · simpa using congrArg List.length olderNames

end Primer
