import Primer.Command
import Primer.Proofs.Run.Endings
import Primer.Proofs.Run.Simulation

/-! Runs do not depend on earlier runs.

A machine keeps the globals, functions and cells of all programs that were loaded into it. A further
run on it is in step with the run on a new machine; its scopes, cells and output come behind what is
there already. Only names that the new machine does not know could be found among what is left over,
and no run of an accepted program looks for such a name.
-/

set_option autoImplicit false

namespace Primer

open Eval

def Console.cleared (console : Console) : Console :=
  { console with text := "" }

def Callable.AtRoot : Callable → Prop
  | .declared _ scope => scope = Chain.root
  | .print => True

namespace Machine

/-- The number of a scope on a machine that goes on from `old`. There is one global scope. -/
def place (old : Machine) (number : Nat) : Nat :=
  if number = 0 then 0 else number + (old.scopes.scopes.size - 1)

def shift (old : Machine) (bindings : List (String × Nat)) : List (String × Nat) :=
  bindings.map fun (name, cell) => (name, cell + old.cells.size)

def leftover (old : Machine) (number : Nat) : List (String × Nat) :=
  if number = 0 then old.scopes.boundVariables 0 else []

theorem place_inj (old : Machine) {number other : Nat} (same : old.place number = old.place other) :
    number = other := by
  unfold place at same
  split at same <;> split at same <;> omega

theorem lookup_shift (old : Machine) (bindings rest : List (String × Nat)) (name : String) :
    (old.shift bindings ++ rest).lookup name =
      ((bindings.lookup name).map (· + old.cells.size)).or (rest.lookup name) := by
  rw [List.lookup_append]
  congr 1
  induction bindings with
  | nil => rfl
  | cons binding bindings ih =>
    unfold shift at ih ⊢
    rw [List.map_cons, List.lookup_cons, List.lookup_cons, ih]
    cases name == binding.1 <;> rfl

/-- `image` is `machine`, going on from where `old` stopped. -/
structure Mirrors (old machine image : Machine) : Prop where
  rooted : machine.scopes.Rooted
  finds : image.Finds (machine.scopes.boundFunctions 0)
  loaded : ∀ {key callable}, (machine.scopes.boundFunctions 0).lookup key = some callable →
    callable.AtRoot
  size : image.scopes.scopes.size = machine.scopes.scopes.size + (old.scopes.scopes.size - 1)
  chain : image.scopes.current.numbers = machine.scopes.current.numbers.map old.place
  bindings : ∀ number, image.scopes.boundVariables (old.place number) =
    old.shift (machine.scopes.boundVariables number) ++ old.leftover number
  cells : image.cells = old.cells ++ machine.cells
  faults : machine.console.writeFault = old.console.writeFault ∧
    machine.console.flushFault = old.console.flushFault
  alsoFaults : image.console.writeFault = old.console.writeFault ∧
    image.console.flushFault = old.console.flushFault
  text : image.console.text = old.console.text ++ machine.console.text

namespace Mirrors

variable {old machine image : Machine}

theorem new (ready : old.Ready) :
    old.Mirrors (.initial old.console.cleared) old where
  rooted := (Machine.atTop_initial _).rooted
  finds := ready.finds
  loaded looked := by
    obtain ⟨-, rfl⟩ := Callable.of_lookup_builtIn looked
    trivial
  size := by
    have bounded := ready.top.rooted.bounded
    have one : (Machine.initial old.console.cleared).scopes.scopes.size = 1 := rfl
    omega
  chain := by
    rw [ready.top.current]
    rfl
  bindings number := by
    have bounded := ready.top.rooted.bounded
    unfold place leftover
    split
    · next zero =>
      subst zero
      rfl
    · next positive =>
      -- Neither machine has a second scope.
      have absent : old.scopes.scopes[number + (old.scopes.scopes.size - 1)]? = none :=
        Array.getElem?_eq_none (by omega)
      have missing : (Machine.initial old.console.cleared).scopes.scopes[number]? =
          none := by
        apply Array.getElem?_eq_none
        change 1 ≤ number
        omega
      simp [Environment.boundVariables, absent, missing, shift]
  cells := (Array.append_empty).symm
  faults := ⟨rfl, rfl⟩
  alsoFaults := ⟨rfl, rfl⟩
  text := String.append_empty.symm

/-! ### Variables -/

/-- A variable that the new machine finds is found on the other one, in the shifted cell. -/
theorem getVariable? (mirrors : old.Mirrors machine image) {name : String} {cell : Nat}
    (found : machine.scopes.getVariable? name = some cell) :
    image.scopes.getVariable? name = some (cell + old.cells.size) := by
  have descending := mirrors.rooted.descending
  rw [Environment.getVariable?_eq] at found ⊢
  rw [mirrors.chain]
  -- Along the chain, from the inside out.
  generalize machine.scopes.current.numbers = numbers at found descending
  induction numbers with
  | nil => cases found
  | cons number rest ih =>
    obtain ⟨above, below⟩ := List.pairwise_cons.mp descending
    rw [List.map_cons, List.findSome?_cons, mirrors.bindings number, lookup_shift]
    rw [List.findSome?_cons] at found
    cases looked : (machine.scopes.boundVariables number).lookup name with
    | some here =>
      rw [looked] at found
      cases found
      rfl
    | none =>
      rw [looked] at found
      -- Something is left over in the global scope only, and that scope is the last one.
      have inner : number ≠ 0 := by
        rintro rfl
        cases rest with
        | nil => cases found
        | cons other others => exact absurd (above other List.mem_cons_self) (Nat.not_lt_zero _)
      rw [Option.map_none, Option.none_or, leftover, if_neg inner]
      exact ih found below

theorem cell (mirrors : old.Mirrors machine image) (number : Nat) :
    machine.cells[number]? = image.cells[number + old.cells.size]? := by
  rw [mirrors.cells, Array.getElem?_append_right (Nat.le_add_left _ _), Nat.add_sub_cancel]

theorem store (mirrors : old.Mirrors machine image) (number : Nat) (value : Value) :
    old.Mirrors { machine with cells := machine.cells.setIfInBounds number value }
      { image with cells := image.cells.setIfInBounds (number + old.cells.size) value } :=
  { mirrors with
    finds := ⟨mirrors.finds.rooted, mirrors.finds.functions⟩
    cells := by
      rw [mirrors.cells, Array.setIfInBounds_append_right (Nat.le_add_left _ _),
        Nat.add_sub_cancel] }

theorem top (mirrors : old.Mirrors machine image) :
    image.scopes.current.top = old.place machine.scopes.current.top :=
  (List.cons.inj mirrors.chain).1

theorem define (mirrors : old.Mirrors machine image) (name : String) (value : Value) :
    old.Mirrors (machine.define name value) (image.define name value) where
  rooted := mirrors.rooted.of_grows (machine.keepsOuter_define name value).scopes
  finds := by
    have same := Environment.boundFunctions_defineVariable machine.scopes name machine.cells.size 0
    have kept := mirrors.finds.of_keepsOuter (image.keepsOuter_define name value)
    exact ⟨kept.rooted, fun looked => kept.functions (same ▸ looked)⟩
  loaded looked := by
    have same := Environment.boundFunctions_defineVariable machine.scopes name machine.cells.size 0
    exact mirrors.loaded (same ▸ looked)
  size := by
    change (image.scopes.defineVariable _ _).scopes.size =
      (machine.scopes.defineVariable _ _).scopes.size + _
    rw [Environment.size_defineVariable, Environment.size_defineVariable]
    exact mirrors.size
  chain := mirrors.chain
  bindings number := by
    change (image.scopes.defineVariable name image.cells.size).boundVariables (old.place number) =
      old.shift ((machine.scopes.defineVariable name machine.cells.size).boundVariables number) ++ _
    -- Only the scopes on top change, and they stand in for each other.
    by_cases here : number = machine.scopes.current.top
    · have defined := Environment.boundVariables_defineVariable_top image.scopes name
        image.cells.size mirrors.finds.rooted.bounded
      rw [mirrors.top] at defined
      rw [here, defined, mirrors.bindings, mirrors.cells, Array.size_append,
        Environment.boundVariables_defineVariable_top machine.scopes name machine.cells.size
          mirrors.rooted.bounded, Nat.add_comm]
      rfl
    · have elsewhere : old.place number ≠ image.scopes.current.top := by
        rw [mirrors.top]
        exact fun same => here (old.place_inj same)
      rw [Environment.boundVariables_defineVariable_of_ne _ _ _ elsewhere,
        Environment.boundVariables_defineVariable_of_ne _ _ _ here]
      exact mirrors.bindings number
  cells := by
    change image.cells.push value = old.cells ++ machine.cells.push value
    rw [mirrors.cells, Array.push_append]
  faults := mirrors.faults
  alsoFaults := mirrors.alsoFaults
  text := mirrors.text

theorem print (mirrors : old.Mirrors machine image) (line : String) :
    old.Mirrors { machine with console := machine.console.append line }
      { image with console := image.console.append line } :=
  { mirrors with
    finds := ⟨mirrors.finds.rooted, mirrors.finds.functions⟩
    text := by
      change image.console.text ++ line = old.console.text ++ (machine.console.text ++ line)
      rw [mirrors.text, String.append_assoc] }

/-! ### Scopes -/

theorem inside (mirrors : old.Mirrors machine image) {outer enclosing : Chain}
    (chain : enclosing.numbers = outer.numbers.map old.place)
    (rooted : (machine.inside outer).scopes.Rooted)
    (alsoRooted : (image.inside enclosing).scopes.Rooted) :
    old.Mirrors (machine.inside outer) (image.inside enclosing) where
  rooted := rooted
  finds := by
    refine ⟨alsoRooted, fun looked => ?_⟩
    rw [boundFunctions_inside] at looked ⊢
    exact mirrors.finds.functions looked
  loaded looked := by
    rw [boundFunctions_inside] at looked
    exact mirrors.loaded looked
  size := by
    change (image.scopes.child enclosing).2.scopes.size =
      (machine.scopes.child outer).2.scopes.size + _
    rw [Environment.size_child, Environment.size_child, mirrors.size]
    omega
  chain := by
    -- The new scopes are the last ones, as far behind as all the others.
    have positive := mirrors.rooted.bounded
    change (image.scopes.child enclosing).1.numbers =
      (machine.scopes.child outer).1.numbers.map old.place
    rw [Environment.numbers_child, Environment.numbers_child, List.map_cons, chain, mirrors.size,
      place, if_neg (by omega)]
  bindings number := by
    rw [boundVariables_inside, boundVariables_inside]
    exact mirrors.bindings number
  cells := mirrors.cells
  faults := mirrors.faults
  alsoFaults := mirrors.alsoFaults
  text := mirrors.text

theorem comeBack {after last : Machine} (mirrors : old.Mirrors machine image)
    (ended : old.Mirrors after last)
    (keeps : machine.Keeps (after.comeBack machine.scopes.current))
    (alsoKeeps : image.Keeps (last.comeBack image.scopes.current)) :
    old.Mirrors (after.comeBack machine.scopes.current) (last.comeBack image.scopes.current) where
  rooted := mirrors.rooted.of_grows keeps.scopes
  finds := ⟨mirrors.finds.rooted.of_grows alsoKeeps.scopes, ended.finds.functions⟩
  loaded := ended.loaded
  size := ended.size
  chain := mirrors.chain
  bindings := ended.bindings
  cells := ended.cells
  faults := ended.faults
  alsoFaults := ended.alsoFaults
  text := ended.text

theorem loadOne (mirrors : old.Mirrors machine image) (top : machine.AtTop) (alsoTop : image.AtTop)
    (function : Function) :
    old.Mirrors (machine.load [function]) (image.load [function]) := by
  obtain ⟨after, -, functions⟩ := top.load [function]
  obtain ⟨last, -, alsoFunctions⟩ := alsoTop.load [function]
  have entered : (machine.load [function]).scopes.boundFunctions 0 =
      function.entry :: machine.scopes.boundFunctions 0 := functions
  have alsoEntered : (image.load [function]).scopes.boundFunctions 0 =
      function.entry :: image.scopes.boundFunctions 0 := alsoFunctions
  exact
    { rooted := after.rooted
      finds := by
        refine ⟨last.rooted, fun {key callable} looked => ?_⟩
        rw [entered] at looked
        rw [alsoEntered]
        rcases List.lookup_cons_eq_some.mp looked with here | ⟨other, looked⟩
        · exact List.lookup_cons_eq_some.mpr (.inl here)
        · exact List.lookup_cons_eq_some.mpr (.inr ⟨other, mirrors.finds.functions looked⟩)
      loaded := fun {key callable} looked => by
        rw [entered] at looked
        rcases List.lookup_cons_eq_some.mp looked with ⟨-, rfl⟩ | ⟨-, looked⟩
        · exact rfl
        · exact mirrors.loaded looked
      size := by
        change (image.scopes.defineFunction _ _ _).scopes.size =
          (machine.scopes.defineFunction _ _ _).scopes.size + _
        rw [Environment.size_defineFunction, Environment.size_defineFunction]
        exact mirrors.size
      chain := mirrors.chain
      bindings := fun number => by
        change (image.scopes.defineFunction _ _ _).boundVariables _ =
          old.shift ((machine.scopes.defineFunction _ _ _).boundVariables number) ++ _
        rw [Environment.boundVariables_defineFunction, Environment.boundVariables_defineFunction]
        exact mirrors.bindings number
      cells := mirrors.cells
      faults := mirrors.faults
      alsoFaults := mirrors.alsoFaults
      text := mirrors.text }

theorem load (mirrors : old.Mirrors machine image) (top : machine.AtTop) (alsoTop : image.AtTop)
    (functions : List Function) :
    old.Mirrors (machine.load functions) (image.load functions) := by
  induction functions generalizing machine image with
  | nil => exact mirrors
  | cons first rest ih =>
    exact ih (mirrors.loadOne top alsoTop first) (top.load [first]).1 (alsoTop.load [first]).1

end Mirrors

end Machine

/-! ### In step with a new machine -/

def Halt.Unresolved : Halt → Prop
  | .error (.unknownVariable _) | .error (.unknownFunction _ _) => True
  | _ => False

namespace Simulation

def behind (old : Machine) : Simulation where
  related := old.Mirrors
  alike number place := place = number + old.cells.size
  loaded scope := scope = Chain.root
  shared _ := True
  excused := Halt.Unresolved

variable {old : Machine}

theorem lawful_behind (old : Machine) : (behind old).Lawful where
  errors _ := trivial
  found {machine image} mirrors name := by
    cases found : machine.scopes.getVariable? name with
    | none => exact .inr ⟨rfl, trivial⟩
    | some cell =>
      rw [mirrors.getVariable? found]
      exact .inl (.some rfl)
  held := by
    rintro machine image mirrors number _ rfl
    exact mirrors.cell number
  stored := by
    rintro machine image mirrors number _ rfl value
    exact mirrors.store number value
  defined mirrors := mirrors.define
  faults mirrors :=
    ⟨mirrors.faults.1.trans mirrors.alsoFaults.1.symm,
      mirrors.faults.2.trans mirrors.alsoFaults.2.symm⟩
  printed mirrors := mirrors.print
  block mirrors :=
    mirrors.inside mirrors.chain mirrors.rooted.child_current mirrors.finds.rooted.child_current
  reached := by
    rintro machine image mirrors _ rfl
    unfold Environment.reaches
    rw [mirrors.rooted.global, mirrors.finds.rooted.global]
    rfl
  entered := by
    rintro machine image mirrors _ rfl
    exact mirrors.inside rfl mirrors.rooted.child_root mirrors.finds.rooted.child_root
  left mirrors ended := mirrors.comeBack ended

theorem behind_callNamed {fuel : Nat}
    (calls : ∀ callable arguments, callable.AtRoot →
      (behind old).Relates Eq (Callable.invoke fuel callable arguments)
        (Callable.invoke fuel callable arguments)) (name : String) (values : List Value) :
    (behind old).Relates Eq (callNamed (Callable.invoke fuel) name values)
      (callNamed (Callable.invoke fuel) name values) := by
  apply (lawful_behind old).relates_callNamed
  intro machine image (mirrors : old.Mirrors machine image)
  cases found : machine.scopes.getFunction? name values.length with
  | none => exact .inr ⟨rfl, .inr trivial⟩
  | some callable =>
    rw [mirrors.rooted.getFunction?] at found
    have called := calls callable values (mirrors.loaded found)
    exact .inl ⟨callable, rfl, mirrors.finds.getFunction? found, called⟩

theorem pairs_behind {fuel : Nat}
    (calls : ∀ callable arguments, callable.AtRoot →
      (behind old).Relates Eq (Callable.invoke fuel callable arguments)
        (Callable.invoke fuel callable arguments)) :
    (behind old).Pairs (Callable.invoke fuel) (Callable.invoke fuel) fuel fuel (fun _ => True)
      fun _ => True where
  lawful := lawful_behind old
  keeps := Callable.keeps_invoke fuel
  otherKeeps := Callable.keeps_invoke fuel
  calls _ values _ := behind_callNamed calls _ values
  loops _ := .inl ⟨rfl, trivial⟩

theorem behind_invoke (old : Machine) (fuel : Nat) (callable : Callable) (arguments : List Value)
    (atRoot : callable.AtRoot) :
    (behind old).Relates Eq (Callable.invoke fuel callable arguments)
      (Callable.invoke fuel callable arguments) := by
  induction fuel generalizing callable arguments with
  | zero => exact fun _ _ mirrors => .stopped trivial mirrors
  | succ fuel ih =>
    cases callable with
    | print =>
      have enough := Nat.succ_pos fuel
      exact (lawful_behind old).relates_invoke_print enough enough arguments
    | declared function scope =>
      exact relates_invoke_declared (pairs_behind ih) atRoot (Stmt.everyIn_true function.body)
        arguments

/-- Loading and running go on in step from a machine between runs. -/
theorem behind_loadProgram (ready : old.Ready) (fuel : Nat) (program : Program) :
    (behind old).InStep Eq (loadProgram fuel program (.initial old.console.cleared))
      (loadProgram fuel program old) := by
  apply inStep_loadProgram (pairs_behind (behind_invoke old fuel))
    (fun _ _ value _ => value.every_true) (Machine.Mirrors.new ready)
  intro after last kept alsoKept (mirrors : old.Mirrors after last)
  exact mirrors.load ((Machine.atTop_initial _).of_keepsOuter kept)
    (ready.top.of_keepsOuter alsoKept) program.functions

theorem behind_runProgram (ready : old.Ready) (fuel : Nat) (program : Program) :
    (behind old).InStep Eq (runProgram fuel program (.initial old.console.cleared))
      (runProgram fuel program old) := by
  rw [runProgram_eq]
  apply (behind_loadProgram ready fuel program).bind
  intro _ _ after last _ _ _ mirrors
  have main := behind_callNamed (behind_invoke old fuel) "main" []
  exact (lawful_behind old).relates_runMain main after last mirrors

end Simulation

/-! ### Endings -/

section endings

variable {α : Type}

def Eval.outcome (work : Eval α) (machine : Machine) : Except Halt α :=
  match work machine with
  | .ok value _ => .ok value
  | .error halt _ => .error halt

theorem Program.run_eq (program : Program) (console : Console) (fuel : Nat) :
    program.run console fuel =
      ((runProgram fuel program).outcome (.initial console),
        ((runProgram fuel program).after (.initial console)).console) := by
  unfold run Eval.outcome Eval.after
  cases runProgram fuel program (.initial console) <;> rfl

theorem Halt.not_unresolved {discipline : Discipline} {halt : Halt}
    (within : halt.Within discipline.Tolerates) : ¬ halt.Unresolved := by
  cases halt with
  | outOfFuel => exact id
  | error error =>
    cases error with
    | unknownVariable | unknownFunction => exact within.elim
    | _ => exact id

/-- Where no name is unknown on the new machine, both computations end alike. -/
theorem Simulation.InStep.endings {discipline : Discipline} {old machine image : Machine}
    {work : Eval α} {post : α → Machine → Prop}
    (inStep : (behind old).InStep Eq (work machine) (work image))
    (ensures : work.Ensures discipline.Tolerates machine post) :
    work.outcome image = work.outcome machine ∧
      old.Mirrors (work.after machine) (work.after image) := by
  unfold Eval.Ensures at ensures
  unfold Eval.outcome Eval.after
  generalize work machine = first at inStep ensures
  generalize work image = second at inStep
  cases inStep with
  | ok same mirrors => exact ⟨congrArg Except.ok same.symm, mirrors⟩
  | stopped _ mirrors => exact ⟨rfl, mirrors⟩
  | excused unresolved => exact absurd unresolved (Halt.not_unresolved ensures)

theorem Program.Accepted.load_endings {typed : Program} (accepted : typed.Accepted) {old : Machine}
    (ready : old.Ready) (fuel : Nat) :
    (loadProgram fuel typed).outcome old =
        (loadProgram fuel typed).outcome (.initial old.console.cleared) ∧
      old.Mirrors ((loadProgram fuel typed).after (.initial old.console.cleared))
        ((loadProgram fuel typed).after old) := by
  obtain ⟨_, _, _, passes, proper⟩ := accepted.passes
  exact (Simulation.behind_loadProgram ready fuel typed).endings
    (ensures_loadProgram passes proper (passes.suits_lenient proper) fuel _)

theorem Program.Accepted.run_endings {typed : Program} (accepted : typed.Accepted) {old : Machine}
    (ready : old.Ready) (fuel : Nat) :
    (runProgram fuel typed).outcome old =
        (runProgram fuel typed).outcome (.initial old.console.cleared) ∧
      old.Mirrors ((runProgram fuel typed).after (.initial old.console.cleared))
        ((runProgram fuel typed).after old) := by
  obtain ⟨_, _, _, passes, proper⟩ := accepted.passes
  exact (Simulation.behind_runProgram ready fuel typed).endings
    (ensures_runProgram passes proper (passes.suits_lenient proper) fuel _)

end endings

/-! ### Sessions -/

theorem Session.faults {console : Console} {machine : Machine} (session : Session console machine) :
    machine.console.writeFault = console.writeFault ∧
      machine.console.flushFault = console.flushFault := by
  induction session with
  | new => exact ⟨rfl, rfl⟩
  | load earlier accepted fuel ih =>
    obtain ⟨-, mirrors⟩ := accepted.load_endings earlier.ready fuel
    exact ⟨mirrors.alsoFaults.1.trans ih.1, mirrors.alsoFaults.2.trans ih.2⟩
  | run earlier accepted fuel ih =>
    obtain ⟨-, mirrors⟩ := accepted.run_endings earlier.ready fuel
    exact ⟨mirrors.alsoFaults.1.trans ih.1, mirrors.alsoFaults.2.trans ih.2⟩

/-- Whatever was loaded and run before, an accepted program ends as on a new machine and appends
what it prints there. -/
theorem Session.run_isolated {console : Console} {machine : Machine}
    (session : Session console machine) {typed : Program} (accepted : typed.Accepted)
    (fuel : Nat) :
    (runProgram fuel typed).outcome machine = (typed.run console.cleared fuel).1 ∧
      ((runProgram fuel typed).after machine).console =
        machine.console.append (typed.run console.cleared fuel).2.text := by
  -- Earlier runs have left nothing on the console but text.
  have fresh : machine.console.cleared = console.cleared := by
    unfold Console.cleared
    rw [← session.faults.1, ← session.faults.2]
  obtain ⟨same, mirrors⟩ := accepted.run_endings session.ready fuel
  rw [fresh] at same mirrors
  rw [Program.run_eq]
  refine ⟨same, ?_⟩
  obtain ⟨⟨write, flush⟩, text⟩ := And.intro mirrors.alsoFaults mirrors.text
  unfold Console.append
  rw [← text, ← write, ← flush]

/-- Two programs with other globals and functions came before, one of them the same program. -/
theorem Sample.run_isolated_from_half :
    typed.Accepted ∧
      (let earlier := (runProgram 3 typed).after ((runProgram 3 halfTyped).after (.initial {}))
      Session {} earlier ∧ earlier.console.text = "nil\n" ∧
        (runProgram 3 typed).outcome earlier = .ok 5 ∧
        ((runProgram 3 typed).after earlier).console.text = "nil\nnil\n") := by
  have half : halfTyped.Accepted := ⟨halfTokens, _, parsed_half, checked_half⟩
  have again : typed.Accepted := ⟨tokens, source, parsed, checked⟩
  have start : Session {} (.initial {}) := .new
  have session := Session.run (.run start half 3) again 3
  obtain ⟨outcome, console⟩ := Session.run_isolated session again 3
  refine ⟨again, session, rfl, outcome, ?_⟩
  rw [console]
  rfl

end Primer
