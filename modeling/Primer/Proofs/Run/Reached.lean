import Mathlib.Data.List.Induction
import Primer.Proofs.Run.Turn

/-! Whatever part a run comes to, checking came there too, and the machine meets the names it had.

A run starts with the globals, each among those before it, and goes on in the main function. Turns
keep to what checking did, and a call leads into the body of a function as it was checked, with the
arguments in the cells of its parameters. So it goes for all moments of a run, by induction.
-/

set_option autoImplicit false

namespace Primer

open Eval

/-- The settings of a program: that of its functions, and those of its globals. -/
def Setting.Serves (typed : Program) (last : Checker) (setting : Setting) : Prop :=
  setting = .ofProgram typed last ∨ ∃ checker, setting = .ofGlobals checker

def Program.Traces (program typed : Program) (console : Console) (number index : Nat)
    (binding : Variable) (cell : Nat) : Prop :=
  ∃ origin, Declares program origin number index binding ∧ Creates typed console origin cell

/-- What checking knew of the part that a run has come to. -/
structure Program.Knows (discipline : Discipline) (program typed : Program) (last : Checker)
    (console : Console) (place : Place) (part : Part Value) (machine : Machine)
    (source : Part Ty) (checker : Checker) (setting : Setting) : Prop where
  visits : Visits program place source checker
  checks : source.Checks checker part
  suits : part.Suits discipline
  serves : setting.Serves typed last
  meets : Meets discipline setting (program.Traces typed console) checker.names machine

section program

variable {discipline : Discipline} {program typed : Program} {loaded last : Checker}
  {console : Console} {setting : Setting} {names : Names} {machine : Machine}

namespace Setting.Serves

theorem sound (serves : setting.Serves typed last) (passes : program.Passes typed loaded last)
    (proper : ∀ function ∈ program.functions, function.Proper) (suits : typed.Suits discipline) :
    setting.Sound discipline := by
  rcases serves with rfl | ⟨checker, rfl⟩
  · exact passes.sound proper suits
  · exact sound_ofGlobals checker

/-- Only functions of the program are loaded, and none of them before all globals are there. -/
theorem declared (serves : setting.Serves typed last) {key : String × Nat} {function : Function}
    {scope : Chain} (found : setting.functions.lookup key = some (.declared function scope)) :
    setting = .ofProgram typed last ∧ function ∈ typed.functions ∧ scope = Chain.root ∧
      (function.name, function.arity) = key := by
  rcases serves with rfl | ⟨checker, rfl⟩
  · rcases Callable.of_lookup_table found with print | ⟨other, member, same, named⟩
    · cases print
    · cases same
      exact ⟨rfl, member, rfl, named⟩
  · obtain ⟨-, same⟩ := Callable.of_lookup_builtIn found
    cases same

end Setting.Serves

/-! ### Calls -/

/-- A call leads into the body of a function as checking came to it. -/
theorem Program.Passes.knows_of_enters (passes : program.Passes typed loaded last)
    (proper : ∀ function ∈ program.functions, function.Proper) (suits : typed.Suits discipline)
    (serves : setting.Serves typed last)
    (meets : Meets discipline setting (program.Traces typed console) names machine)
    {name : String} {arguments : List Value} {function : Function} {inner : Machine}
    (enters : machine.Enters name arguments function inner)
    (admitted : ∀ signature, function.binding = some signature →
      signature.parameterTypes.length = arguments.length →
      List.Forall₂ discipline.Admits signature.parameterTypes arguments)
    (reaches : Reaches typed console (Root.body function.name function.arity).place
      (.statements function.body) inner) :
    ∃ source checker, program.Knows discipline typed last console
      (Root.body function.name function.arity).place (.statements function.body) inner source
      checker (.ofProgram typed last) := by
  obtain ⟨kinds, fits⟩ := meets.fits
  obtain ⟨scope, looked, arity, -, rfl⟩ := enters
  rw [fits.dynamic.getFunction?, fits.functions] at looked
  obtain ⟨rfl, member, rfl, -⟩ := serves.declared looked
  obtain ⟨earlier, later, source, done, before, signature, final, split, ran, checked⟩ :=
    passes.checked proper member
  have inside : source ∈ program.functions := List.mem_of_split split
  have suited := suits.bodies function member
  obtain ⟨name, parameters, parameterTypes, returnTypeName, body, bound⟩ := function
  -- Checking has left all but the body and the signature as they were.
  cases checked.same
  have checksBody : program.ChecksBody source (signature.inBody
      (before.names.defineFunction source.name source.arity signature) source.parameters) :=
    ⟨earlier, later, _, done, loaded, before, signature, passes.globals, split, ran,
      checked.spelled, rfl⟩
  have inner : (signature.inBody (before.names.defineFunction source.name source.arity signature)
      source.parameters).InBody :=
    ⟨signature.inBody_ne_root checked.rooted source.parameters, signature, rfl⟩
  have counted : source.parameters.length = arguments.length := arity
  have typesCounted := (Function.parameterTypes_of_signature checked.spelled).trans
    ((proper source inside).parameters.symm.trans counted)
  have started := meets.entered checked (proper source inside).parameters
    (admitted signature rfl typesCounted) (by
      intro index name type named spelt
      refine ⟨.parameter source.name source.arity index,
        .parameter checksBody checked.spelled named spelt, ?_⟩
      -- The arguments are in the newest cells of the machine that the body starts on.
      have made := Creates.parameter reaches (List.getElem?_eq_some_iff.mp named).1
      rw [Machine.size_defineAll, List.length_zip, ← counted, Nat.min_self,
        Nat.add_sub_cancel] at made
      exact made)
  have visits := Visits.body checksBody
  exact ⟨.statements source.body, _, visits, .statements inner checked.body, suited, .inl rfl,
    started⟩

/-! ### Loading -/

theorem EStateM.mapM_eq_ok_nil {ε σ α β : Type} {step : α → EStateM ε σ β} {items : List α}
    {before after : σ} (ran : items.mapM step before = .ok [] after) :
    items = [] ∧ before = after := by
  cases items with
  | nil =>
    cases ran
    exact ⟨rfl, rfl⟩
  | cons first rest =>
    obtain ⟨_, _, _, -, -, same⟩ := EStateM.mapM_cons_eq_ok.mp ran
    cases same

theorem Program.meets_globals (suits : ∀ global ∈ typed.globals, global.Suits discipline)
    {fuel : Nat} {sources later done others : List Global} {checker : Checker} {machine : Machine}
    (split : program.globals = sources ++ later) (typedSplit : typed.globals = done ++ others)
    (checked : sources.mapM Check.global .initial = .ok done checker)
    (ran : done.forM (loadGlobal fuel) (.initial console) = .ok () machine) :
    checker.AtTop ∧
      Meets discipline (.ofGlobals checker) (program.Traces typed console) checker.names
        machine := by
  induction done using List.reverseRecOn generalizing sources later others checker machine with
  | nil =>
    obtain ⟨rfl, rfl⟩ := EStateM.mapM_eq_ok_nil checked
    cases ran
    exact ⟨Checker.atTop_initial, ⟨[], Fits.initial console⟩, .cons trivial .nil⟩
  -- The last global finds those before it, which the induction is about.
  | append_singleton front result ih =>
    obtain ⟨earlier, source, rest, before, next, rfl, frontChecked, sourceChecked, restChecked,
      counted⟩ := EStateM.mapM_split checked
    obtain ⟨rfl, rfl⟩ := EStateM.mapM_eq_ok_nil restChecked
    change (forM (front ++ [result]) (loadGlobal fuel) : Eval Unit) _ = _ at ran
    rw [List.forM_append] at ran
    obtain ⟨_, between, frontRan, ran⟩ := EStateM.bind_eq_ok.mp ran
    rw [List.append_assoc] at split typedSplit
    obtain ⟨top, meets⟩ := ih split typedSplit frontChecked frontRan
    obtain ⟨kinds, fits⟩ := meets.fits
    have member : result ∈ typed.globals := List.mem_of_split typedSplit
    have single : loadGlobal fuel result between = .ok () machine := by
      obtain ⟨_, last, loadRan, done⟩ := EStateM.bind_eq_ok.mp ran
      cases done
      exact loadRan
    obtain ⟨more, fitsAfter⟩ :=
      (ensures_loadGlobal sourceChecked top (suits result member) fuel fits).of_ok single
    refine ⟨top.of_global sourceChecked, ⟨_, fitsAfter⟩, ?_⟩
    obtain ⟨found, middle, began, defined⟩ := EStateM.bind_eq_ok.mp single
    cases defined
    obtain ⟨value, binding, declared, rfl, rfl⟩ := Check.of_global sourceChecked
    obtain ⟨initial, -, spelling, -⟩ := Variable.initial_of_declare declared
    have missing := Discipline.admits_of_missing (suits _ member).missing spelling
    have begun := meets.begun (Setting.sound_ofGlobals before) initial missing
      (suits _ member).value ⟨fuel, began⟩
    refine begun.define source.name ⟨.global earlier.length, ?_, ?_⟩
    · exact .global ⟨earlier, later, front, split, rfl, frontChecked⟩ declared
    · exact .global ⟨front, others, fuel, typedSplit, counted, frontRan⟩ ⟨fuel, began⟩

/-- Loading functions binds no variable. -/
theorem Program.Passes.meets_of_loadProgram (passes : program.Passes typed loaded last)
    (proper : ∀ function ∈ program.functions, function.Proper) (suits : typed.Suits discipline)
    {fuel : Nat} (ran : loadProgram fuel typed (.initial console) = .ok () machine) :
    Meets discipline (.ofProgram typed last) (program.Traces typed console) last.names machine := by
  rw [loadProgram_eq] at ran
  obtain ⟨_, between, globalsRan, modified⟩ := EStateM.bind_eq_ok.mp ran
  cases modified
  obtain ⟨loadedTop, meets⟩ := program.meets_globals suits.globals (List.append_nil _).symm
    (List.append_nil _).symm passes.globals globalsRan
  obtain ⟨kinds, fits⟩ := meets.fits
  refine ⟨⟨_, fits.load passes proper⟩, ?_⟩
  obtain ⟨machineTop, bound, -⟩ := (fits.atTop loadedTop.current).load typed.functions
  have level := meets.traced.root fits.static fits.dynamic
  rw [← passes.globals_last, ← bound] at level
  unfold Environment.Agree
  rw [passes.atTop_last.current, machineTop.current]
  exact .cons level .nil

/-- A run comes to a global with those before it, as checking does. -/
theorem Program.Passes.knows_of_loadsGlobal (passes : program.Passes typed loaded last)
    (suits : typed.Suits discipline) {index : Nat} {global : Global} {value : Expr}
    (loads : typed.LoadsGlobal console index global machine) (given : global.value = some value) :
    ∃ source checker setting, program.Knows discipline typed last console
      (Root.global index).place (.value value) machine source checker setting := by
  obtain ⟨earlier, later, fuel, split, counted, ran⟩ := loads
  have checked := passes.globals
  rw [split] at checked
  obtain ⟨sources, source, others, checker, next, parted, earlierChecked, sourceChecked, -,
    same⟩ := EStateM.mapM_split checked
  obtain ⟨-, meets⟩ := program.meets_globals suits.globals parted split earlierChecked ran
  have checks : program.ChecksGlobal index source checker :=
    ⟨sources, others, earlier, parted, same.symm.trans counted, earlierChecked⟩
  have member : global ∈ typed.globals := List.mem_of_split split
  obtain ⟨_, binding, declared, rfl, -⟩ := Check.of_global sourceChecked
  obtain ⟨initial, -⟩ := Variable.initial_of_declare declared
  obtain ⟨expr, written, valueChecks⟩ := Part.checks_of_initial initial given
  exact ⟨_, _, _, .global checks written, valueChecks, (suits.globals _ member).value _ given,
    .inr ⟨checker, rfl⟩, meets⟩

/-! ### From one moment to the next -/

namespace Program.Knows

variable {place : Place} {part inner : Part Value} {source : Part Ty} {checker : Checker}
  {after : Machine} (sound : setting.Sound discipline)

include sound

theorem turn
    (knows : program.Knows discipline typed last console place part machine source checker setting)
    (reaches : Reaches typed console place part machine) {index : Nat}
    (step : Step part machine index inner after) :
    ∃ sourceInner next, program.Knows discipline typed last console (place.turn index) inner after
      sourceInner next setting := by
  obtain ⟨sourceInner, next, visit, checks, innerSuits, meets⟩ :=
    step.follows sound knows.checks knows.suits knows.meets (by
      rintro name typeName value value' bound binding rest rest' found middle rfl rfl declared
        begins
      exact ⟨.declaration (place.turn 0), .declaration (.turn knows.visits .first) declared,
        .declaration (.turn reaches .first) begins⟩)
  exact ⟨_, _, .turn knows.visits visit, checks, innerSuits, knows.serves, meets⟩

theorem again {test : Expr} {body : List Stmt} {between : Machine}
    (knows : program.Knows discipline typed last console place (.statement (.loop test body))
      machine source checker setting) (holds : test.Yields machine (.boolean true) between)
    (round : Stmt.BlockEnds body between .next after) :
    program.Knows discipline typed last console place (.statement (.loop test body)) after source
      checker setting := by
  obtain ⟨visits, checks, loopSuits, serves, meets⟩ := knows
  cases checks with
  | statement inBody checked =>
    refine ⟨visits, .statement inBody checked, loopSuits, serves, ?_⟩
    cases Stmt.typed_of_check checked with
    | loop testChecked bodyChecked =>
      exact (meets.evaluated sound testChecked loopSuits.2.1 holds).rounded sound inBody
        bodyChecked loopSuits.2.2 round

/-- Behind the arguments of a call, these are what the function that it enters asks for. -/
theorem arguments {name : String} {arguments : List Expr} {binding : Option Signature}
    {type : Option Ty} {values : List Value}
    (knows : program.Knows discipline typed last console place
      (.value (.call name arguments binding type)) machine source checker setting)
    (before : Expr.YieldAll arguments machine values after) :
    Meets discipline setting (program.Traces typed console) checker.names after ∧
      ∀ function inner, after.Enters name values function inner →
        ∀ signature, function.binding = some signature →
          List.Forall₂ discipline.Admits signature.parameterTypes values := by
  obtain ⟨visits, checks, callSuits, serves, meets⟩ := knows
  cases checks with
  | value checked =>
    cases Expr.typed_of_check checked with
    | call found argumentsChecked =>
      obtain ⟨later, admitted, callable, looked, -, carries⟩ :=
        meets.called sound found argumentsChecked callSuits.2 before
      refine ⟨later, ?_⟩
      rintro function inner ⟨scope, entered, -⟩ other bound
      -- The function that is entered is the one that was looked up.
      cases looked.symm.trans entered
      cases carries.symm.trans bound
      exact admitted

end Program.Knows

/-! ### Runs -/

theorem Program.Passes.knows_of_main (passes : program.Passes typed loaded last)
    (proper : ∀ function ∈ program.functions, function.Proper) (suits : typed.Suits discipline)
    {fuel : Nat} {function : Function} {inner : Machine}
    (loads : loadProgram fuel typed (.initial console) = .ok () machine)
    (enters : machine.Enters "main" [] function inner) :
    ∃ source checker, program.Knows discipline typed last console
      (Root.body function.name function.arity).place (.statements function.body) inner source
      checker (.ofProgram typed last) := by
  have meets := passes.meets_of_loadProgram proper suits loads
  refine passes.knows_of_enters proper suits (.inl rfl) meets enters ?_ (.main loads enters)
  intro signature _ counted
  rw [List.length_eq_zero_iff.mp counted]
  exact .nil

theorem Reaches.known (passes : program.Passes typed loaded last)
    (proper : ∀ function ∈ program.functions, function.Proper) (suits : typed.Suits discipline)
    {place : Place} {part : Part Value} {machine : Machine}
    (reaches : Reaches typed console place part machine) :
    ∃ source checker setting,
      program.Knows discipline typed last console place part machine source checker setting := by
  induction reaches with
  | global loads given => exact passes.knows_of_loadsGlobal suits loads given
  | main loads enters =>
    obtain ⟨source, checker, knows⟩ := passes.knows_of_main proper suits loads enters
    exact ⟨source, checker, _, knows⟩
  | turn reaches step ih =>
    obtain ⟨source, checker, setting, knows⟩ := ih
    obtain ⟨sourceInner, next, further⟩ :=
      knows.turn (knows.serves.sound passes proper suits) reaches step
    exact ⟨sourceInner, next, setting, further⟩
  | again reaches holds round ih =>
    obtain ⟨source, checker, setting, knows⟩ := ih
    exact ⟨source, checker, setting,
      knows.again (knows.serves.sound passes proper suits) holds round⟩
  | call reaches before enters ih =>
    obtain ⟨source, checker, setting, knows⟩ := ih
    obtain ⟨later, admitted⟩ := knows.arguments (knows.serves.sound passes proper suits) before
    obtain ⟨inside, next, entered⟩ := passes.knows_of_enters proper suits knows.serves later enters
      (fun signature bound _ => admitted _ _ enters signature bound)
      (.call reaches before enters)
    exact ⟨inside, next, _, entered⟩

end program

end Primer
