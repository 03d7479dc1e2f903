import Primer.Proofs.Run.Call
import Primer.Proofs.Typing.Shape

/-! Whole runs of checked programs.

Loading puts the machine in the state that checking left the names in: the globals bound in the
global scope, every function loaded under the signature that it was given. From there on calls are
sound.
-/

set_option autoImplicit false

namespace Primer

open Eval

/-! ### Functions as they are loaded -/

def Function.entry (function : Function) : (String × Nat) × Callable :=
  ((function.name, function.arity), .declared function Chain.root)

def Callable.builtIn : List ((String × Nat) × Callable) :=
  [(("print", 1), .print)]

def Callable.table (functions : List Function) : List ((String × Nat) × Callable) :=
  functions.foldl (fun table function => function.entry :: table) Callable.builtIn

/-- What an entry of the table has to do with the signature of the same place. -/
structure Callable.Aligned (signed : (String × Nat) × Signature)
    (loaded : (String × Nat) × Callable) : Prop where
  key : signed.1 = loaded.1
  counted : signed.2.parameterTypes.length = signed.1.2
  carries : loaded.2.Carries signed.2
  main : signed.1 = ("main", 0) → signed.2.returnType = .integer

theorem Callable.lookup_of_aligned {signed : List ((String × Nat) × Signature)}
    {loaded : List ((String × Nat) × Callable)} (aligned : List.Forall₂ Aligned signed loaded)
    {key : String × Nat} {signature : Signature} (found : signed.lookup key = some signature) :
    signature.parameterTypes.length = key.2 ∧
      (key = ("main", 0) → signature.returnType = .integer) ∧
      ∃ callable, loaded.lookup key = some callable ∧ callable.Carries signature := by
  induction aligned with
  | nil => cases found
  | @cons left right lefts rights first _ ih =>
    rcases List.lookup_cons_eq_some.mp found with ⟨rfl, rfl⟩ | ⟨other, found⟩
    · have here : (right :: rights).lookup left.1 = some right.2 :=
        List.lookup_cons_eq_some.mpr (.inl ⟨first.key, rfl⟩)
      exact ⟨first.counted, first.main, right.2, here, first.carries⟩
    · rw [first.key] at other
      obtain ⟨counted, main, callable, looked, carries⟩ := ih found
      have behind := List.lookup_cons_eq_some.mpr (.inr ⟨other, looked⟩)
      exact ⟨counted, main, callable, behind, carries⟩

theorem Callable.of_lookup_builtIn {key : String × Nat} {callable : Callable}
    (found : builtIn.lookup key = some callable) : key = ("print", 1) ∧ callable = .print := by
  rcases List.lookup_cons_eq_some.mp found with ⟨rfl, rfl⟩ | ⟨-, missing⟩
  · exact ⟨rfl, rfl⟩
  · cases missing

theorem Callable.table_eq (functions : List Function) :
    table functions = (functions.map Function.entry).reverse ++ builtIn :=
  List.foldl_flip_cons_eq_append

theorem Callable.table_concat (functions : List Function) (function : Function) :
    table (functions ++ [function]) = function.entry :: table functions := by
  unfold table
  rw [List.foldl_append]
  rfl

/-- An entry that is found is the built-in function or one of the program. -/
theorem Callable.of_lookup_table {functions : List Function} {key : String × Nat}
    {callable : Callable} (found : (Callable.table functions).lookup key = some callable) :
    callable = .print ∨ ∃ function ∈ functions,
      callable = .declared function Chain.root ∧ (function.name, function.arity) = key := by
  have member := List.mem_of_lookup found
  rw [table_eq, List.mem_append, List.mem_reverse, List.mem_map] at member
  rcases member with ⟨function, inside, same⟩ | atStart
  · cases same
    exact .inr ⟨function, inside, rfl, rfl⟩
  · cases List.mem_singleton.mp atStart
    exact .inl rfl

theorem Function.returnType_of_main {function : Function} {signature : Signature}
    (spelled : function.signature = .ok signature) (main : function.isMain = true) :
    signature.returnType = .integer := by
  unfold Function.signature at spelled
  obtain ⟨types, -, spelled⟩ := Except.bind_eq_ok.mp spelled
  obtain ⟨returnType, found, spelled⟩ := Except.bind_eq_ok.mp spelled
  cases spelled
  unfold Function.returnType at found
  obtain ⟨declared, -, found⟩ := Except.bind_eq_ok.mp found
  rw [main] at found
  cases declared with
  | none =>
    cases found
    rfl
  | some type =>
    by_cases integer : type = .integer
    · simp only [integer, if_true] at found
      cases found
      rfl
    · simp only [integer, if_false] at found
      cases found

theorem Checker.aligned_functions {functions typed : List Function} {before after : Checker}
    (top : before.AtTop) (checked : functions.mapM Check.function before = .ok typed after)
    (proper : ∀ function ∈ functions, function.Proper)
    {table : List ((String × Nat) × Callable)}
    (aligned : List.Forall₂ Callable.Aligned (before.names.boundFunctions 0) table) :
    List.Forall₂ Callable.Aligned (after.names.boundFunctions 0)
      (typed.foldl (fun table function => function.entry :: table) table) := by
  induction functions generalizing before typed table with
  | nil =>
    cases checked
    exact aligned
  | cons first rest ih =>
    obtain ⟨result, others, middle, head, tail, rfl⟩ := EStateM.mapM_cons_eq_ok.mp checked
    obtain ⟨middleTop, -, signature, bound, functions⟩ := top.of_function head
    obtain ⟨found, last, spelled, -, -, -, same, -⟩ := Check.of_function head
    cases Function.eq_of_binding same bound
    have counted := (proper first List.mem_cons_self).parameters
    have key : ((first.name, first.arity) : String × Nat) = result.entry.1 := by rw [same]; rfl
    have step : Callable.Aligned ((first.name, first.arity), signature) result.entry :=
      { key
        counted := (Function.parameterTypes_of_signature spelled).trans counted.symm
        carries := bound
        main := by
          intro isMain
          apply Function.returnType_of_main spelled
          obtain ⟨name, arity⟩ := Prod.mk.inj isMain
          unfold Function.isMain
          rw [name, arity]
          rfl }
    have others := fun function member => proper function (List.mem_cons_of_mem first member)
    apply ih middleTop tail others
    rw [functions]
    exact .cons step aligned

/-! ### The setting of a program -/

def Setting.ofProgram (typed : Program) (last : Checker) : Setting where
  globals := last.names.boundVariables 0
  functions := Callable.table typed.functions

structure Global.Suits (discipline : Discipline) (global : Global) : Prop where
  missing : global.value = none → discipline.PermitsMissing global.typeName
  value : ∀ value, global.value = some value → value.Every (Expr.Suits discipline)

structure Program.Suits (discipline : Discipline) (typed : Program) : Prop where
  globals : ∀ global ∈ typed.globals, global.Suits discipline
  bodies : ∀ function ∈ typed.functions,
    Stmt.EveryIn (Expr.Suits discipline) (Stmt.Suits discipline) function.body
  endings : ∀ function ∈ typed.functions, ∀ signature, function.binding = some signature →
    discipline.Admits signature.returnType .nil ∨ Stmt.allPathsReturn function.body

section program

variable {discipline : Discipline} {program typed : Program} {loaded last : Checker}

theorem Program.Passes.atTop_last (passes : program.Passes typed loaded last) : last.AtTop :=
  (Checker.extends_functions passes.functions passes.atTop_loaded).1

theorem Program.Passes.globals_last (passes : program.Passes typed loaded last) :
    last.names.boundVariables 0 = loaded.names.boundVariables 0 :=
  (Checker.extends_functions passes.functions passes.atTop_loaded).2.1

theorem Checker.boundFunctions_initial :
    Checker.initial.names.boundFunctions 0 = [(("print", 1), Signature.print)] := rfl

theorem Checker.boundFunctions_of_globals {globals typed : List Global} {before after : Checker}
    (checked : globals.mapM Check.global before = .ok typed after) (number : Nat) :
    after.names.boundFunctions number = before.names.boundFunctions number :=
  EStateM.mapM_relates
    (motive := fun before after : Checker =>
      after.names.boundFunctions number = before.names.boundFunctions number)
    (fun _ => rfl) (fun _ _ _ left right => right.trans left)
    (fun _ _ before _ _ step => by
      obtain ⟨_, binding, -, -, rfl⟩ := Check.of_global step
      exact Environment.boundFunctions_defineVariable _ _ _ _)
    checked

theorem Callable.aligned_builtIn :
    List.Forall₂ Callable.Aligned [(("print", 1), Signature.print)] Callable.builtIn := by
  refine .cons ?_ .nil
  exact { key := rfl, counted := rfl, carries := rfl, main := by decide }

theorem Program.Passes.aligned (passes : program.Passes typed loaded last)
    (proper : ∀ function ∈ program.functions, function.Proper) :
    List.Forall₂ Callable.Aligned (last.names.boundFunctions 0)
      (Callable.table typed.functions) := by
  apply Checker.aligned_functions passes.atTop_loaded passes.functions proper
  rw [Checker.boundFunctions_of_globals passes.globals 0, Checker.boundFunctions_initial]
  exact Callable.aligned_builtIn

theorem Program.Passes.offers (passes : program.Passes typed loaded last)
    (proper : ∀ function ∈ program.functions, function.Proper) :
    (Setting.ofProgram typed last).Offers last.names := by
  intro key signature found
  obtain ⟨counted, -, callable, looked, carries⟩ :=
    Callable.lookup_of_aligned (passes.aligned proper) found
  exact ⟨counted, callable, looked, carries⟩

theorem Program.Passes.checked (passes : program.Passes typed loaded last)
    (proper : ∀ function ∈ program.functions, function.Proper) {function : Function}
    (member : function ∈ typed.functions) :
    ∃ (earlier later : List Function) (source : Function) (done : List Function)
      (before : Checker) (signature : Signature) (inner : Checker),
      program.functions = earlier ++ source :: later ∧
        earlier.mapM Check.function loaded = .ok done before ∧
        source.Checked (Setting.ofProgram typed last) function signature
          (before.names.defineFunction source.name source.arity signature) inner := by
  obtain ⟨done, others, parted⟩ := List.append_of_mem member
  have ran := passes.functions
  rw [parted] at ran
  obtain ⟨earlier, source, later, before, next, split, doneRan, step, othersRan, -⟩ :=
    EStateM.mapM_split ran
  refine ⟨earlier, later, source, done, before, ?_⟩
  obtain ⟨top, variablesBefore, -⟩ := Checker.extends_functions doneRan passes.atTop_loaded
  obtain ⟨nextTop, -, signature, bound, functions⟩ := top.of_function step
  obtain ⟨found, inner, spelled, -, body, -, same, -⟩ := Check.of_function step
  cases Function.eq_of_binding same bound
  have zero := Chain.top_eq_zero top.current
  refine ⟨signature, inner, split, doneRan, ?_⟩
  exact
    { spelled, same, body
      rooted := top.rooted.defineFunction zero _ _ _
      current := top.current
      globals := by
        rw [Environment.boundVariables_defineFunction, variablesBefore]
        exact passes.globals_last.symm
      offers := by
        -- What is known here is still known at the end.
        intro key other looked
        have defined := Environment.boundFunctions_defineFunction_top before.names source.name
          source.arity signature top.rooted.bounded
        rw [zero] at defined
        rw [defined, ← functions] at looked
        have still := (Checker.extends_functions othersRan nextTop).2.2 key other looked
        exact passes.offers proper key other still }

theorem Program.Passes.proper_typed (passes : program.Passes typed loaded last)
    (proper : ∀ function ∈ program.functions, function.Proper) {function : Function}
    (member : function ∈ typed.functions) :
    Stmt.EveryIn (fun _ => True) Stmt.hasDefault function.body := by
  obtain ⟨earlier, later, source, _, _, _, inner, split, -, checked⟩ := passes.checked proper member
  have inside : source ∈ program.functions := List.mem_of_split split
  exact Stmt.defaults_of_checkAll checked.body (proper source inside).defaults

theorem Program.Passes.sound (passes : program.Passes typed loaded last)
    (proper : ∀ function ∈ program.functions, function.Proper) (suits : typed.Suits discipline) :
    (Setting.ofProgram typed last).Sound discipline := by
  intro key callable found
  rcases Callable.of_lookup_table found with rfl | ⟨function, member, rfl, rfl⟩
  · exact .inl rfl
  · obtain ⟨earlier, later, source, _, before, signature, inner, split, -, checked⟩ :=
      passes.checked proper member
    have inside : source ∈ program.functions := List.mem_of_split split
    refine .inr ⟨source, function, signature, _, inner, rfl, rfl, checked,
      (proper source inside).parameters, ?_⟩
    exact
      { body := suits.bodies function member
        defaults := passes.proper_typed proper member
        ending := suits.endings function member }

end program

/-! ### Loading -/

namespace Eval

def loadGlobal (fuel : Nat) (global : Global) : Eval Unit := do
  let value ← initialValue (Callable.invoke fuel) global.value
  define global.name value

end Eval

def Machine.load (machine : Machine) (functions : List Function) : Machine :=
  { machine with
    scopes := functions.foldl
      (fun scopes function =>
        scopes.defineFunction function.name function.arity (.declared function scopes.current))
      machine.scopes }

theorem Eval.loadProgram_eq (fuel : Nat) (program : Program) :
    loadProgram fuel program =
      (do
        program.globals.forM (loadGlobal fuel)
        modify fun machine => machine.load program.functions) := by
  unfold loadProgram
  congr 1
  congr 1
  funext global
  unfold loadGlobal
  cases global.value <;> rfl

structure Machine.AtTop (machine : Machine) : Prop where
  rooted : machine.scopes.Rooted
  current : machine.scopes.current = Chain.root

section loading

variable {discipline : Discipline}

theorem Machine.atTop_initial (console : Console) : (Machine.initial console).AtTop where
  rooted := Environment.rooted_root.defineFunction rfl _ _ _
  current := rfl

/-- Loading functions touches nothing but the functions of the global scope. -/
theorem Machine.AtTop.load {machine : Machine} (top : machine.AtTop) (functions : List Function) :
    (machine.load functions).AtTop ∧
      (machine.load functions).scopes.boundVariables 0 = machine.scopes.boundVariables 0 ∧
      (machine.load functions).scopes.boundFunctions 0 =
        functions.foldl (fun table function => function.entry :: table)
          (machine.scopes.boundFunctions 0) := by
  induction functions generalizing machine with
  | nil => exact ⟨top, rfl, rfl⟩
  | cons first rest ih =>
    have zero := Chain.top_eq_zero top.current
    have stepped : (machine.load [first]).AtTop :=
      ⟨top.rooted.defineFunction zero _ _ _, top.current⟩
    obtain ⟨lastTop, variableBindings, functionBindings⟩ := ih stepped
    refine ⟨lastTop, ?_, ?_⟩
    · exact variableBindings.trans (Environment.boundVariables_defineFunction _ _ _ _ 0)
    · have defined : (machine.load [first]).scopes.boundFunctions machine.scopes.current.top =
          ((first.name, first.arity), .declared first machine.scopes.current) ::
            machine.scopes.boundFunctions machine.scopes.current.top :=
        Environment.boundFunctions_defineFunction_top machine.scopes first.name first.arity
          (.declared first machine.scopes.current) top.rooted.bounded
      rw [zero, top.current] at defined
      rw [defined] at functionBindings
      exact functionBindings

theorem Fits.defineGlobal {setting : Setting} {checker : Checker} {kinds : List Variable}
    {machine : Machine} (fits : Fits discipline setting checker.names kinds machine)
    (top : checker.AtTop) (name : String) {binding : Variable} {value : Value}
    (holds : discipline.Holds binding value) :
    Fits discipline { setting with globals := (name, binding) :: setting.globals }
      (checker.names.defineVariable name binding) (kinds ++ [binding])
      (machine.define name value) := by
  have defined := Environment.boundVariables_defineVariable_top checker.names name binding
    fits.static.bounded
  rw [Chain.top_eq_zero top.current, fits.globals] at defined
  exact fits.defineVariable name holds defined

def Setting.ofGlobals (checker : Checker) : Setting where
  globals := checker.names.boundVariables 0
  functions := Callable.builtIn

theorem Setting.sound_ofGlobals (checker : Checker) :
    (Setting.ofGlobals checker).Sound discipline := by
  intro key callable found
  have inTable : (Callable.table []).lookup key = some callable := found
  rcases Callable.of_lookup_table inTable with print | ⟨_, member, -⟩
  · exact .inl print
  · cases member

theorem Fits.atTop {setting : Setting} {names : Names} {kinds : List Variable} {machine : Machine}
    (fits : Fits discipline setting names kinds machine) (current : names.current = Chain.root) :
    machine.AtTop where
  rooted := fits.dynamic
  current := by
    have agree := fits.agree
    have root := fits.dynamic.root
    unfold Environment.Agree at agree
    rw [current] at agree
    cases chain : machine.scopes.current with
    | mk top outer =>
      rw [chain] at agree root
      cases agree with
      | cons _ rest =>
        cases rest
        have zero : 0 = top := List.mem_singleton.mp root
        subst zero
        rfl

/-- A global is evaluated among the globals before it. -/
theorem Eval.ensures_loadGlobal {global typed : Global} {before after : Checker}
    (checked : Check.global global before = .ok typed after) (top : before.AtTop)
    (suits : typed.Suits discipline) (fuel : Nat) {kinds : List Variable} {machine : Machine}
    (fits : Fits discipline (Setting.ofGlobals before) before.names kinds machine) :
    (loadGlobal fuel typed).Ensures discipline.Tolerates machine
      (Extended kinds fun kinds _ machine =>
        Fits discipline (Setting.ofGlobals after) after.names kinds machine) := by
  obtain ⟨value, binding, declared, rfl, rfl⟩ := Check.of_global checked
  obtain ⟨initial, -, spelling, -⟩ := Variable.initial_of_declare declared
  have missing := Discipline.admits_of_missing suits.missing spelling
  have calls : Call.Sound discipline (Setting.ofGlobals before) (Callable.invoke fuel) :=
    Callable.invoke_sound (Setting.sound_ofGlobals before) fuel
  unfold loadGlobal
  apply (ensures_initialValue calls initial missing suits.value fits).bindExtended
  rintro more found last ⟨fits, holds⟩
  have defined := fits.defineGlobal top global.name holds
  have bound := Environment.boundVariables_defineVariable_top before.names global.name binding
    fits.static.bounded
  have zero := Chain.top_eq_zero top.current
  rw [zero] at bound
  refine ⟨[binding], ?_⟩
  unfold Setting.ofGlobals
  rw [bound]
  exact defined

theorem Eval.ensures_globals {globals typed : List Global} {before after : Checker}
    (checked : globals.mapM Check.global before = .ok typed after) (top : before.AtTop)
    (suits : ∀ global ∈ typed, global.Suits discipline) (fuel : Nat) {kinds : List Variable}
    {machine : Machine}
    (fits : Fits discipline (Setting.ofGlobals before) before.names kinds machine) :
    (typed.forM (loadGlobal fuel)).Ensures discipline.Tolerates machine
      (Extended kinds fun kinds _ machine =>
        Fits discipline (Setting.ofGlobals after) after.names kinds machine) := by
  induction globals generalizing before typed kinds machine with
  | nil =>
    cases checked
    exact ensures_pure (.now fits)
  | cons first rest ih =>
    obtain ⟨result, others, middle, head, tail, rfl⟩ := EStateM.mapM_cons_eq_ok.mp checked
    have one := ensures_loadGlobal head top (suits _ List.mem_cons_self) fuel fits
    apply one.bindExtended
    rintro more _ last fits
    exact ih tail (top.of_global head)
      (fun global member => suits global (List.mem_cons_of_mem _ member))
      fits

theorem Fits.initial (console : Console) :
    Fits discipline (Setting.ofGlobals .initial) Checker.initial.names [] (.initial console) where
  static := Checker.atTop_initial.rooted
  dynamic := (Machine.atTop_initial console).rooted
  agree := .cons trivial .nil
  globals := rfl
  offers := by
    intro key signature found
    obtain ⟨counted, -, callable, looked, carries⟩ :=
      Callable.lookup_of_aligned Callable.aligned_builtIn found
    exact ⟨counted, callable, looked, carries⟩
  functions := rfl
  stored := .nil

/-- Behind its globals, a program only has functions left to load. -/
theorem Fits.load {program typed : Program} {loaded last : Checker} {kinds : List Variable}
    {machine : Machine} (passes : program.Passes typed loaded last)
    (proper : ∀ function ∈ program.functions, function.Proper)
    (fits : Fits discipline (Setting.ofGlobals loaded) loaded.names kinds machine) :
    Fits discipline (Setting.ofProgram typed last) last.names kinds
      (machine.load typed.functions) := by
  have top := fits.atTop passes.atTop_loaded.current
  obtain ⟨loadedTop, variableBindings, functionBindings⟩ := top.load typed.functions
  exact
    { static := passes.atTop_last.rooted
      dynamic := loadedTop.rooted
      agree := by
        have level := fits.agree.root fits.static fits.dynamic
        rw [← passes.globals_last, ← variableBindings] at level
        unfold Environment.Agree
        rw [passes.atTop_last.current, loadedTop.current]
        exact .cons level .nil
      globals := rfl
      offers := passes.offers proper
      functions := by
        rw [functionBindings, fits.functions]
        rfl
      stored := fits.stored }

section runs

variable {program typed : Program} {loaded last : Checker}

theorem Eval.ensures_loadProgram (passes : program.Passes typed loaded last)
    (proper : ∀ function ∈ program.functions, function.Proper) (suits : typed.Suits discipline)
    (fuel : Nat) (console : Console) :
    (loadProgram fuel typed).Ensures discipline.Tolerates (.initial console) fun _ machine =>
      ∃ kinds, Fits discipline (Setting.ofProgram typed last) last.names kinds machine := by
  rw [loadProgram_eq]
  refine (ensures_globals passes.globals Checker.atTop_initial suits.globals fuel
    (Fits.initial console)).bind ?_
  rintro _ machine ⟨more, fits⟩
  apply ensures_modify.mono
  rintro _ _ rfl
  exact ⟨_, fits.load passes proper⟩

/-- The main function is called without arguments and returns a status. -/
theorem Eval.ensures_main (passes : program.Passes typed loaded last)
    (proper : ∀ function ∈ program.functions, function.Proper) (suits : typed.Suits discipline)
    (fuel : Nat) {kinds : List Variable} {machine : Machine}
    (fits : Fits discipline (Setting.ofProgram typed last) last.names kinds machine) :
    (call fuel "main" []).Ensures discipline.Tolerates machine
      (Extended kinds (Fits.Outcome discipline (Setting.ofProgram typed last) last.names
        (discipline.Admits .integer))) := by
  have bound := passes.main
  rw [Environment.bindsFunction_eq, passes.atTop_last.rooted.global] at bound
  obtain ⟨signature, found⟩ := Option.isSome_iff_exists.mp bound
  obtain ⟨counted, main, -⟩ := Callable.lookup_of_aligned (passes.aligned proper) found
  have looked : last.names.getFunction? "main" 0 = some signature := by
    rw [passes.atTop_last.rooted.getFunction?]
    exact found
  have none : List.Forall₂ discipline.Admits signature.parameterTypes [] := by
    rw [List.length_eq_zero_iff.mp counted]
    exact .nil
  have called := ensures_callNamed (Callable.invoke_sound (passes.sound proper suits) fuel) fits
    looked none
  rwa [main rfl] at called

theorem Eval.ensures_runProgram (passes : program.Passes typed loaded last)
    (proper : ∀ function ∈ program.functions, function.Proper) (suits : typed.Suits discipline)
    (fuel : Nat) (console : Console) :
    (runProgram fuel typed).Ensures discipline.Tolerates (.initial console) fun _ _ => True := by
  unfold runProgram
  apply (ensures_loadProgram passes proper suits fuel console).bind
  rintro _ machine ⟨kinds, fits⟩
  apply (ensures_main passes proper suits fuel fits).bind
  rintro value after ⟨more, -, admitted⟩
  have flushed : flush.Ensures discipline.Tolerates after fun _ _ => True := by
    apply ensures_get.bind
    rintro _ _ ⟨rfl, rfl⟩
    split
    · exact ensures_fail trivial
    · trivial
  apply flushed.bind
  rintro _ final -
  rcases admitted.integer with ⟨code, rfl⟩ | ⟨stray, rfl⟩
  · unfold exitCode
    by_cases inside : Number.fits32 code
    · simp only [inside, if_true]
      trivial
    · simp only [inside]
      exact ensures_fail trivial
  · exact ensures_fail stray

end runs

end loading

end Primer
