import Primer.Proofs.Grammar.Proper
import Primer.Proofs.Run.Program
import Primer.Proofs.Typing.Unique

/-! Machines between runs.

One machine may load and run one program after the other, and what a program binds stays in the
global scope. However a program ends, that scope is the current one again, and the built-in function
is bound in it as before, for checking refuses every function with its name.
-/

set_option autoImplicit false

namespace Primer

open Eval

/-! ### Tables of functions -/

section tables

variable {functions : List Function} {key : String × Nat} {callable : Callable}
  {table : List ((String × Nat) × Callable)}

theorem Callable.lookup_foldl :
    (functions.foldl (fun table function => function.entry :: table) table).lookup key =
      ((functions.map Function.entry).reverse.lookup key).or (table.lookup key) := by
  rw [List.foldl_flip_cons_eq_append, List.lookup_append]

/-- Functions with other names or numbers of parameters do not hide what is bound. -/
theorem Callable.lookup_foldl_of_fresh
    (fresh : ∀ function ∈ functions, (function.name, function.arity) ≠ key) :
    (functions.foldl (fun table function => function.entry :: table) table).lookup key =
      table.lookup key := by
  have absent : (functions.map Function.entry).reverse.lookup key = none := by
    apply List.lookup_eq_none_iff.mpr
    intro entry member
    obtain ⟨function, inside, rfl⟩ := List.mem_map.mp (List.mem_reverse.mp member)
    exact bne_iff_ne.mpr (fresh function inside).symm
  rw [lookup_foldl, absent, Option.none_or]

/-- A program finds its functions and the built-in one whatever was bound before. -/
theorem Callable.lookup_foldl_of_table (print : table.lookup ("print", 1) = some .print)
    (found : (Callable.table functions).lookup key = some callable) :
    (functions.foldl (fun table function => function.entry :: table) table).lookup key =
      some callable := by
  unfold Callable.table at found
  rw [lookup_foldl] at found ⊢
  cases own : (functions.map Function.entry).reverse.lookup key with
  | some entry =>
    rw [own] at found
    exact found
  | none =>
    rw [own, Option.none_or] at found
    rw [Option.none_or]
    obtain ⟨rfl, rfl⟩ := Callable.of_lookup_builtIn found
    exact print

end tables

/-! ### Between runs -/

/-- A machine that a program can be loaded into. -/
structure Machine.Ready (machine : Machine) : Prop where
  top : machine.AtTop
  print : (machine.scopes.boundFunctions 0).lookup ("print", 1) = some .print

theorem Machine.ready_initial (console : Console) : (Machine.initial console).Ready :=
  ⟨Machine.atTop_initial console, rfl⟩

theorem Machine.AtTop.of_keepsOuter {machine after : Machine} (top : machine.AtTop)
    (keeps : machine.KeepsOuter after) : after.AtTop :=
  ⟨top.rooted.of_grows keeps.scopes, keeps.scopes.current.trans top.current⟩

theorem Machine.Ready.of_keepsOuter {machine after : Machine} (ready : machine.Ready)
    (keeps : machine.KeepsOuter after) : after.Ready where
  top := ready.top.of_keepsOuter keeps
  print := by
    rw [keeps.scopes.boundFunctions 0]
    exact ready.print

theorem Machine.boundVariables_inside (machine : Machine) (outer : Chain) (number : Nat) :
    (machine.inside outer).scopes.boundVariables number =
      machine.scopes.boundVariables number :=
  Environment.boundVariables_child machine.scopes outer number

theorem Machine.boundFunctions_inside (machine : Machine) (outer : Chain) (number : Nat) :
    (machine.inside outer).scopes.boundFunctions number =
      machine.scopes.boundFunctions number :=
  Environment.boundFunctions_child machine.scopes outer number

structure Machine.Finds (known : List ((String × Nat) × Callable)) (machine : Machine) : Prop where
  rooted : machine.scopes.Rooted
  functions : ∀ {key callable}, known.lookup key = some callable →
    (machine.scopes.boundFunctions 0).lookup key = some callable

namespace Machine.Finds

variable {known : List ((String × Nat) × Callable)} {machine after : Machine}

theorem getFunction? (finds : machine.Finds known) {name : String} {arity : Nat}
    {callable : Callable} (looked : known.lookup (name, arity) = some callable) :
    machine.scopes.getFunction? name arity = some callable := by
  rw [finds.rooted.getFunction?]
  exact finds.functions looked

theorem of_keepsOuter (finds : machine.Finds known) (keeps : machine.KeepsOuter after) :
    after.Finds known where
  rooted := finds.rooted.of_grows keeps.scopes
  functions looked := by
    rw [keeps.scopes.boundFunctions 0]
    exact finds.functions looked

theorem block (finds : machine.Finds known) :
    (machine.inside machine.scopes.current).Finds known where
  rooted := finds.rooted.child_current
  functions looked := by
    rw [boundFunctions_inside]
    exact finds.functions looked

theorem enter (finds : machine.Finds known) : (machine.inside Chain.root).Finds known where
  rooted := finds.rooted.child_root
  functions looked := by
    rw [boundFunctions_inside]
    exact finds.functions looked

end Machine.Finds

theorem Machine.Ready.finds {machine : Machine} (ready : machine.Ready) :
    machine.Finds Callable.builtIn where
  rooted := ready.top.rooted
  functions looked := by
    obtain ⟨rfl, rfl⟩ := Callable.of_lookup_builtIn looked
    exact ready.print

/-- A machine that a program has been loaded into. -/
structure Machine.Loaded (functions : List Function) (machine : Machine) : Prop where
  ready : machine.Ready
  finds : machine.Finds (Callable.table functions)

namespace Eval

theorem keepsOuter_loadGlobal (fuel : Nat) (global : Global) :
    (loadGlobal fuel global).KeepsOuter :=
  (keeps_initialValue (Callable.keeps_invoke fuel) global.value).outer.bind fun value =>
    keepsOuter_define global.name value

theorem keepsOuter_globals (fuel : Nat) (globals : List Global) :
    (globals.forM (loadGlobal fuel)).KeepsOuter := by
  induction globals with
  | nil => exact (keeps_pure _).outer
  | cons first rest ih => exact (keepsOuter_loadGlobal fuel first).bind fun _ => ih

theorem reads_flush : flush.Reads := by
  apply reads_get.bind
  intro machine
  split
  · exact reads_fail _
  · exact reads_pure _

theorem reads_exitCode (value : Value) : (exitCode value).Reads := by
  unfold exitCode
  split
  · split
    · exact reads_pure _
    · exact reads_fail _
  · exact reads_fail _

def runMain (fuel : Nat) : Eval Int := do
  let value ← call fuel "main" []
  flush
  exitCode value

theorem runProgram_eq (fuel : Nat) (program : Program) :
    runProgram fuel program = loadProgram fuel program >>= fun _ => runMain fuel := rfl

theorem keeps_runMain (fuel : Nat) : (runMain fuel).Keeps :=
  (keeps_callNamed (Callable.keeps_invoke fuel) "main" []).bind fun value =>
    (reads_flush.bind fun _ => reads_exitCode value).keeps

end Eval

section sessions

variable {program typed : Program} {loaded last : Checker}

/-- Accepted programs declare no function with the name and number of parameters of the built-in
one. -/
theorem Program.Passes.ne_print (passes : program.Passes typed loaded last) {function : Function}
    (member : function ∈ typed.functions) : (function.name, function.arity) ≠ ("print", 1) := by
  have bound : (loaded.names.boundFunctions 0).lookup ("print", 1) = some Signature.print := by
    rw [Checker.boundFunctions_of_globals passes.globals 0, Checker.boundFunctions_initial]
    rfl
  exact Checker.fresh_of_bound passes.functions passes.atTop_loaded bound member

theorem Machine.Ready.load {machine : Machine} (ready : machine.Ready)
    (passes : program.Passes typed loaded last) :
    (machine.load typed.functions).Loaded typed.functions := by
  obtain ⟨top, -, functions⟩ := ready.top.load typed.functions
  -- The built-in function is not hidden, since the checker has it from the start.
  refine ⟨⟨top, ?_⟩, top.rooted, fun found => ?_⟩
  · rw [functions, Callable.lookup_foldl_of_fresh fun _ member => passes.ne_print member]
    exact ready.print
  · rw [functions]
    exact Callable.lookup_foldl_of_table ready.print found

theorem Eval.loaded_of_loadProgram {machine after : Machine} {fuel : Nat}
    (passes : program.Passes typed loaded last) (ready : machine.Ready)
    (ran : loadProgram fuel typed machine = .ok () after) : after.Loaded typed.functions := by
  rw [loadProgram_eq] at ran
  obtain ⟨_, middle, globals, modified⟩ := EStateM.bind_eq_ok.mp ran
  cases modified
  have kept := (keepsOuter_globals fuel typed.globals).of_ok globals
  exact (ready.of_keepsOuter kept).load passes

theorem Eval.ready_loadProgram {machine : Machine} {fuel : Nat}
    (passes : program.Passes typed loaded last) (ready : machine.Ready) :
    ((loadProgram fuel typed).after machine).Ready := by
  cases ran : loadProgram fuel typed machine with
  | ok done after =>
    unfold Eval.after
    rw [ran]
    exact (loaded_of_loadProgram passes ready ran).ready
  | error halt after =>
    -- Only the globals can fail.
    have kept := keepsOuter_globals fuel typed.globals machine
    rw [loadProgram_eq] at ran ⊢
    rw [after_bind]
    unfold Eval.after at kept
    cases globals : typed.globals.forM (loadGlobal fuel) machine with
    | ok done middle =>
      simp only [Bind.bind, EStateM.bind, globals] at ran
      cases ran
    | error halt middle =>
      rw [globals] at kept
      exact ready.of_keepsOuter kept

theorem Eval.ready_runProgram {machine : Machine} {fuel : Nat}
    (passes : program.Passes typed loaded last) (ready : machine.Ready) :
    ((runProgram fuel typed).after machine).Ready := by
  have loading : ((loadProgram fuel typed).after machine).Ready := ready_loadProgram passes ready
  -- What follows the loading works in scopes of its own, so it matters only how that ends.
  rw [runProgram_eq, after_bind]
  unfold Eval.after at loading
  cases ran : loadProgram fuel typed machine with
  | ok done after =>
    rw [ran] at loading
    exact loading.of_keepsOuter (keeps_runMain fuel after).outer
  | error halt after =>
    rw [ran] at loading
    exact loading

end sessions

def Program.Accepted (typed : Program) : Prop :=
  ∃ tokens program, Program.ofTokens tokens = .ok program ∧ program.check = .ok typed

theorem Program.Accepted.passes {typed : Program} (accepted : typed.Accepted) :
    ∃ (program : Program) (loaded last : Checker), program.Passes typed loaded last ∧
      ∀ function ∈ program.functions, function.Proper := by
  obtain ⟨tokens, program, parsed, checked⟩ := accepted
  obtain ⟨loaded, last, passes⟩ := passes_of_check checked
  exact ⟨program, loaded, last, passes, proper_of_ofTokens parsed⟩

/-- The machines that come of loading and running accepted programs, whatever becomes of these. -/
inductive Session (console : Console) : Machine → Prop where
  | new : Session console (.initial console)
  | load {machine : Machine} (earlier : Session console machine) {typed : Program}
      (accepted : typed.Accepted) (fuel : Nat) :
      Session console ((loadProgram fuel typed).after machine)
  | run {machine : Machine} (earlier : Session console machine) {typed : Program}
      (accepted : typed.Accepted) (fuel : Nat) :
      Session console ((runProgram fuel typed).after machine)

theorem Session.ready {console : Console} {machine : Machine} (session : Session console machine) :
    machine.Ready := by
  induction session with
  | new => exact Machine.ready_initial console
  | load _ accepted fuel ih =>
    obtain ⟨_, _, _, passes, -⟩ := accepted.passes
    exact ready_loadProgram passes ih
  | run _ accepted fuel ih =>
    obtain ⟨_, _, _, passes, -⟩ := accepted.passes
    exact ready_runProgram passes ih

end Primer
