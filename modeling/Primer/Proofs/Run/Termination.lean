import Mathlib.Data.List.Induction
import Primer.Proofs.Run.Endings
import Primer.Proofs.Run.Simulation
import Primer.Proofs.Typing.Nodes

/-! Runs that end.

More fuel never changes how a run ends. A checked program calls functions that stand further up, or
the calling function itself; where no function does the latter and none has a loop, fuel for one
call more than there are functions is enough, and the run ends.
-/

set_option autoImplicit false

namespace Primer

open Eval

/-! ### More fuel -/

section same

variable {α β : Type} {knows : Machine → Prop} {loaded : Chain → Prop} {excused : Halt → Prop}

/-- Two computations end in one way, and not for lack of fuel. -/
def Eval.Settles (work other : Eval α) (machine : Machine) : Prop :=
  work machine = other machine ∧ ∀ last, work machine ≠ .error .outOfFuel last

theorem Eval.Settles.bind {work other : Eval α} {next further : α → Eval β} {machine : Machine}
    (first : work.Settles other machine)
    (rest : ∀ value after, work machine = .ok value after →
      (next value).Settles (further value) after) :
    (work >>= next).Settles (other >>= further) machine := by
  obtain ⟨same, ends⟩ := first
  unfold Settles
  simp only [Bind.bind, EStateM.bind]
  rw [← same]
  cases ran : work machine with
  | ok value after => exact rest value after ran
  | error halt after =>
    refine ⟨rfl, fun last stopped => ?_⟩
    cases stopped
    exact ends _ ran

theorem Simulation.InStep.settles_or {work other : Eval α} {machine : Machine}
    (inStep : (same knows loaded excused).InStep Eq (work machine) (other machine)) :
    work.Settles other machine ∨ ∃ halt last, work machine = .error halt last ∧ excused halt := by
  unfold Settles
  generalize work machine = first at inStep
  generalize other machine = second at inStep
  cases inStep with
  | ok holds related =>
    cases holds
    cases related.1
    exact .inl ⟨rfl, nofun⟩
  | stopped shared related =>
    cases related.1
    refine .inl ⟨rfl, fun last same => ?_⟩
    cases same
    exact shared rfl
  | excused excused => exact .inr ⟨_, _, rfl, excused⟩

end same

namespace Simulation

def patient : Simulation :=
  same (fun _ => True) (fun _ => True) (· = .outOfFuel)

theorem lawful_patient : patient.Lawful :=
  lawful_same (fun _ _ => trivial) (fun _ => trivial) fun _ _ => trivial

theorem patient_callNamed {fuel budget : Nat}
    (calls : ∀ callable arguments, patient.Relates Eq (Callable.invoke fuel callable arguments)
      (Callable.invoke budget callable arguments)) (name : String) (values : List Value) :
    patient.Relates Eq (callNamed (Callable.invoke fuel) name values)
      (callNamed (Callable.invoke budget) name values) := by
  apply lawful_patient.relates_callNamed
  rintro machine _ ⟨rfl, -⟩
  cases looked : machine.scopes.getFunction? name values.length with
  | some callable => exact .inl ⟨callable, rfl, rfl, calls callable values⟩
  | none => exact .inr ⟨rfl, .inl rfl⟩

theorem pairs_patient {fuel budget : Nat} (less : fuel ≤ budget)
    (calls : ∀ callable arguments, patient.Relates Eq (Callable.invoke fuel callable arguments)
      (Callable.invoke budget callable arguments)) :
    patient.Pairs (Callable.invoke fuel) (Callable.invoke budget) fuel budget (fun _ => True)
      fun _ => True where
  lawful := lawful_patient
  keeps := Callable.keeps_invoke fuel
  otherKeeps := Callable.keeps_invoke budget
  calls _ values _ := patient_callNamed calls _ values
  loops _ := .inr ⟨less, rfl⟩

theorem patient_invoke {fuel budget : Nat} (less : fuel ≤ budget) (callable : Callable)
    (arguments : List Value) :
    patient.Relates Eq (Callable.invoke fuel callable arguments)
      (Callable.invoke budget callable arguments) := by
  induction fuel generalizing budget callable arguments with
  | zero => exact fun _ _ _ => .excused rfl
  | succ fuel ih =>
    have positive : 0 < budget := Nat.zero_lt_of_lt less
    cases callable with
    | print => exact lawful_patient.relates_invoke_print (Nat.succ_pos fuel) positive arguments
    | declared function scope =>
      obtain ⟨rest, rfl⟩ := Nat.exists_eq_add_one.mpr positive
      have further : fuel ≤ rest := Nat.le_of_succ_le_succ less
      exact relates_invoke_declared (pairs_patient further (ih further)) trivial
        (Stmt.everyIn_true function.body) arguments

end Simulation

/-- A run that ends under some budget ends in the same way under every larger one. -/
theorem Eval.runProgram_of_le {fuel budget : Nat} (less : fuel ≤ budget) {program : Program}
    {machine : Machine}
    (ends : ∀ last, runProgram fuel program machine ≠ .error .outOfFuel last) :
    runProgram budget program machine = runProgram fuel program machine := by
  have calls := Simulation.patient_invoke less
  have loading : Simulation.patient.Relates Eq (loadProgram fuel program)
      (loadProgram budget program) := fun machine image related =>
    Simulation.inStep_loadProgram (Simulation.pairs_patient less calls)
      (fun _ _ value _ => value.every_true) related
      fun _ _ _ _ related => ⟨congrArg (Machine.load · _) related.1, trivial⟩
  have running : Simulation.patient.Relates Eq (runProgram fuel program)
      (runProgram budget program) :=
    loading.bind fun _ _ _ =>
      Simulation.lawful_patient.relates_runMain (Simulation.patient_callNamed calls "main" [])
  -- The only excuse would be a lack of fuel, and there was none.
  rcases (running machine machine ⟨rfl, trivial⟩).settles_or with ⟨same, -⟩ | ⟨halt, last, ran, rfl⟩
  · exact same.symm
  · exact absurd ran (ends last)

/-! ### Functions that only call others -/

def Expr.CallsOther (function : Function) : Expr → Prop
  | .call name arguments _ _ => (name, arguments.length) ≠ (function.name, function.arity)
  | _ => True

def Stmt.LoopFree : Stmt → Prop
  | .loop _ _ => False
  | _ => True

/-- Neither loops nor calls of the function itself. -/
def Function.Straight (function : Function) : Prop :=
  Stmt.EveryIn (Expr.CallsOther function) Stmt.LoopFree function.body

def Expr.CallsKnown (known : List ((String × Nat) × Callable)) : Expr → Prop
  | .call name arguments _ _ => ∃ callable, known.lookup (name, arguments.length) = some callable
  | _ => True

theorem Callable.bound_of_aligned {signed : List ((String × Nat) × Signature)}
    {loaded : List ((String × Nat) × Callable)} (aligned : List.Forall₂ Aligned signed loaded)
    {key : String × Nat} {callable : Callable} (found : loaded.lookup key = some callable) :
    ∃ signature, signed.lookup key = some signature := by
  induction aligned with
  | nil => cases found
  | @cons left right lefts rights first _ ih =>
    rcases List.lookup_cons_eq_some.mp found with ⟨rfl, -⟩ | ⟨other, found⟩
    · exact ⟨left.2, List.lookup_cons_eq_some.mpr (.inl ⟨first.key.symm, rfl⟩)⟩
    · rw [← first.key] at other
      obtain ⟨signature, bound⟩ := ih found
      exact ⟨signature, List.lookup_cons_eq_some.mpr (.inr ⟨other, bound⟩)⟩

theorem Names.Binds.adds {signed : List ((String × Nat) × Signature)}
    {known : List ((String × Nat) × Callable)} {onExpr : Expr → Prop}
    (counted : ∀ {key signature}, signed.lookup key = some signature →
      signature.parameterTypes.length = key.2)
    (found : ∀ {name arguments binding type signature},
      onExpr (.call name arguments binding type) →
      signed.lookup (name, arguments.length) = some signature →
        ∃ callable, known.lookup (name, arguments.length) = some callable) :
    Names.Adds (Names.Binds signed) onExpr (Expr.CallsKnown known) where
  lasting := Names.Binds.lasting counted
  typed := by
    intro names source typed type binds node before
    cases node with
    | @call name arguments arguments' bound written signature looked checked =>
      have bound := binds.getFunction? looked
      obtain ⟨types, all, -⟩ := Expr.checkAll_of_checkArguments (counted bound).symm checked
      rw [all.lengths.1] at bound
      exact found before bound
    | literal | group | binary | named | element => trivial
  lists _ := trivial

section program

variable {program typed : Program} {loaded last : Checker}

theorem Program.Passes.behind (passes : program.Passes typed loaded last)
    (proper : ∀ function ∈ program.functions, function.Proper) {done others : List Function}
    (split : typed.functions = done ++ others) :
    ∃ (later : List Function) (before : Checker),
      later.mapM Check.function before = .ok others last ∧
        (∀ function ∈ later, function.Proper) ∧ before.AtTop ∧
        List.Forall₂ Callable.Aligned (before.names.boundFunctions 0) (Callable.table done) := by
  have ran := passes.functions
  rw [split] at ran
  obtain ⟨earlier, later, before, parted, doneRan, laterRan⟩ := EStateM.mapM_append ran
  rw [parted] at proper
  -- Globals bind no functions, so there is the built-in one to begin with.
  have start : List.Forall₂ Callable.Aligned (loaded.names.boundFunctions 0)
      Callable.builtIn := by
    rw [Checker.boundFunctions_of_globals passes.globals 0, Checker.boundFunctions_initial]
    exact Callable.aligned_builtIn
  refine ⟨later, before, laterRan, ?_, ?_, ?_⟩
  · exact fun function member => proper function (List.mem_append_right earlier member)
  · exact (Checker.extends_functions doneRan passes.atTop_loaded).1
  · exact Checker.aligned_functions passes.atTop_loaded doneRan
      (fun function member => proper function (List.mem_append_left later member)) start

/-- A function that stands further up is not hidden by one further down. -/
theorem Program.Passes.lookup_table (passes : program.Passes typed loaded last)
    (proper : ∀ function ∈ program.functions, function.Proper) {done others : List Function}
    (split : typed.functions = done ++ others) {key : String × Nat} {callable : Callable}
    (found : (Callable.table done).lookup key = some callable) :
    (Callable.table typed.functions).lookup key = some callable := by
  obtain ⟨later, before, laterRan, -, top, aligned⟩ := passes.behind proper split
  obtain ⟨signature, bound⟩ := Callable.bound_of_aligned aligned found
  unfold Callable.table at found ⊢
  rw [split, List.foldl_append, Callable.lookup_foldl_of_fresh]
  · exact found
  · exact fun function member => Checker.fresh_of_bound laterRan top bound member

/-- A function that does not call itself calls functions that stand further up. -/
theorem Program.Passes.calls_earlier (passes : program.Passes typed loaded last)
    (proper : ∀ function ∈ program.functions, function.Proper) {done others : List Function}
    {function : Function} (split : typed.functions = done ++ function :: others)
    (straight : function.Straight) :
    Stmt.EveryIn (Expr.CallsKnown (Callable.table done)) Stmt.LoopFree function.body := by
  obtain ⟨later, before, laterRan, properLater, top, aligned⟩ := passes.behind proper split
  cases later with
  | nil => cases laterRan
  | cons source rest =>
    obtain ⟨result, tail, next, step, -, same⟩ := EStateM.mapM_cons_eq_ok.mp laterRan
    cases same
    obtain ⟨signature, inner, spelled, -, bodyChecked, -, same, -⟩ := Check.of_function step
    have zero := Chain.top_eq_zero top.current
    have own : ((function.name, function.arity) : String × Nat) = (source.name, source.arity) := by
      rw [same]
      rfl
    have functions := Environment.boundFunctions_defineFunction_top before.names source.name
      source.arity signature top.rooted.bounded
    rw [zero, ← own] at functions
    -- While its body is checked, the function itself is bound, and whatever stands further up.
    have binds : Names.Binds
        (((function.name, function.arity), signature) :: before.names.boundFunctions 0)
        (before.names.defineFunction source.name source.arity signature) :=
      ⟨top.rooted.defineFunction zero _ _ _, functions⟩
    refine Stmt.everyIn_of_typed (Names.Binds.adds ?_ ?_)
      (binds.inBody signature source.parameters) source.body bodyChecked straight
    · -- The parameters of a function have as many types as its key says.
      intro key found looked
      rcases List.lookup_cons_eq_some.mp looked with ⟨rfl, rfl⟩ | ⟨-, looked⟩
      · have counted := (properLater source List.mem_cons_self).parameters
        rw [own]
        exact (Function.parameterTypes_of_signature spelled).trans counted.symm
      · exact (Callable.lookup_of_aligned aligned looked).1
    · intro name arguments binding type found other looked
      rcases List.lookup_cons_eq_some.mp looked with ⟨itself, -⟩ | ⟨-, looked⟩
      · exact absurd itself other
      · obtain ⟨-, -, callable, loads, -⟩ := Callable.lookup_of_aligned aligned looked
        exact ⟨callable, loads⟩

/-- The values of globals call the built-in function only. -/
theorem Checker.globals_call_builtIn {globals results : List Global} {before after : Checker}
    (checked : globals.mapM Check.global before = .ok results after)
    (binds : before.names.Binds [(("print", 1), Signature.print)]) :
    ∀ global ∈ results, ∀ value, global.value = some value →
      value.Every (Expr.CallsKnown Callable.builtIn) := by
  induction globals generalizing before results with
  | nil =>
    cases checked
    exact fun _ member => nomatch member
  | cons first rest ih =>
    obtain ⟨result, others, middle, head, tail, rfl⟩ := EStateM.mapM_cons_eq_ok.mp checked
    obtain ⟨value, binding, declared, rfl, rfl⟩ := Check.of_global head
    have adds : Names.Adds (Names.Binds [(("print", 1), Signature.print)]) (fun _ => True)
        (Expr.CallsKnown Callable.builtIn) :=
      Names.Binds.adds
        (fun looked => (Callable.lookup_of_aligned Callable.aligned_builtIn looked).1)
        fun _ looked =>
          have ⟨_, _, callable, loads, _⟩ :=
            Callable.lookup_of_aligned Callable.aligned_builtIn looked
          ⟨callable, loads⟩
    have next := binds.of_grows
      (Environment.keepsOuter_defineVariable before.names first.name binding)
    intro global member
    rcases List.mem_cons.mp member with rfl | later
    · exact Variable.every_of_declare adds binds declared fun given _ => given.every_true
    · exact ih tail next global later

end program

/-! ### Enough fuel -/

namespace Simulation

def steady (known : List ((String × Nat) × Callable)) : Simulation :=
  same (Machine.Finds known) (· = Chain.root) fun _ => False

variable {known : List ((String × Nat) × Callable)}

theorem lawful_steady (known : List ((String × Nat) × Callable)) : (steady known).Lawful :=
  lawful_same Machine.Finds.of_keepsOuter Machine.Finds.block (by
    rintro machine _ rfl
    exact Machine.Finds.enter)

theorem InStep.settles {α : Type} {work other : Eval α} {machine : Machine}
    (inStep : (steady known).InStep Eq (work machine) (other machine)) :
    work.Settles other machine :=
  inStep.settles_or.resolve_right fun ⟨_, _, _, impossible⟩ => impossible

theorem steady_callNamed {fuel budget : Nat} {name : String} {values : List Value}
    {callable : Callable} (looked : known.lookup (name, values.length) = some callable)
    (called : (steady known).Relates Eq (Callable.invoke fuel callable values)
      (Callable.invoke budget callable values)) :
    (steady known).Relates Eq (callNamed (Callable.invoke fuel) name values)
      (callNamed (Callable.invoke budget) name values) := by
  apply (lawful_steady known).relates_callNamed
  rintro machine _ ⟨rfl, finds⟩
  exact .inl ⟨callable, finds.getFunction? looked, finds.getFunction? looked, called⟩

theorem pairs_steady {fuel budget : Nat} {onStmt : Stmt → Prop}
    {called : List ((String × Nat) × Callable)}
    (loopFree : ∀ {test body}, ¬ onStmt (.loop test body))
    (calls : ∀ {key callable}, called.lookup key = some callable →
      known.lookup key = some callable ∧
        ∀ values, (steady known).Relates Eq (Callable.invoke fuel callable values)
          (Callable.invoke budget callable values)) :
    (steady known).Pairs (Callable.invoke fuel) (Callable.invoke budget) fuel budget
      (Expr.CallsKnown called) onStmt where
  lawful := lawful_steady known
  keeps := Callable.keeps_invoke fuel
  otherKeeps := Callable.keeps_invoke budget
  calls := by
    rintro name arguments binding type ⟨callable, looked⟩ values counted
    rw [← counted] at looked
    obtain ⟨loads, called⟩ := calls looked
    exact steady_callNamed loads (called values)
  loops loop := absurd loop loopFree

end Simulation

section termination

variable {program typed : Program} {loaded last : Checker}

/-- A call needs as much fuel as there are functions up to the one that is called. -/
theorem Program.Passes.steady_invoke (passes : program.Passes typed loaded last)
    (proper : ∀ function ∈ program.functions, function.Proper)
    (straight : ∀ function ∈ typed.functions, function.Straight) {done others : List Function}
    (split : typed.functions = done ++ others) {key : String × Nat} {callable : Callable}
    (found : (Callable.table done).lookup key = some callable) {fuel budget : Nat}
    (enough : done.length < fuel) (less : fuel ≤ budget) (arguments : List Value) :
    (Simulation.steady (Callable.table typed.functions)).Relates Eq
      (Callable.invoke fuel callable arguments) (Callable.invoke budget callable arguments) := by
  -- From the back, since the latest function with a name is the one that is found.
  induction done using List.reverseRecOn generalizing others key callable fuel budget arguments with
  | nil =>
    obtain ⟨-, rfl⟩ := Callable.of_lookup_builtIn found
    exact (Simulation.lawful_steady _).relates_invoke_print enough (Nat.lt_of_lt_of_le enough less)
      arguments
  | append_singleton done function ih =>
    have parted : typed.functions = done ++ function :: others := by
      rw [split, List.append_assoc]
      rfl
    rw [List.length_append, List.length_singleton] at enough
    rw [Callable.table_concat] at found
    rcases List.lookup_cons_eq_some.mp found with ⟨rfl, rfl⟩ | ⟨-, found⟩
    · have positive : 0 < fuel := Nat.zero_lt_of_lt enough
      obtain ⟨rounds, rfl⟩ := Nat.exists_eq_add_one.mpr positive
      obtain ⟨rest, rfl⟩ := Nat.exists_eq_add_one.mpr (Nat.lt_of_lt_of_le positive less)
      -- One unit of fuel goes into this call; what it calls stands further up.
      have pairs : (Simulation.steady (Callable.table typed.functions)).Pairs
          (Callable.invoke rounds) (Callable.invoke rest) rounds rest
          (Expr.CallsKnown (Callable.table done)) Stmt.LoopFree :=
        Simulation.pairs_steady id fun looked =>
          ⟨passes.lookup_table proper parted looked, ih parted looked (by omega) (by omega)⟩
      have member : function ∈ typed.functions := List.mem_of_split parted
      exact Simulation.relates_invoke_declared pairs rfl
        (passes.calls_earlier proper parted (straight function member)) arguments
    · exact ih parted found (by omega) less arguments

/-- While globals are evaluated, only the built-in function is known, which needs no more fuel than
its own call. -/
theorem Program.Passes.load_settles (passes : program.Passes typed loaded last) {machine : Machine}
    (ready : machine.Ready) {fuel budget : Nat} (enough : 0 < fuel) (less : fuel ≤ budget) :
    (loadProgram fuel typed).Settles (loadProgram budget typed) machine := by
  have pairs : (Simulation.steady Callable.builtIn).Pairs (Callable.invoke fuel)
      (Callable.invoke budget) fuel budget (Expr.CallsKnown Callable.builtIn) fun _ => False := by
    refine Simulation.pairs_steady id fun {key callable} looked => ⟨looked, fun values => ?_⟩
    obtain ⟨-, rfl⟩ := Callable.of_lookup_builtIn looked
    exact (Simulation.lawful_steady _).relates_invoke_print enough (Nat.lt_of_lt_of_le enough less)
      values
  have binds : Checker.initial.names.Binds [(("print", 1), Signature.print)] :=
    ⟨Checker.atTop_initial.rooted, rfl⟩
  have known := Checker.globals_call_builtIn passes.globals binds
  apply Simulation.InStep.settles (Simulation.inStep_loadProgram pairs known ⟨rfl, ready.finds⟩ _)
  rintro after _ kept - ⟨rfl, -⟩
  exact ⟨rfl, ((ready.of_keepsOuter kept).load passes).ready.finds⟩

/-- From a machine between runs, any two budgets above the number of functions give the same run,
and neither is used up. -/
theorem Program.Passes.run_settles (passes : program.Passes typed loaded last)
    (proper : ∀ function ∈ program.functions, function.Proper)
    (straight : ∀ function ∈ typed.functions, function.Straight) {machine : Machine}
    (ready : machine.Ready) {fuel budget : Nat} (enough : typed.functions.length < fuel)
    (less : fuel ≤ budget) : (runProgram fuel typed).Settles (runProgram budget typed) machine := by
  have bound := passes.main
  rw [Environment.bindsFunction_eq, passes.atTop_last.rooted.global] at bound
  obtain ⟨signature, found⟩ := Option.isSome_iff_exists.mp bound
  obtain ⟨-, -, callable, looked, -⟩ := Callable.lookup_of_aligned (passes.aligned proper) found
  -- The main function may be anywhere in the list, so all functions count.
  have called := passes.steady_invoke proper straight (List.append_nil _).symm looked enough less
  have running := (Simulation.lawful_steady _).relates_runMain
    (Simulation.steady_callNamed looked (called []))
  rw [runProgram_eq, runProgram_eq]
  apply (passes.load_settles ready (Nat.zero_lt_of_lt enough) less).bind
  intro _ after ran
  have loads := loaded_of_loadProgram passes ready ran
  exact (running after after ⟨rfl, loads.finds⟩).settles

/-- A program whose functions have no loops and do not call themselves ends, wherever it is run
between other programs. -/
theorem Program.run_ends {tokens : List Token} (parsed : Program.ofTokens tokens = .ok program)
    (checked : program.check = .ok typed)
    (straight : ∀ function ∈ typed.functions, function.Straight) {console : Console}
    {machine : Machine} (session : Session console machine) :
    ∃ ending : EStateM.Result Halt Machine Int, (∀ last, ending ≠ .error .outOfFuel last) ∧
      ∀ fuel, typed.functions.length < fuel → runProgram fuel typed machine = ending := by
  obtain ⟨loaded, last, passes⟩ := Program.passes_of_check checked
  have proper := Program.proper_of_ofTokens parsed
  have settles := fun {fuel : Nat} (enough : typed.functions.length < fuel) =>
    passes.run_settles proper straight session.ready (Nat.lt_succ_self _) enough
  exact ⟨_, (settles (Nat.lt_succ_self _)).2, fun fuel enough => (settles enough).1.symm⟩

end termination

/-- The main function of the sample calls another one, which calls none. -/
theorem Sample.half_run_ends :
    Program.ofTokens halfTokens = .ok (half none none none none none) ∧
      (half none none none none none).check = .ok halfTyped ∧
      (∀ function ∈ halfTyped.functions, function.Straight) ∧
      ∃ ending : EStateM.Result Halt Machine Int, (∀ last, ending ≠ .error .outOfFuel last) ∧
        ∀ fuel, 2 < fuel → runProgram fuel halfTyped (.initial {}) = ending := by
  have straight : ∀ function ∈ halfTyped.functions, function.Straight := by
    intro function member
    simp only [halfTyped, half, List.mem_cons, List.not_mem_nil, or_false] at member
    rcases member with rfl | rfl <;>
      simp [Function.Straight, Stmt.EveryIn, Stmt.Every, Expr.Every, Expr.EveryIn, Stmt.LoopFree,
        Expr.CallsOther]
  exact ⟨parsed_half, checked_half, straight,
    Program.run_ends parsed_half checked_half straight .new⟩

end Primer
