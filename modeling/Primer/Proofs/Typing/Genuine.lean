import Primer.Proofs.Grammar.Proper
import Primer.Proofs.Typing.Visit

/-! Names are bound to what declarations make of them.

What is bound is emitted under the name that it is bound to, the built-in function apart, and a
function has a type for each of its parameters. Checking keeps this in every scope, so it holds
wherever checking comes to.
-/

set_option autoImplicit false

namespace Primer

/-- What a declaration binds to the name of a function and its number of parameters. -/
structure Signature.Genuine (signature : Signature) (key : String × Nat) : Prop where
  emitted : signature.emittedName = key.1 ∨ signature = .print
  counted : signature.parameterTypes.length = key.2

structure Names.Genuine (names : Names) : Prop where
  variableNames : ∀ number, ∀ entry ∈ names.boundVariables number, entry.2.emittedName = entry.1
  functions : ∀ number, ∀ entry ∈ names.boundFunctions number, entry.2.Genuine entry.1

section lookups

variable {V F : Type}

theorem Environment.mem_of_getVariable? {env : Environment V F} {name : String} {value : V}
    (found : env.getVariable? name = some value) :
    ∃ number, (name, value) ∈ env.boundVariables number := by
  rw [getVariable?_eq] at found
  obtain ⟨number, -, looked⟩ := List.exists_of_findSome?_eq_some found
  exact ⟨number, List.mem_of_lookup looked⟩

theorem Environment.mem_of_getFunction? {env : Environment V F} {name : String} {arity : Nat}
    {value : F} (found : env.getFunction? name arity = some value) :
    ∃ number, ((name, arity), value) ∈ env.boundFunctions number := by
  rw [getFunction?_eq] at found
  obtain ⟨number, -, looked⟩ := List.exists_of_findSome?_eq_some found
  exact ⟨number, List.mem_of_lookup looked⟩

theorem Environment.mem_boundVariables_defineVariable {env : Environment V F} {name : String}
    {value : V} {number : Nat} {entry : String × V}
    (member : entry ∈ (env.defineVariable name value).boundVariables number) :
    entry = (name, value) ∨ entry ∈ env.boundVariables number := by
  rw [boundVariables_defineVariable] at member
  split at member
  · exact List.mem_cons.mp member
  · exact .inr member

theorem Environment.mem_boundFunctions_defineFunction {env : Environment V F} {name : String}
    {arity number : Nat} {value : F} {entry : (String × Nat) × F}
    (member : entry ∈ (env.defineFunction name arity value).boundFunctions number) :
    entry = ((name, arity), value) ∨ entry ∈ env.boundFunctions number := by
  by_cases top : number = env.current.top
  · by_cases bounded : env.current.top < env.scopes.size
    · rw [top, boundFunctions_defineFunction_top env name arity value bounded] at member
      rw [top]
      exact List.mem_cons.mp member
    · have absent : (env.defineFunction name arity value).scopes[number]? = none := by
        apply Array.getElem?_eq_none
        rw [size_defineFunction]
        omega
      simp [boundFunctions, absent] at member
  · rw [boundFunctions_defineFunction_of_ne env name arity value top] at member
    exact .inr member

end lookups

namespace Names.Genuine

variable {names : Names}

theorem getVariable? (genuine : names.Genuine) {name : String} {binding : Variable}
    (found : names.getVariable? name = some binding) : binding.emittedName = name := by
  obtain ⟨number, member⟩ := Environment.mem_of_getVariable? found
  exact genuine.variableNames number _ member

theorem getFunction? (genuine : names.Genuine) {name : String} {arity : Nat}
    {signature : Signature} (found : names.getFunction? name arity = some signature) :
    signature.Genuine (name, arity) := by
  obtain ⟨number, member⟩ := Environment.mem_of_getFunction? found
  exact genuine.functions number _ member

theorem enter (genuine : names.Genuine) (chain : Chain) :
    Names.Genuine (names.enter chain) :=
  ⟨genuine.variableNames, genuine.functions⟩

theorem push (genuine : names.Genuine) : Names.Genuine names.push := by
  refine ⟨fun number => ?_, fun number => ?_⟩
  · change ∀ entry ∈ (names.child names.current).2.boundVariables number, _
    rw [Environment.boundVariables_child]
    exact genuine.variableNames number
  · change ∀ entry ∈ (names.child names.current).2.boundFunctions number, _
    rw [Environment.boundFunctions_child]
    exact genuine.functions number

theorem defineVariable (genuine : names.Genuine) {name : String} {binding : Variable}
    (same : binding.emittedName = name) : Names.Genuine (names.defineVariable name binding) := by
  refine ⟨fun number entry member => ?_, fun number => ?_⟩
  · rcases Environment.mem_boundVariables_defineVariable member with rfl | before
    · exact same
    · exact genuine.variableNames number entry before
  · rw [Environment.boundFunctions_defineVariable]
    exact genuine.functions number

theorem defineFunction (genuine : names.Genuine) {name : String} {arity : Nat}
    {signature : Signature} (same : signature.Genuine (name, arity)) :
    Names.Genuine (names.defineFunction name arity signature) := by
  refine ⟨fun number => ?_, fun number entry member => ?_⟩
  · rw [Environment.boundVariables_defineFunction]
    exact genuine.variableNames number
  · rcases Environment.mem_boundFunctions_defineFunction member with rfl | before
    · exact same
    · exact genuine.functions number entry before

theorem defineParameters (genuine : names.Genuine) (parameters : List (String × Ty)) :
    (names.defineParameters parameters).Genuine := by
  induction parameters generalizing names with
  | nil => exact genuine
  | cons parameter rest ih => exact ih (genuine.defineVariable rfl)

theorem declare (genuine : names.Genuine) {name : String} {typeName : Option String}
    {mutable : Bool} {value typed : Option Expr} {binding : Variable}
    (declared : Variable.declare names name typeName mutable value = .ok (typed, binding)) :
    Names.Genuine (names.defineVariable name binding) := by
  obtain ⟨-, same, -⟩ := Variable.initial_of_declare declared
  exact genuine.defineVariable (congrArg Variable.emittedName same)

end Names.Genuine

theorem Checker.genuine_initial : Checker.initial.names.Genuine := by
  have root : Names.Genuine Environment.root := by
    refine ⟨fun number => ?_, fun number => ?_⟩ <;> cases number <;>
      simp [Environment.root, Environment.boundVariables, Environment.boundFunctions]
  exact root.defineFunction ⟨.inr rfl, rfl⟩

mutual

theorem Stmt.genuine_check {before after : Checker} {typed : Stmt} : (statement : Stmt) →
    statement.check before = .ok typed after → before.names.Genuine → after.names.Genuine
  | .expression _, checked, genuine => by
    obtain ⟨_, _, -, -, -, rfl⟩ := Stmt.check_expression checked
    exact genuine
  | .declaration _ _ _ _, checked, genuine => by
    obtain ⟨_, _, declared, -, rfl⟩ := Stmt.check_declaration checked
    exact genuine.declare declared
  | .assignment _ _, checked, genuine => by
    obtain ⟨_, _, _, _, -, -, -, -, rfl⟩ := Stmt.check_assignment checked
    exact genuine
  | .conditional _ thenBody elseBody, checked, genuine => by
    obtain ⟨_, _, _, middle, last, -, -, thenChecked, elseChecked, -, rfl⟩ :=
      Stmt.check_conditional checked
    have first := Stmt.genuine_checkAll thenBody thenChecked genuine.push
    have second := Stmt.genuine_checkAll elseBody elseChecked (first.enter _).push
    exact second.enter _
  | .loop _ body, checked, genuine => by
    obtain ⟨_, _, last, -, bodyChecked, -, rfl⟩ := Stmt.check_loop checked
    exact (Stmt.genuine_checkAll body bodyChecked genuine.push).enter _
  | .switch _ cases, checked, genuine => by
    obtain ⟨_, _, _, -, casesChecked, -⟩ := Stmt.check_switch checked
    exact Case.genuine_checkAll cases casesChecked genuine
  | .returns _, checked, genuine => by
    obtain ⟨body, _, _, inside, -, -, -, rfl⟩ := Stmt.check_returns checked
    exact genuine

theorem Stmt.genuine_checkAll {before after : Checker} {typed : List Stmt} :
    (statements : List Stmt) → Stmt.checkAll statements before = .ok typed after →
    before.names.Genuine → after.names.Genuine
  | [], checked, genuine => by
    obtain ⟨-, rfl⟩ := Stmt.checkAll_nil checked
    exact genuine
  | first :: rest, checked, genuine => by
    obtain ⟨_, _, middle, firstChecked, restChecked, -⟩ := Stmt.checkAll_cons checked
    have head := Stmt.genuine_check first firstChecked genuine
    exact Stmt.genuine_checkAll rest restChecked head

theorem Case.genuine_checkAll {type : Ty} {before after : Checker} {typed : List Case} :
    (cases : List Case) → Case.checkAll type cases before = .ok typed after →
    before.names.Genuine → after.names.Genuine
  | [], checked, genuine => by
    obtain ⟨-, rfl⟩ := Case.checkAll_nil checked
    exact genuine
  | .matching _ body :: rest, checked, genuine => by
    obtain ⟨_, _, _, last, -, bodyChecked, restChecked, -⟩ := Case.checkAll_matching checked
    have first := Stmt.genuine_checkAll body bodyChecked genuine.push
    exact Case.genuine_checkAll rest restChecked (first.enter _)
  | .otherwise body :: _, checked, genuine => by
    obtain ⟨_, last, -, bodyChecked, -, rfl⟩ := Case.checkAll_otherwise checked
    exact (Stmt.genuine_checkAll body bodyChecked genuine.push).enter _

end

section program

variable {program : Program} {checker : Checker}

theorem Function.emitted_of_signature {function : Function} {signature : Signature}
    (spelled : function.signature = .ok signature) : signature.emittedName = function.name := by
  unfold Function.signature at spelled
  obtain ⟨types, -, spelled⟩ := Except.bind_eq_ok.mp spelled
  obtain ⟨returnType, -, spelled⟩ := Except.bind_eq_ok.mp spelled
  cases spelled
  rfl

theorem Function.genuine_signature {function : Function} {signature : Signature}
    (spelled : function.signature = .ok signature)
    (same : function.parameters.length = function.parameterTypes.length) :
    signature.Genuine (function.name, function.arity) where
  emitted := .inl (Function.emitted_of_signature spelled)
  counted := (Function.parameterTypes_of_signature spelled).trans same.symm

theorem Names.Genuine.inBody {names : Names} (genuine : names.Genuine) {signature : Signature}
    {key : String × Nat} (same : signature.Genuine key) (parameters : List String) :
    (signature.inBody (names.defineFunction key.1 key.2 signature) parameters).names.Genuine :=
  (genuine.defineFunction same).push.defineParameters _

theorem genuine_globals {globals typed : List Global} {before after : Checker}
    (checked : globals.mapM Check.global before = .ok typed after) :
    before.names.Genuine → after.names.Genuine := by
  refine EStateM.mapM_relates
    (motive := fun before after : Checker => before.names.Genuine → after.names.Genuine)
    (fun _ => id) (fun _ _ _ left right => right ∘ left) ?_ checked
  intro global _ first typed second step genuine
  obtain ⟨value, binding, declared, -, rfl⟩ := Check.of_global step
  exact genuine.declare declared

theorem genuine_functions {functions typed : List Function} {before after : Checker}
    (even : ∀ function ∈ functions, function.parameters.length = function.parameterTypes.length)
    (checked : functions.mapM Check.function before = .ok typed after) :
    before.names.Genuine → after.names.Genuine := by
  refine EStateM.mapM_relates
    (motive := fun before after : Checker => before.names.Genuine → after.names.Genuine)
    (fun _ => id) (fun _ _ _ left right => right ∘ left) ?_ checked
  intro function member first typed second step genuine
  obtain ⟨signature, last, spelled, -, bodyChecked, -, -, rfl⟩ := Check.of_function step
  have same := Function.genuine_signature spelled (even function member)
  have start := genuine.inBody same function.parameters
  exact (Stmt.genuine_checkAll function.body bodyChecked start).enter _

theorem Program.ChecksGlobal.genuine {index : Nat} {global : Global}
    (checks : program.ChecksGlobal index global checker) : checker.names.Genuine := by
  obtain ⟨earlier, later, done, -, -, checked⟩ := checks
  exact genuine_globals checked Checker.genuine_initial

theorem Program.ChecksBody.genuine {function : Function}
    (checks : program.ChecksBody function checker)
    (even : ∀ function ∈ program.functions,
      function.parameters.length = function.parameterTypes.length) : checker.names.Genuine := by
  obtain ⟨earlier, later, globals, done, loaded, before, signature, globalsChecked, split,
    functionsChecked, spelled, rfl⟩ := checks
  rw [split] at even
  have start := genuine_functions (fun function member => even function (by simp [member]))
    functionsChecked (genuine_globals globalsChecked Checker.genuine_initial)
  exact start.inBody (Function.genuine_signature spelled (even function (by simp))) _

theorem Visit.genuine {part inner : Part Ty} {after : Checker} {index : Nat}
    (visit : Visit part checker index inner after) (genuine : checker.names.Genuine) :
    after.names.Genuine := by
  cases visit with
  | thenBody | loopBody | matched | otherwise => exact genuine.push
  | elseBody before => exact ((Stmt.genuine_checkAll _ before genuine.push).enter _).push
  | next before => exact Stmt.genuine_check _ before genuine
  | unmatched before => exact (Stmt.genuine_checkAll _ before genuine.push).enter _
  | _ => exact genuine

/-- The names wherever checking comes to in a program that was parsed. -/
theorem Visits.genuine {tokens : List Token} (parsed : Program.ofTokens tokens = .ok program)
    {place : Place} {part : Part Ty} (visits : Visits program place part checker) :
    checker.names.Genuine := by
  induction visits with
  | global checks => exact checks.genuine
  | body checks =>
    exact checks.genuine fun function member =>
      (Program.proper_of_ofTokens parsed function member).parameters
  | turn _ visit ih => exact visit.genuine ih

end program

end Primer
