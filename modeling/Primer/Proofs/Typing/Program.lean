import Primer.Proofs.Scope.Agreement
import Primer.Proofs.Typing.Statement
import Primer.Typing.Program

/-! What it takes for a program to be accepted.

Globals are bound one after the other in the global scope. Then each function adds one signature
there, under a name and number of parameters that had none; its body leaves nothing behind.
-/

set_option autoImplicit false

namespace Primer

def Chain.root : Chain :=
  { top := 0, outer := [] }

theorem Chain.top_eq_zero {chain : Chain} (isRoot : chain = Chain.root) : chain.top = 0 := by
  rw [isRoot]
  rfl

def Signature.inBody (signature : Signature) (names : Names) (parameters : List String) : Checker :=
  { names := Names.defineParameters names.push (parameters.zip signature.parameterTypes)
    body := some { signature, returns := 0 } }

theorem Names.keepsOuter_defineParameters (names : Names) (parameters : List (String × Ty)) :
    Environment.KeepsOuter names (names.defineParameters parameters) := by
  induction parameters generalizing names with
  | nil => exact .refl names
  | cons parameter rest ih =>
    exact (Environment.keepsOuter_defineVariable names parameter.1 _).trans
      (ih (names.defineVariable _ _))

theorem Signature.current_inBody (signature : Signature) (names : Names)
    (parameters : List String) :
    (signature.inBody names parameters).names.current = names.push.current :=
  (Names.keepsOuter_defineParameters names.push _).current

theorem Signature.inBody_ne_root (signature : Signature) {names : Names} (rooted : names.Rooted)
    (parameters : List String) : (signature.inBody names parameters).names.current.top ≠ 0 := by
  rw [current_inBody]
  exact rooted.push_ne_root

theorem Function.eq_of_binding {source typed : Function} {found signature : Signature}
    (same : typed = { source with body := typed.body, binding := some found })
    (bound : typed.binding = some signature) : found = signature := by
  have carried : typed.binding = some found := congrArg Function.binding same
  exact Option.some.inj (carried.symm.trans bound)

theorem Function.parameterTypes_of_signature {function : Function} {signature : Signature}
    (spelled : function.signature = .ok signature) :
    signature.parameterTypes.length = function.parameterTypes.length := by
  unfold Function.signature at spelled
  obtain ⟨types, resolved, spelled⟩ := Except.bind_eq_ok.mp spelled
  obtain ⟨returnType, -, spelled⟩ := Except.bind_eq_ok.mp spelled
  cases spelled
  exact Except.length_of_mapM resolved

namespace Check

variable {before after : Checker}

theorem of_global {global typed : Global} (checked : Check.global global before = .ok typed after) :
    ∃ value binding, Variable.declare before.names global.name global.typeName global.mutable
        global.value = .ok (value, binding) ∧
      typed = { global with value, binding := some binding } ∧
      after = { before with names := before.names.defineVariable global.name binding } := by
  unfold Check.global at checked
  obtain ⟨⟨value, binding⟩, middle, answered, checked⟩ := EStateM.bind_eq_ok.mp checked
  obtain ⟨declared, rfl⟩ := of_declare answered
  cases checked
  exact ⟨value, binding, declared, rfl, rfl⟩

theorem inFunction_eq_ok {α : Type} {signature : Signature} {parameters : List String}
    {work : Check α} {result : α × Nat}
    (ran : inFunction signature parameters work before = .ok result after) :
    ∃ last, work (signature.inBody before.names parameters) = .ok result.1 last ∧
      result.2 = (last.body.map Checker.Body.returns).getD 0 ∧
      after = { last.comeBack before.names.current with body := before.body } := by
  obtain ⟨names, body⟩ := before
  simp only [inFunction] at ran
  split at ran
  case h_1 result last worked =>
    cases ran
    exact ⟨last, worked, rfl, rfl⟩
  case h_2 => cases ran

theorem of_function {function typed : Function}
    (checked : Check.function function before = .ok typed after) :
    ∃ signature last, function.signature = .ok signature ∧
      before.names.bindsFunction before.names.current function.name function.arity = false ∧
      Stmt.checkAll function.body
        (signature.inBody (before.names.defineFunction function.name function.arity signature)
          function.parameters) = .ok typed.body last ∧
      ((last.body.map Checker.Body.returns).getD 0 = 0 → signature.returnType.needsReturn = false) ∧
      typed = { function with body := typed.body, binding := some signature } ∧
      after = { last.comeBack before.names.current with body := before.body } := by
  unfold Check.function at checked
  obtain ⟨signature, middle, answered, checked⟩ := EStateM.bind_eq_ok.mp checked
  obtain ⟨spelled, rfl⟩ := ofNames_eq_ok.mp answered
  obtain ⟨current, middle, got, checked⟩ := EStateM.bind_eq_ok.mp checked
  cases got
  cases bound : before.names.bindsFunction before.names.current function.name function.arity with
  | true => simp only [bound] at checked; cases checked
  | false =>
    simp only [bound] at checked
    obtain ⟨_, middle, modified, checked⟩ := EStateM.bind_eq_ok.mp checked
    cases modified
    obtain ⟨⟨body, returns⟩, middle, ran, checked⟩ := EStateM.bind_eq_ok.mp checked
    obtain ⟨last, bodyChecked, counted, rfl⟩ := inFunction_eq_ok ran
    by_cases missing : returns = 0 ∧ signature.returnType.needsReturn
    · rw [if_pos missing] at checked
      cases checked
    · rw [if_neg missing] at checked
      cases checked
      refine ⟨signature, last, spelled, rfl, bodyChecked, ?_, rfl, rfl⟩
      intro none
      have absent : returns = 0 := counted.trans none
      simpa [absent] using missing

end Check

structure Checker.AtTop (checker : Checker) : Prop where
  rooted : checker.names.Rooted
  current : checker.names.current = Chain.root

namespace Checker

theorem atTop_initial : Checker.initial.AtTop where
  rooted := Environment.rooted_root.defineFunction rfl _ _ _
  current := rfl

namespace AtTop

variable {checker after : Checker}

theorem define (top : checker.AtTop) (name : String) (binding : Variable) :
    ({ checker with names := checker.names.defineVariable name binding } : Checker).AtTop where
  rooted := top.rooted.of_grows (Environment.keepsOuter_defineVariable _ _ _)
  current := top.current

theorem of_global (top : checker.AtTop) {global typed : Global}
    (checked : Check.global global checker = .ok typed after) : after.AtTop := by
  obtain ⟨value, binding, -, -, rfl⟩ := Check.of_global checked
  exact top.define global.name binding

/-- The body of a function leaves the names as they are once the function is declared. -/
theorem keeps_body {function typed : Function}
    (checked : Check.function function checker = .ok typed after) :
    ∃ signature, typed.binding = some signature ∧ Environment.Keeps
      (checker.names.defineFunction function.name function.arity signature) after.names := by
  obtain ⟨signature, last, -, -, bodyChecked, -, same, rfl⟩ := Check.of_function checked
  refine ⟨signature, by rw [same], ?_⟩
  have parameters := Names.keepsOuter_defineParameters
    (checker.names.defineFunction function.name function.arity signature).push
    (function.parameters.zip signature.parameterTypes)
  have body := (Stmt.keepsOuter_checkAll function.body bodyChecked).names
  exact Environment.keeps_of_child (Environment.KeepsOuter.trans parameters body)

/-- A function adds its signature to the global scope, and nothing else. -/
theorem of_function (top : checker.AtTop) {function typed : Function}
    (checked : Check.function function checker = .ok typed after) :
    after.AtTop ∧ after.names.boundVariables 0 = checker.names.boundVariables 0 ∧
      ∃ signature, typed.binding = some signature ∧
        after.names.boundFunctions 0 =
          ((function.name, function.arity), signature) :: checker.names.boundFunctions 0 := by
  obtain ⟨signature, bound, keeps⟩ := keeps_body checked
  have zero := Chain.top_eq_zero top.current
  have rooted := top.rooted.defineFunction zero function.name function.arity signature
  refine ⟨⟨rooted.of_grows keeps, keeps.current.trans top.current⟩, ?_, signature, bound, ?_⟩
  · rw [keeps.boundVariables 0 (rooted.lt_size rooted.root) id]
    exact Environment.boundVariables_defineFunction _ _ _ _ 0
  · rw [keeps.boundFunctions 0]
    have defined := Environment.boundFunctions_defineFunction_top checker.names function.name
      function.arity signature top.rooted.bounded
    rwa [zero] at defined

end AtTop

/-- What function declarations preserve of a checker outside of functions: the global variables, and
what every name and arity that is bound stands for. -/
def Extends (before after : Checker) : Prop :=
  before.AtTop → after.AtTop ∧
    after.names.boundVariables 0 = before.names.boundVariables 0 ∧
    ∀ key signature, (before.names.boundFunctions 0).lookup key = some signature →
      (after.names.boundFunctions 0).lookup key = some signature

theorem Extends.refl (checker : Checker) : Extends checker checker :=
  fun top => ⟨top, rfl, fun _ _ found => found⟩

theorem Extends.trans {first second third : Checker} (left : Extends first second)
    (right : Extends second third) : Extends first third := by
  intro top
  obtain ⟨middleTop, middleVariables, middleFunctions⟩ := left top
  obtain ⟨lastTop, lastVariables, lastFunctions⟩ := right middleTop
  exact ⟨lastTop, lastVariables.trans middleVariables,
    fun key signature found => lastFunctions key signature (middleFunctions key signature found)⟩

/-- A new function has a name and arity that nothing was bound to. -/
theorem extends_function {function typed : Function} {before after : Checker}
    (checked : Check.function function before = .ok typed after) : Extends before after := by
  intro top
  obtain ⟨afterTop, kept, signature, -, functions⟩ := top.of_function checked
  refine ⟨afterTop, kept, ?_⟩
  intro key found looked
  -- What was found before is not the new function, whose key was free.
  obtain ⟨-, -, -, fresh, -⟩ := Check.of_function checked
  rw [Environment.bindsFunction_eq, top.current] at fresh
  rw [functions, List.lookup_cons]
  by_cases same : key = (function.name, function.arity)
  · rw [same] at looked
    have unbound :
        (before.names.boundFunctions 0).lookup (function.name, function.arity) = none := by
      simpa [Chain.root] using fresh
    rw [unbound] at looked
    cases looked
  · have different : (key == (function.name, function.arity)) = false := by simpa using same
    rw [different]
    exact looked

theorem extends_functions {functions typed : List Function} {before after : Checker}
    (checked : functions.mapM Check.function before = .ok typed after) : Extends before after :=
  EStateM.mapM_relates Extends.refl (fun _ _ _ => Extends.trans)
    (fun _ _ _ _ _ step => extends_function step) checked

end Checker

/-- A program passes by way of the checker behind its globals and the one at its end. -/
structure Program.Passes (program typed : Program) (loaded last : Checker) : Prop where
  globals : program.globals.mapM Check.global Checker.initial = .ok typed.globals loaded
  functions : program.functions.mapM Check.function loaded = .ok typed.functions last
  main : last.names.bindsFunction last.names.global "main" 0

theorem Program.passes_of_check {program typed : Program} (checked : program.check = .ok typed) :
    ∃ loaded last, program.Passes typed loaded last := by
  unfold Program.check at checked
  cases ran : Check.program program Checker.initial with
  | error error last =>
    rw [ran] at checked
    cases checked
  | ok result last =>
    rw [ran] at checked
    cases checked
    unfold Check.program at ran
    obtain ⟨globals, loaded, globalsChecked, ran⟩ := EStateM.bind_eq_ok.mp ran
    obtain ⟨functions, final, functionsChecked, ran⟩ := EStateM.bind_eq_ok.mp ran
    obtain ⟨current, middle, got, ran⟩ := EStateM.bind_eq_ok.mp ran
    cases got
    cases bound : final.names.bindsFunction final.names.global "main" 0 with
    | false =>
      simp only [bound] at ran
      cases ran
    | true =>
      simp only [bound] at ran
      cases ran
      exact ⟨loaded, last, globalsChecked, functionsChecked, bound⟩

theorem Program.Passes.atTop_loaded {program typed : Program} {loaded last : Checker}
    (passes : program.Passes typed loaded last) : loaded.AtTop :=
  EStateM.mapM_relates (motive := fun before after : Checker => before.AtTop → after.AtTop)
    (fun _ => id) (fun _ _ _ left right => right ∘ left)
    (fun _ _ _ _ _ step top => top.of_global step) passes.globals Checker.atTop_initial

end Primer
