import Primer.Proofs.Run.Promises
import Primer.Proofs.Typing.Genuine
import Primer.Proofs.Typing.Nodes
import Primer.Proofs.Typing.Once
import Primer.Proofs.Typing.Shape

/-! What checking writes into a tree.

A checked tree is the given one once its types and bindings are taken away. Nothing is left out:
every expression in it has a type, and every name and declaration what it stands for.
-/

set_option autoImplicit false

namespace Primer

/-! ### What stays -/

mutual

theorem Expr.bare_of_check {names : Names} {typed : Expr} {type : Ty} : (expr : Expr) →
    expr.check names = .ok (typed, type) → typed.bare = expr.bare
  | .literal _ _, checked => by
    obtain ⟨-, rfl⟩ := Expr.check_literal checked
    rfl
  | .group inner _, checked => by
    obtain ⟨_, innerChecked, rfl⟩ := Expr.check_group checked
    rw [Expr.bare, Expr.bare, Expr.bare_of_check inner innerChecked]
  | .binary _ left right _, checked => by
    obtain ⟨_, _, _, _, leftChecked, rightChecked, -, rfl⟩ := Expr.check_binary checked
    rw [Expr.bare, Expr.bare, Expr.bare_of_check left leftChecked,
      Expr.bare_of_check right rightChecked]
  | .named _ _ _, checked => by
    obtain ⟨_, -, -, -, rfl⟩ := Expr.check_named checked
    rfl
  | .element _ index _ _, checked => by
    obtain ⟨_, _, _, -, -, indexChecked, -, -, rfl⟩ := Expr.check_element checked
    rw [Expr.bare, Expr.bare, Expr.bare_of_check index indexChecked]
  | .call _ arguments _ _, checked => by
    obtain ⟨_, _, -, argumentsChecked, -, rfl⟩ := Expr.check_call checked
    rw [Expr.bare, Expr.bare, Expr.bareAll_of_checkArguments arguments argumentsChecked]
  | .list _ _ _, checked => absurd checked Expr.check_list

/-- Arguments without a parameter are not checked, and stay as they are. -/
theorem Expr.bareAll_of_checkArguments {names : Names} {typed : List Expr} {parameters : List Ty} :
    (arguments : List Expr) → Expr.checkArguments names arguments parameters = .ok typed →
    Expr.bareAll typed = Expr.bareAll arguments
  | [], checked => by
    rw [Expr.checkArguments.eq_def] at checked
    cases checked
    rfl
  | first :: rest, checked => by
    cases parameters with
    | nil =>
      rw [Expr.checkArguments.eq_def] at checked
      cases checked
      rfl
    | cons parameter parameters =>
      rw [Expr.checkArguments] at checked
      obtain ⟨⟨_, _⟩, firstChecked, checked⟩ := Except.bind_eq_ok.mp checked
      obtain ⟨_, -, checked⟩ := Except.bind_eq_ok.mp checked
      obtain ⟨_, restChecked, checked⟩ := Except.bind_eq_ok.mp checked
      cases checked
      rw [Expr.bareAll, Expr.bareAll, Expr.bare_of_check first firstChecked,
        Expr.bareAll_of_checkArguments rest restChecked]

end

theorem Expr.bareAll_of_checkAll {names : Names} {typed exprs : List Expr} {types : List Ty}
    (checked : Expr.CheckAll names exprs typed types) :
    Expr.bareAll typed = Expr.bareAll exprs := by
  induction exprs generalizing typed types with
  | nil =>
    cases typed <;> cases types <;> try exact checked.elim
    rfl
  | cons first rest ih =>
    cases typed <;> cases types <;> try exact checked.elim
    rw [bareAll, bareAll, bare_of_check first checked.1, ih checked.2]

theorem Variable.bare_of_declare {names : Names} {name : String} {typeName : Option String}
    {mutable : Bool} {value typed : Option Expr} {binding : Variable}
    (declared : declare names name typeName mutable value = .ok (typed, binding)) :
    typed.map Expr.bare = value.map Expr.bare := by
  obtain ⟨initial, -⟩ := initial_of_declare declared
  cases initial with
  | missing _ => rfl
  | single _ checked _ => exact congrArg some (Expr.bare_of_check _ checked)
  | list _ checked _ =>
    rw [Option.map_some, Option.map_some, Expr.bare, Expr.bare, Expr.bareAll_of_checkAll checked]

mutual

theorem Stmt.bare_of_check {before after : Checker} {typed : Stmt} : (statement : Stmt) →
    statement.check before = .ok typed after → typed.bare = statement.bare
  | .expression value, checked => by
    obtain ⟨_, _, -, valueChecked, rfl, -⟩ := Stmt.check_expression checked
    rw [Stmt.bare, Stmt.bare, Expr.bare_of_check value valueChecked]
  | .declaration _ _ _ _, checked => by
    obtain ⟨_, _, declared, rfl, -⟩ := Stmt.check_declaration checked
    rw [Stmt.bare, Stmt.bare, Variable.bare_of_declare declared]
  | .assignment target value, checked => by
    obtain ⟨_, _, _, _, targetChecked, valueChecked, -, rfl, -⟩ := Stmt.check_assignment checked
    obtain ⟨targetTyped, -⟩ := Check.of_receiver targetChecked
    rw [Stmt.bare, Stmt.bare, Expr.bare_of_check target targetTyped,
      Expr.bare_of_check value valueChecked]
  | .conditional test thenBody elseBody, checked => by
    obtain ⟨_, _, _, _, _, testChecked, -, thenChecked, elseChecked, rfl, -⟩ :=
      Stmt.check_conditional checked
    rw [Stmt.bare, Stmt.bare, Expr.bare_of_check test testChecked,
      Stmt.bareAll_of_checkAll thenBody thenChecked, Stmt.bareAll_of_checkAll elseBody elseChecked]
  | .loop test body, checked => by
    obtain ⟨_, _, _, testChecked, bodyChecked, rfl, -⟩ := Stmt.check_loop checked
    rw [Stmt.bare, Stmt.bare, Expr.bare_of_check test testChecked,
      Stmt.bareAll_of_checkAll body bodyChecked]
  | .switch value cases, checked => by
    obtain ⟨_, _, _, valueChecked, casesChecked, rfl⟩ := Stmt.check_switch checked
    rw [Stmt.bare, Stmt.bare, Expr.bare_of_check value valueChecked,
      Case.bareAll_of_checkAll cases casesChecked]
  | .returns value, checked => by
    obtain ⟨_, _, _, -, valueChecked, -, rfl, -⟩ := Stmt.check_returns checked
    rw [Stmt.bare, Stmt.bare, Expr.bare_of_check value valueChecked]

theorem Stmt.bareAll_of_checkAll {before after : Checker} {typed : List Stmt} :
    (statements : List Stmt) → Stmt.checkAll statements before = .ok typed after →
    Stmt.bareAll typed = Stmt.bareAll statements
  | [], checked => by
    obtain ⟨rfl, -⟩ := Stmt.checkAll_nil checked
    rfl
  | first :: rest, checked => by
    obtain ⟨_, _, _, firstChecked, restChecked, rfl⟩ := Stmt.checkAll_cons checked
    rw [Stmt.bareAll, Stmt.bareAll, Stmt.bare_of_check first firstChecked,
      Stmt.bareAll_of_checkAll rest restChecked]

theorem Case.bareAll_of_checkAll {type : Ty} {before after : Checker} {typed : List Case} :
    (cases : List Case) → Case.checkAll type cases before = .ok typed after →
    Case.bareAll typed = Case.bareAll cases
  | [], checked => by
    obtain ⟨rfl, -⟩ := Case.checkAll_nil checked
    rfl
  | .matching value body :: rest, checked => by
    obtain ⟨_, _, _, _, valueChecked, bodyChecked, restChecked, rfl⟩ :=
      Case.checkAll_matching checked
    rw [Case.bareAll, Case.bareAll, Expr.bare_of_check value valueChecked,
      Stmt.bareAll_of_checkAll body bodyChecked, Case.bareAll_of_checkAll rest restChecked]
  | .otherwise body :: _, checked => by
    obtain ⟨_, _, rfl, bodyChecked, rfl, -⟩ := Case.checkAll_otherwise checked
    simp only [Case.bareAll, Stmt.bareAll_of_checkAll body bodyChecked]

end

theorem Check.bare_of_global {global typed : Global} {before after : Checker}
    (checked : Check.global global before = .ok typed after) : typed.bare = global.bare := by
  obtain ⟨value, binding, declared, rfl, -⟩ := Check.of_global checked
  rw [Global.bare, Global.bare, Variable.bare_of_declare declared]

theorem Check.bare_of_function {function typed : Function} {before after : Checker}
    (checked : Check.function function before = .ok typed after) :
    typed.bare = function.bare := by
  obtain ⟨signature, last, -, -, bodyChecked, -, same, -⟩ := Check.of_function checked
  rw [same, Function.bare, Function.bare, Stmt.bareAll_of_checkAll function.body bodyChecked]

theorem Program.bare_of_check {program typed : Program} (checked : program.check = .ok typed) :
    typed.bare = program.bare := by
  obtain ⟨loaded, last, passes⟩ := passes_of_check checked
  rw [bare, bare, EStateM.map_of_mapM passes.globals fun _ _ _ _ => Check.bare_of_global,
    EStateM.map_of_mapM passes.functions fun _ _ _ _ => Check.bare_of_function]

/-! ### What is written -/

/-- What the name in an expression stands for agrees with its type and its arguments. -/
def Expr.Resolved : Expr → Prop
  | .named _ binding type | .element _ _ binding type =>
    ∃ meant, binding = some meant ∧ type = some meant.type
  | .call _ arguments binding type => ∃ signature, binding = some signature ∧
      signature.parameterTypes.length = arguments.length ∧ type = some signature.returnType
  | .list _ elementType _ => elementType.isSome
  | .literal _ _ | .group _ _ | .binary _ _ _ _ => True

structure Expr.Annotated (expr : Expr) : Prop where
  type : expr.type?.isSome
  resolved : expr.Resolved

def Stmt.Annotated : Stmt → Prop
  | .declaration _ _ _ binding => binding.isSome
  | _ => True

structure Program.Annotated (program : Program) : Prop where
  nodes : program.Every Expr.Annotated Stmt.Annotated
  globals : ∀ global ∈ program.globals, global.binding.isSome
  functions : ∀ function ∈ program.functions, function.binding.isSome

theorem Names.Genuine.lasting : Names.Lasting Names.Genuine where
  counted genuine found := (genuine.getFunction? found).counted
  push genuine := genuine.push
  step {statement} _ _ _ checked genuine := Stmt.genuine_check statement checked genuine
  back {statements} _ _ _ checked genuine :=
    (Stmt.genuine_checkAll statements checked genuine.push).enter _

theorem Names.Genuine.annotates :
    Names.Adds Names.Genuine (fun _ => True) Expr.Annotated where
  lasting := lasting
  typed genuine node _ := by
    cases node with
    | literal | group | binary => exact ⟨Option.isSome_some, trivial⟩
    | named | element => exact ⟨Option.isSome_some, _, rfl, rfl⟩
    | call found checked =>
      have counted := (genuine.getFunction? found).counted
      have same := Expr.length_of_checkArguments checked
      exact ⟨Option.isSome_some, _, rfl, counted.trans same.symm, rfl⟩
  lists _ := ⟨Option.isSome_some, Option.isSome_some⟩

theorem Stmt.annotated_of_check {statement typed : Stmt} {before after : Checker}
    (checked : statement.check before = .ok typed after) : typed.Annotated := by
  cases Stmt.typed_of_check checked with
  | declaration => exact Option.isSome_some
  | expression | assignment | conditional | loop | switch | returns => trivial

theorem Stmt.everyIn_annotated {statements typed : List Stmt} {before after : Checker}
    (checked : Stmt.checkAll statements before = .ok typed after) (genuine : before.names.Genuine) :
    Stmt.EveryIn Expr.Annotated Stmt.Annotated typed :=
  Stmt.everyIn_of_typed Names.Genuine.annotates genuine statements checked
    (Stmt.everyIn_of_checkAll (fun _ _ _ _ step _ => annotated_of_check step) statements checked
      (Stmt.everyIn_true statements))

theorem Check.annotated_of_global {global typed : Global} {before after : Checker}
    (checked : Check.global global before = .ok typed after) (genuine : before.names.Genuine) :
    ((∀ value, typed.value = some value → value.Every Expr.Annotated) ∧ typed.binding.isSome) ∧
      after.names.Genuine := by
  obtain ⟨value, binding, declared, rfl, rfl⟩ := Check.of_global checked
  refine ⟨⟨?_, rfl⟩, genuine.declare declared⟩
  exact Variable.every_of_declare Names.Genuine.annotates genuine declared
    fun given _ => given.every_true

theorem Check.annotated_of_function {function typed : Function} {before after : Checker}
    (even : function.parameters.length = function.parameterTypes.length)
    (checked : Check.function function before = .ok typed after) (genuine : before.names.Genuine) :
    (Stmt.EveryIn Expr.Annotated Stmt.Annotated typed.body ∧ typed.binding.isSome) ∧
      after.names.Genuine := by
  obtain ⟨signature, last, spelled, -, bodyChecked, -, same, rfl⟩ := Check.of_function checked
  have start := genuine.inBody (Function.genuine_signature spelled even) function.parameters
  refine ⟨⟨Stmt.everyIn_annotated bodyChecked start, ?_⟩, ?_⟩
  · rw [same]
    rfl
  · exact (Stmt.genuine_checkAll function.body bodyChecked start).enter _

theorem Program.annotated_of_check {program typed : Program}
    (even : ∀ function ∈ program.functions,
      function.parameters.length = function.parameterTypes.length)
    (checked : program.check = .ok typed) : typed.Annotated := by
  obtain ⟨loaded, last, passes⟩ := passes_of_check checked
  obtain ⟨globals, genuine⟩ := EStateM.mapM_all (motive := fun checker => checker.names.Genuine)
    (fun _ _ _ _ _ step => Check.annotated_of_global step) passes.globals Checker.genuine_initial
  obtain ⟨functions, -⟩ := EStateM.mapM_all (motive := fun checker => checker.names.Genuine)
    (fun function member _ _ _ step => Check.annotated_of_function (even function member) step)
    passes.functions genuine
  exact
    { nodes := ⟨fun global member => (globals global member).1,
        fun function member => (functions function member).1⟩
      globals := fun global member => (globals global member).2
      functions := fun function member => (functions function member).2 }

/-- Checking a parsed program annotates every node and changes nothing else, and whether it accepts
or refuses the program, it never writes a type over another. -/
theorem Program.check_annotates {tokens : List Token} {program : Program}
    (parsed : Program.ofTokens tokens = .ok program) :
    (∀ typed, program.check = .ok typed → typed.Annotated ∧ typed.bare = program) ∧
      program.checkOnce = some <$> program.check := by
  have bare := bare_of_ofTokens parsed
  refine ⟨fun typed checked => ⟨?_, (bare_of_check checked).trans bare⟩, checkOnce_eq bare⟩
  exact annotated_of_check
    (fun function member => (proper_of_ofTokens parsed function member).parameters) checked

theorem Sample.source_annotated : Program.ofTokens Sample.tokens = .ok Sample.source ∧
    Sample.typed.Annotated ∧ Sample.typed.bare = Sample.source ∧
    Sample.source.checkOnce = .ok (some Sample.typed) := by
  obtain ⟨accepted, once⟩ := Program.check_annotates Sample.parsed
  obtain ⟨annotated, bare⟩ := accepted Sample.typed Sample.checked
  rw [Sample.checked] at once
  exact ⟨Sample.parsed, annotated, bare, once⟩

end Primer
