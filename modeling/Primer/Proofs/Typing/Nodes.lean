import Primer.Proofs.Typing.Program
import Primer.Proofs.Typing.View

/-! What checking leaves in the nodes of a tree.

Every node of a typed tree was made by checking a node among some names. A property of the names
that lasts throughout a body therefore reaches every node in it.
-/

set_option autoImplicit false

namespace Primer

/-- A property of names that checking keeps, and under which functions have as many parameters as
they are called with. -/
structure Names.Lasting (good : Names → Prop) : Prop where
  counted : ∀ {names : Names} {name arity signature}, good names →
    names.getFunction? name arity = some signature → signature.parameterTypes.length = arity
  push : ∀ {names : Names}, good names → good names.push
  step : ∀ {statement typed before after}, Stmt.check statement before = .ok typed after →
    good before.names → good after.names
  back : ∀ {statements typed} {before last : Checker},
    Stmt.checkAll statements before.inside = .ok typed last → good before.names →
      good (last.comeBack before.names.current).names

structure Names.Adds (good : Names → Prop) (onExpr onExpr' : Expr → Prop) : Prop where
  lasting : Names.Lasting good
  typed : ∀ {names source typed type}, good names → Expr.Typed names source typed type →
    onExpr typed → onExpr' typed
  lists : ∀ {elements} {type : Ty}, onExpr (.list elements type type) →
    onExpr' (.list elements type type)

section nodes

variable {good : Names → Prop} {onExpr onExpr' : Expr → Prop} {onStmt : Stmt → Prop}

mutual

theorem Expr.every_of_check (adds : Names.Adds good onExpr onExpr') {names : Names}
    (holds : good names) {typed : Expr} {type : Ty} : (expr : Expr) →
    expr.check names = .ok (typed, type) → typed.Every onExpr → typed.Every onExpr'
  | .literal _ _, checked, every => by
    have node := Expr.typed_of_check checked
    obtain ⟨-, rfl⟩ := Expr.check_literal checked
    exact adds.typed holds node every
  | .group inner _, checked, every => by
    have node := Expr.typed_of_check checked
    obtain ⟨_, innerChecked, rfl⟩ := Expr.check_group checked
    exact ⟨adds.typed holds node every.1, Expr.every_of_check adds holds inner innerChecked every.2⟩
  | .binary _ left right _, checked, every => by
    have node := Expr.typed_of_check checked
    obtain ⟨_, _, _, _, leftChecked, rightChecked, -, rfl⟩ := Expr.check_binary checked
    exact ⟨adds.typed holds node every.1, Expr.every_of_check adds holds left leftChecked every.2.1,
      Expr.every_of_check adds holds right rightChecked every.2.2⟩
  | .named _ _ _, checked, every => by
    have node := Expr.typed_of_check checked
    obtain ⟨_, -, -, -, rfl⟩ := Expr.check_named checked
    exact adds.typed holds node every
  | .element _ index _ _, checked, every => by
    have node := Expr.typed_of_check checked
    obtain ⟨_, _, _, -, -, indexChecked, -, -, rfl⟩ := Expr.check_element checked
    exact ⟨adds.typed holds node every.1, Expr.every_of_check adds holds index indexChecked every.2⟩
  | .call _ arguments _ _, checked, every => by
    have node := Expr.typed_of_check checked
    obtain ⟨signature, _, found, argumentsChecked, -, rfl⟩ := Expr.check_call checked
    have counted := adds.lasting.counted holds found
    obtain ⟨_, all, -⟩ := Expr.checkAll_of_checkArguments counted.symm argumentsChecked
    exact ⟨adds.typed holds node every.1,
      Expr.everyIn_of_checkAll adds holds arguments all every.2⟩
  | .list _ _ _, checked, _ => absurd checked Expr.check_list

theorem Expr.everyIn_of_checkAll (adds : Names.Adds good onExpr onExpr') {names : Names}
    (holds : good names) {typed : List Expr} {types : List Ty} : (exprs : List Expr) →
    Expr.CheckAll names exprs typed types → Expr.EveryIn onExpr typed →
    Expr.EveryIn onExpr' typed
  | [], checked, _ => by
    cases typed <;> cases types <;> try exact checked.elim
    trivial
  | first :: rest, checked, every => by
    cases typed <;> cases types <;> try exact checked.elim
    exact ⟨Expr.every_of_check adds holds first checked.1 every.1,
      Expr.everyIn_of_checkAll adds holds rest checked.2 every.2⟩

end

theorem Variable.every_of_declare (adds : Names.Adds good onExpr onExpr') {names : Names}
    (holds : good names) {name : String} {typeName : Option String} {mutable : Bool}
    {value typed : Option Expr} {binding : Variable}
    (declared : declare names name typeName mutable value = .ok (typed, binding))
    (every : ∀ given, typed = some given → given.Every onExpr) :
    ∀ given, typed = some given → given.Every onExpr' := by
  rintro given rfl
  have before := every given rfl
  obtain ⟨initial, -⟩ := initial_of_declare declared
  cases initial with
  | single _ checked _ => exact Expr.every_of_check adds holds _ checked before
  -- A list is only checked where it is declared, not as an expression.
  | list _ checked _ =>
    exact ⟨adds.lists before.1, Expr.everyIn_of_checkAll adds holds _ checked before.2⟩

mutual

theorem Stmt.every_of_typed (adds : Names.Adds good onExpr onExpr') {before after : Checker}
    (holds : good before.names) {typed : Stmt} : (statement : Stmt) →
    statement.check before = .ok typed after → typed.Every onExpr onStmt →
    typed.Every onExpr' onStmt
  | .expression value, checked, every => by
    obtain ⟨_, _, -, valueChecked, rfl, -⟩ := Stmt.check_expression checked
    exact ⟨every.1, Expr.every_of_check adds holds value valueChecked every.2⟩
  | .declaration _ _ _ _, checked, every => by
    obtain ⟨_, _, declared, rfl, -⟩ := Stmt.check_declaration checked
    exact ⟨every.1, Variable.every_of_declare adds holds declared every.2⟩
  | .assignment target value, checked, every => by
    obtain ⟨_, _, _, _, targetChecked, valueChecked, -, rfl, -⟩ := Stmt.check_assignment checked
    obtain ⟨targetTyped, -⟩ := Check.of_receiver targetChecked
    exact ⟨every.1, Expr.every_of_check adds holds target targetTyped every.2.1,
      Expr.every_of_check adds holds value valueChecked every.2.2⟩
  | .conditional test thenBody elseBody, checked, every => by
    obtain ⟨_, _, _, _, _, testChecked, -, thenChecked, elseChecked, rfl, -⟩ :=
      Stmt.check_conditional checked
    -- The second branch is checked with what the first one leaves behind.
    have between := adds.lasting.back thenChecked holds
    exact ⟨every.1, Expr.every_of_check adds holds test testChecked every.2.1,
      Stmt.everyIn_of_typed adds (adds.lasting.push holds) thenBody thenChecked every.2.2.1,
      Stmt.everyIn_of_typed adds (adds.lasting.push between) elseBody elseChecked every.2.2.2⟩
  | .loop test body, checked, every => by
    obtain ⟨_, _, _, testChecked, bodyChecked, rfl, -⟩ := Stmt.check_loop checked
    exact ⟨every.1, Expr.every_of_check adds holds test testChecked every.2.1,
      Stmt.everyIn_of_typed adds (adds.lasting.push holds) body bodyChecked every.2.2⟩
  | .switch value cases, checked, every => by
    obtain ⟨_, _, _, valueChecked, casesChecked, rfl⟩ := Stmt.check_switch checked
    exact ⟨every.1, Expr.every_of_check adds holds value valueChecked every.2.1,
      Case.everyIn_of_typed adds holds cases casesChecked every.2.2⟩
  | .returns value, checked, every => by
    obtain ⟨_, _, _, -, valueChecked, -, rfl, -⟩ := Stmt.check_returns checked
    exact ⟨every.1, Expr.every_of_check adds holds value valueChecked every.2⟩

theorem Stmt.everyIn_of_typed (adds : Names.Adds good onExpr onExpr') {before after : Checker}
    (holds : good before.names) {typed : List Stmt} : (statements : List Stmt) →
    Stmt.checkAll statements before = .ok typed after → Stmt.EveryIn onExpr onStmt typed →
    Stmt.EveryIn onExpr' onStmt typed
  | [], checked, _ => by
    obtain ⟨rfl, -⟩ := Stmt.checkAll_nil checked
    trivial
  | first :: rest, checked, every => by
    obtain ⟨_, _, _, firstChecked, restChecked, rfl⟩ := Stmt.checkAll_cons checked
    have behind := adds.lasting.step firstChecked holds
    exact ⟨Stmt.every_of_typed adds holds first firstChecked every.1,
      Stmt.everyIn_of_typed adds behind rest restChecked every.2⟩

theorem Case.everyIn_of_typed (adds : Names.Adds good onExpr onExpr') {type : Ty}
    {before after : Checker} (holds : good before.names) {typed : List Case} :
    (cases : List Case) → Case.checkAll type cases before = .ok typed after →
    Case.EveryIn onExpr onStmt typed → Case.EveryIn onExpr' onStmt typed
  | [], checked, _ => by
    obtain ⟨rfl, -⟩ := Case.checkAll_nil checked
    trivial
  | .matching value body :: rest, checked, every => by
    obtain ⟨_, _, _, _, valueChecked, bodyChecked, restChecked, rfl⟩ :=
      Case.checkAll_matching checked
    have behind := adds.lasting.back bodyChecked holds
    exact ⟨Expr.every_of_check adds holds value valueChecked every.1,
      Stmt.everyIn_of_typed adds (adds.lasting.push holds) body bodyChecked every.2.1,
      Case.everyIn_of_typed adds behind rest restChecked every.2.2⟩
  | .otherwise body :: _, checked, every => by
    obtain ⟨_, _, -, bodyChecked, rfl, -⟩ := Case.checkAll_otherwise checked
    exact ⟨Stmt.everyIn_of_typed adds (adds.lasting.push holds) body bodyChecked every.1, trivial⟩

end

end nodes

/-! ### Functions that are bound throughout a body -/

structure Names.Binds (functions : List ((String × Nat) × Signature)) (names : Names) : Prop where
  rooted : names.Rooted
  functions : names.boundFunctions 0 = functions

namespace Names.Binds

variable {functions : List ((String × Nat) × Signature)} {names other : Names}

theorem of_grows {isOpen : Nat → Prop} (binds : names.Binds functions)
    (grows : Environment.Grows isOpen names other) : other.Binds functions :=
  ⟨binds.rooted.of_grows grows, (grows.boundFunctions 0).trans binds.functions⟩

theorem push (binds : names.Binds functions) : Names.Binds functions names.push :=
  ⟨binds.rooted.child_current,
    (Environment.boundFunctions_child names names.current 0).trans binds.functions⟩

theorem getFunction? (binds : names.Binds functions) {name : String} {arity : Nat}
    {signature : Signature} (found : names.getFunction? name arity = some signature) :
    functions.lookup (name, arity) = some signature := by
  rwa [binds.rooted.getFunction?, binds.functions] at found

theorem inBody (binds : names.Binds functions) (signature : Signature)
    (parameters : List String) : (signature.inBody names parameters).names.Binds functions :=
  binds.push.of_grows (Names.keepsOuter_defineParameters names.push _)

theorem lasting
    (counted : ∀ {key signature}, functions.lookup key = some signature →
      signature.parameterTypes.length = key.2) : Names.Lasting (Names.Binds functions) where
  counted binds found := counted (binds.getFunction? found)
  push binds := binds.push
  step checked binds := binds.of_grows (Stmt.keepsOuter_check checked).names
  back {statements} _ _ _ checked binds :=
    binds.of_grows (Checker.keeps_comeBack (Stmt.keepsOuter_checkAll statements checked)).names

end Names.Binds

end Primer
