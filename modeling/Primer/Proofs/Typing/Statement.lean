import Primer.Proofs.Typing.Inversion
import Primer.Proofs.Typing.Restoring

/-! What it takes for a statement to be accepted, and what is left of the names afterwards.

A declaration binds its name in the scope it stands in. Any other statement leaves every scope as
it was; what its blocks declare stays in scopes of their own.
-/

set_option autoImplicit false

namespace Primer

theorem Ty.eq_of_accepts {target actual : Ty} (single : target ≠ .any)
    (plain : target ≠ .comparable)
    (accepted : target.accepts actual) : actual = target := by
  cases target <;> cases actual <;> first | rfl | contradiction

namespace Checker

def inside (checker : Checker) : Checker :=
  { checker with names := checker.names.push }

structure Grows (isOpen : Nat → Prop) (before after : Checker) : Prop where
  names : before.names.Grows isOpen after.names
  signature : after.body.map Body.signature = before.body.map Body.signature

abbrev Keeps (before after : Checker) : Prop :=
  Grows (fun _ => False) before after

abbrev KeepsOuter (before after : Checker) : Prop :=
  Grows (· = before.names.current.top) before after

theorem Restores.grows {isOpen : Nat → Prop} {before after : Checker}
    (restores : before.Restores isOpen after) : Grows isOpen before after :=
  ⟨restores.names, restores.counts.signature⟩

theorem keeps_comeBack {before after : Checker} (inner : KeepsOuter before.inside after) :
    Keeps before (after.comeBack before.names.current) :=
  ⟨Environment.keeps_of_child inner.names, inner.signature⟩

end Checker

namespace Check

variable {α : Type} {before after : Checker} {result : α}

theorem ofNames_eq_ok {answer : Names → Except StaticError α} :
    ofNames answer before = .ok result after ↔
      answer before.names = .ok result ∧ before = after := by
  unfold ofNames
  cases answer before.names with
  | ok value => exact ⟨fun | rfl => ⟨rfl, rfl⟩, fun | ⟨rfl, rfl⟩ => rfl⟩
  | error error => exact ⟨nofun, nofun⟩

theorem inScope_eq_ok {work : Check α} :
    inScope work before = .ok result after ↔
      ∃ last, work before.inside = .ok result last ∧
        after = last.comeBack before.names.current := by
  obtain ⟨names, body⟩ := before
  change inScope work ⟨names, body⟩ = _ ↔ ∃ last, work ⟨names.push, body⟩ = _ ∧ _
  simp only [inScope]
  cases work ⟨names.push, body⟩ with
  | ok value last =>
    constructor
    · rintro ⟨rfl⟩
      exact ⟨last, rfl, rfl⟩
    · rintro ⟨_, ⟨rfl⟩, rfl⟩
      rfl
  | error error last => exact ⟨nofun, nofun⟩

theorem of_expression {value typed : Expr} {type : Ty}
    (checked : expression value before = .ok (typed, type) after) :
    value.check before.names = .ok (typed, type) ∧ before = after :=
  ofNames_eq_ok.mp checked

theorem of_require {target actual : Ty} {done : Unit}
    (required : require target actual before = .ok done after) :
    target.accepts actual ∧ before = after := by
  obtain ⟨passed, same⟩ := ofNames_eq_ok.mp required
  exact ⟨Ty.accepts_of_require passed, same⟩

theorem of_condition {value typed : Expr} (checked : condition value before = .ok typed after) :
    value.check before.names = .ok (typed, .boolean) ∧ before = after := by
  unfold condition at checked
  obtain ⟨⟨found, type⟩, middle, answered, checked⟩ := EStateM.bind_eq_ok.mp checked
  obtain ⟨valueChecked, rfl⟩ := of_expression answered
  obtain ⟨done, middle, answered, checked⟩ := EStateM.bind_eq_ok.mp checked
  obtain ⟨accepted, rfl⟩ := of_require answered
  cases checked
  cases Ty.eq_of_accepts (by decide) (by decide) accepted
  exact ⟨valueChecked, rfl⟩

theorem of_declare {name : String} {typeName : Option String} {mutable : Bool}
    {value typed : Option Expr} {binding : Variable}
    (declared : declare name typeName mutable value before = .ok (typed, binding) after) :
    Variable.declare before.names name typeName mutable value = .ok (typed, binding) ∧
      after = { before with names := before.names.defineVariable name binding } := by
  unfold declare at declared
  obtain ⟨⟨value', bound⟩, middle, answered, declared⟩ := EStateM.bind_eq_ok.mp declared
  obtain ⟨found, rfl⟩ := ofNames_eq_ok.mp answered
  cases declared
  exact ⟨found, rfl⟩

/-- A receiver is a name or an element of a list; a single variable has to be mutable. -/
theorem of_receiver {target typed : Expr} {type : Ty}
    (checked : receiver target before = .ok (typed, type) after) :
    target.check before.names = .ok (typed, type) ∧ before = after ∧
      ((∃ name bound written, target = .named name bound written ∧
          ∀ binding, before.names.getVariable? name = some binding → binding.mutable) ∨
        ∃ name index bound written, target = .element name index bound written) := by
  unfold receiver at checked
  split at checked
  · next name bound written =>
    obtain ⟨⟨found, foundType⟩, middle, answered, checked⟩ := EStateM.bind_eq_ok.mp checked
    obtain ⟨targetChecked, rfl⟩ := of_expression answered
    obtain ⟨binding, looked, -, rfl, rfl⟩ := Expr.check_named targetChecked
    cases mutable : binding.mutable with
    | false =>
      simp only [mutable] at checked
      cases checked
    | true =>
      simp only [mutable] at checked
      cases checked
      refine ⟨targetChecked, rfl, .inl ⟨name, bound, written, rfl, ?_⟩⟩
      intro other also
      cases looked.symm.trans also
      exact mutable
  · next name index bound written =>
    obtain ⟨targetChecked, rfl⟩ := of_expression checked
    exact ⟨targetChecked, rfl, .inr ⟨name, index, bound, written, rfl⟩⟩
  · cases checked

end Check

open Check

namespace Stmt

variable {before after : Checker} {typed : Stmt}

theorem check_expression {value : Expr}
    (checked : (expression value).check before = .ok typed after) :
    ∃ value' type, value.isCall = true ∧ value.check before.names = .ok (value', type) ∧
      typed = .expression value' ∧ after = before := by
  rw [check] at checked
  cases called : value.isCall with
  | false => rw [called] at checked; cases checked
  | true =>
    rw [called] at checked
    obtain ⟨⟨value', type⟩, middle, answered, checked⟩ := EStateM.bind_eq_ok.mp checked
    obtain ⟨valueChecked, rfl⟩ := of_expression answered
    cases checked
    exact ⟨value', type, rfl, valueChecked, rfl, rfl⟩

theorem check_declaration {name : String} {typeName : Option String} {value : Option Expr}
    {bound : Option Variable}
    (checked : (declaration name typeName value bound).check before = .ok typed after) :
    ∃ value' binding,
      Variable.declare before.names name typeName true value = .ok (value', binding) ∧
      typed = .declaration name typeName value' binding ∧
      after = { before with names := before.names.defineVariable name binding } := by
  rw [check] at checked
  obtain ⟨⟨value', binding⟩, middle, answered, checked⟩ := EStateM.bind_eq_ok.mp checked
  obtain ⟨declared, rfl⟩ := of_declare answered
  cases checked
  exact ⟨value', binding, declared, rfl, rfl⟩

theorem check_assignment {target value : Expr}
    (checked : (assignment target value).check before = .ok typed after) :
    ∃ target' expected value' actual, receiver target before = .ok (target', expected) before ∧
      value.check before.names = .ok (value', actual) ∧ expected.accepts actual ∧
      typed = .assignment target' value' ∧ after = before := by
  rw [check] at checked
  obtain ⟨⟨target', expected⟩, middle, targetChecked, checked⟩ := EStateM.bind_eq_ok.mp checked
  obtain ⟨-, rfl, -⟩ := of_receiver targetChecked
  obtain ⟨⟨value', actual⟩, middle, answered, checked⟩ := EStateM.bind_eq_ok.mp checked
  obtain ⟨valueChecked, rfl⟩ := of_expression answered
  obtain ⟨done, middle, answered, checked⟩ := EStateM.bind_eq_ok.mp checked
  obtain ⟨accepted, rfl⟩ := of_require answered
  cases checked
  exact ⟨target', expected, value', actual, targetChecked, valueChecked, accepted, rfl, rfl⟩

theorem check_conditional {test : Expr} {thenBody elseBody : List Stmt}
    (checked : (conditional test thenBody elseBody).check before = .ok typed after) :
    ∃ test' thenBody' elseBody' middle last, test.check before.names = .ok (test', .boolean) ∧
      thenBody ≠ [] ∧
      checkAll thenBody before.inside = .ok thenBody' middle ∧
      checkAll elseBody (middle.comeBack before.names.current).inside = .ok elseBody' last ∧
      typed = .conditional test' thenBody' elseBody' ∧
      after = last.comeBack before.names.current := by
  rw [check] at checked
  obtain ⟨test', middle, answered, checked⟩ := EStateM.bind_eq_ok.mp checked
  obtain ⟨testChecked, rfl⟩ := of_condition answered
  cases thenBody with
  | nil => cases checked
  | cons first rest =>
    obtain ⟨thenBody', middle, answered, checked⟩ := EStateM.bind_eq_ok.mp checked
    obtain ⟨inner, thenChecked, rfl⟩ := inScope_eq_ok.mp answered
    obtain ⟨elseBody', last, answered, checked⟩ := EStateM.bind_eq_ok.mp checked
    obtain ⟨last, elseChecked, rfl⟩ := inScope_eq_ok.mp answered
    cases checked
    exact ⟨test', thenBody', elseBody', inner, last, testChecked, List.cons_ne_nil _ _, thenChecked,
      elseChecked, rfl, rfl⟩

theorem check_loop {test : Expr} {body : List Stmt}
    (checked : (loop test body).check before = .ok typed after) :
    ∃ test' body' last, test.check before.names = .ok (test', .boolean) ∧
      checkAll body before.inside = .ok body' last ∧
      typed = .loop test' body' ∧ after = last.comeBack before.names.current := by
  rw [check] at checked
  obtain ⟨test', middle, answered, checked⟩ := EStateM.bind_eq_ok.mp checked
  obtain ⟨testChecked, rfl⟩ := of_condition answered
  obtain ⟨body', middle, answered, checked⟩ := EStateM.bind_eq_ok.mp checked
  obtain ⟨last, bodyChecked, rfl⟩ := inScope_eq_ok.mp answered
  cases checked
  exact ⟨test', body', last, testChecked, bodyChecked, rfl, rfl⟩

theorem check_switch {value : Expr} {cases : List Case}
    (checked : (switch value cases).check before = .ok typed after) :
    ∃ value' type cases', value.check before.names = .ok (value', type) ∧
      Case.checkAll type cases before = .ok cases' after ∧ typed = .switch value' cases' := by
  rw [check] at checked
  obtain ⟨⟨value', type⟩, middle, answered, checked⟩ := EStateM.bind_eq_ok.mp checked
  obtain ⟨valueChecked, rfl⟩ := of_expression answered
  obtain ⟨cases', last, casesChecked, checked⟩ := EStateM.bind_eq_ok.mp checked
  cases checked
  exact ⟨value', type, cases', valueChecked, casesChecked, rfl⟩

theorem check_returns {value : Expr} (checked : (returns value).check before = .ok typed after) :
    ∃ body value' actual, before.body = some body ∧
      value.check before.names = .ok (value', actual) ∧
      body.signature.returnType.accepts actual ∧ typed = .returns value' ∧
      after = { before with body := some { body with returns := body.returns + 1 } } := by
  rw [check] at checked
  obtain ⟨current, middle, got, checked⟩ := EStateM.bind_eq_ok.mp checked
  cases got
  cases inside : before.body with
  | none => rw [inside] at checked; cases checked
  | some body =>
    rw [inside] at checked
    obtain ⟨⟨value', actual⟩, middle, answered, checked⟩ := EStateM.bind_eq_ok.mp checked
    obtain ⟨valueChecked, rfl⟩ := of_expression answered
    obtain ⟨done, middle, answered, checked⟩ := EStateM.bind_eq_ok.mp checked
    obtain ⟨accepted, rfl⟩ := of_require answered
    cases checked
    refine ⟨body, value', actual, rfl, valueChecked, accepted, rfl, ?_⟩
    simp only [inside, Option.map_some]

theorem isDeclaration_of_check {statement : Stmt}
    (checked : statement.check before = .ok typed after) :
    typed.isDeclaration = statement.isDeclaration := by
  cases statement with
  | expression value =>
    obtain ⟨_, _, -, -, rfl, -⟩ := check_expression checked
    rfl
  | declaration name typeName value bound =>
    obtain ⟨_, _, -, rfl, -⟩ := check_declaration checked
    rfl
  | assignment target value =>
    obtain ⟨_, _, _, _, -, -, -, rfl, -⟩ := check_assignment checked
    rfl
  | conditional test thenBody elseBody =>
    obtain ⟨_, _, _, _, _, -, -, -, -, rfl, -⟩ := check_conditional checked
    rfl
  | loop test body =>
    obtain ⟨_, _, _, -, -, rfl, -⟩ := check_loop checked
    rfl
  | switch value cases =>
    obtain ⟨_, _, _, -, -, rfl⟩ := check_switch checked
    rfl
  | returns value =>
    obtain ⟨_, _, _, -, -, -, rfl, -⟩ := check_returns checked
    rfl

theorem checkAll_nil {typed : List Stmt} (checked : checkAll [] before = .ok typed after) :
    typed = [] ∧ after = before := by
  cases checked
  exact ⟨rfl, rfl⟩

theorem checkAll_cons {first : Stmt} {rest typed : List Stmt}
    (checked : checkAll (first :: rest) before = .ok typed after) :
    ∃ first' rest' middle, first.check before = .ok first' middle ∧
      checkAll rest middle = .ok rest' after ∧ typed = first' :: rest' := by
  rw [checkAll] at checked
  obtain ⟨first', middle, firstChecked, checked⟩ := EStateM.bind_eq_ok.mp checked
  obtain ⟨rest', last, restChecked, checked⟩ := EStateM.bind_eq_ok.mp checked
  cases checked
  exact ⟨first', rest', middle, firstChecked, restChecked, rfl⟩

end Stmt

namespace Case

variable {type : Ty} {before after : Checker} {typed : List Case}

theorem checkAll_nil (checked : checkAll type [] before = .ok typed after) :
    typed = [] ∧ after = before := by
  cases checked
  exact ⟨rfl, rfl⟩

theorem checkAll_matching {value : Expr} {body : List Stmt} {rest : List Case}
    (checked : checkAll type (matching value body :: rest) before = .ok typed after) :
    ∃ value' body' rest' last, value.check before.names = .ok (value', type) ∧
      Stmt.checkAll body before.inside = .ok body' last ∧
      checkAll type rest (last.comeBack before.names.current) = .ok rest' after ∧
      typed = .matching value' body' :: rest' := by
  rw [checkAll] at checked
  obtain ⟨⟨value', actual⟩, middle, answered, checked⟩ := EStateM.bind_eq_ok.mp checked
  obtain ⟨valueChecked, rfl⟩ := of_expression answered
  by_cases same : actual = type
  · subst same
    simp only [ne_eq, not_true_eq_false, if_false] at checked
    obtain ⟨body', middle, answered, checked⟩ := EStateM.bind_eq_ok.mp checked
    obtain ⟨last, bodyChecked, rfl⟩ := inScope_eq_ok.mp answered
    obtain ⟨rest', end', restChecked, checked⟩ := EStateM.bind_eq_ok.mp checked
    cases checked
    exact ⟨value', body', rest', last, valueChecked, bodyChecked, restChecked, rfl⟩
  · simp only [ne_eq, same, not_false_eq_true, if_true] at checked
    cases checked

theorem checkAll_otherwise {body : List Stmt} {rest : List Case}
    (checked : checkAll type (otherwise body :: rest) before = .ok typed after) :
    ∃ body' last, rest = [] ∧ Stmt.checkAll body before.inside = .ok body' last ∧
      typed = [.otherwise body'] ∧ after = last.comeBack before.names.current := by
  rw [checkAll] at checked
  cases rest with
  | cons first rest => cases checked
  | nil =>
    obtain ⟨body', middle, answered, checked⟩ := EStateM.bind_eq_ok.mp checked
    obtain ⟨last, bodyChecked, rfl⟩ := inScope_eq_ok.mp answered
    cases checked
    exact ⟨body', last, rfl, bodyChecked, rfl, rfl⟩

end Case

/-! ### What is left of the names -/

section growth

variable {before after : Checker}

theorem Stmt.keepsOuter_check {statement typed : Stmt}
    (checked : statement.check before = .ok typed after) : before.KeepsOuter after :=
  ((Stmt.restoresOuter_check (Stmt.restores_check statement)).of_ok checked).grows

theorem Stmt.keeps_check {typed : Stmt} (statement : Stmt)
    (checked : statement.check before = .ok typed after)
    (other : statement.isDeclaration = false) : before.Keeps after :=
  ((Stmt.restores_check statement other).of_ok checked).grows

theorem Stmt.keepsOuter_checkAll {typed : List Stmt} (statements : List Stmt)
    (checked : Stmt.checkAll statements before = .ok typed after) : before.KeepsOuter after :=
  ((Stmt.restoresOuter_checkAll statements).of_ok checked).grows

end growth

end Primer
