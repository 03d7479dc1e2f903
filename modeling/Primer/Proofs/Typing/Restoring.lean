import Primer.Proofs.Scope.Growth
import Primer.Proofs.Success
import Primer.Proofs.Tree.Every
import Primer.Typing.Program

/-! Checking comes back to where it started, however it ends.

Statements, blocks and cases leave the current scope current and the scopes that there were with
their bindings; only a declaration adds to the scope that it stands in. The function around stays
the same function, in which return statements may have been counted. All this holds of a check that
is refused, at whatever depth, as well as of one that succeeds.
-/

set_option autoImplicit false

namespace Primer

namespace Checker

def Counts (before after : Checker) : Prop :=
  ∃ more, after.body = before.body.map fun body => { body with returns := body.returns + more }

structure Restores (isOpen : Nat → Prop) (before after : Checker) : Prop where
  names : before.names.Grows isOpen after.names
  counts : before.Counts after

variable {isOpen : Nat → Prop} {first second third : Checker}

theorem Counts.refl (checker : Checker) : checker.Counts checker :=
  ⟨0, by cases checker.body <;> rfl⟩

theorem Counts.trans (left : first.Counts second) (right : second.Counts third) :
    first.Counts third := by
  obtain ⟨some, isSecond⟩ := left
  obtain ⟨more, isThird⟩ := right
  refine ⟨some + more, ?_⟩
  rw [isThird, isSecond]
  cases first.body with
  | none => rfl
  | some body => simp [Nat.add_assoc]

theorem Counts.signature (counts : first.Counts second) :
    second.body.map Body.signature = first.body.map Body.signature := by
  obtain ⟨more, isSecond⟩ := counts
  rw [isSecond]
  cases first.body <;> rfl

theorem Restores.refl (checker : Checker) : checker.Restores isOpen checker :=
  ⟨.refl _, .refl _⟩

theorem Restores.trans (left : first.Restores isOpen second)
    (right : second.Restores isOpen third) : first.Restores isOpen third :=
  ⟨left.names.trans right.names, left.counts.trans right.counts⟩

end Checker

namespace Check

variable {α β : Type} {work : Check α}

def Restores (work : Check α) : Prop :=
  EStateM.Across (Checker.Restores fun _ => False) work

def RestoresOuter (work : Check α) : Prop :=
  EStateM.Across (fun before => Checker.Restores (· = before.names.current.top) before) work

theorem Restores.outer (restores : Restores work) : RestoresOuter work :=
  restores.mono fun _ _ kept => ⟨Environment.Keeps.outer kept.names, kept.counts⟩

theorem Restores.bind {next : α → Check β} (first : Restores work)
    (rest : ∀ value, Restores (next value)) : Restores (work >>= next) :=
  EStateM.Across.bind Checker.Restores.trans first rest

theorem RestoresOuter.bind {next : α → Check β} (first : RestoresOuter work)
    (rest : ∀ value, RestoresOuter (next value)) : RestoresOuter (work >>= next) :=
  EStateM.Across.bind (fun left right =>
    ⟨Environment.KeepsOuter.trans left.names right.names, left.counts.trans right.counts⟩)
    first rest

theorem restores_pure (value : α) : Restores (pure value : Check α) :=
  fun checker => Checker.Restores.refl checker

theorem restores_throw (error : StaticError) : Restores (throw error : Check α) :=
  fun checker => Checker.Restores.refl checker

theorem restores_get : Restores (get : Check Checker) :=
  fun checker => Checker.Restores.refl checker

theorem restores_ofNames (answer : Names → Except StaticError α) : Restores (ofNames answer) := by
  intro checker
  unfold ofNames
  cases answer checker.names <;> exact Checker.Restores.refl checker

theorem restores_countReturn : Restores countReturn :=
  fun _ => ⟨.refl _, 1, rfl⟩

theorem Restores.guard {refused : Prop} [Decidable refused] {error : StaticError} {next : Check α}
    (rest : Restores next) :
    Restores
      (if refused then (do let done : Unit ← throw error; (fun _ => next) done) else next) := by
  split
  · exact (restores_throw error).bind fun _ => rest
  · exact rest

theorem restores_condition (value : Expr) : Restores (condition value) :=
  (restores_ofNames _).bind fun _ => (restores_ofNames _).bind fun _ => restores_pure _

theorem restores_receiver (value : Expr) : Restores (receiver value) := by
  unfold receiver
  split
  · refine (restores_ofNames _).bind fun found => ?_
    dsimp only
    split
    · exact (restores_pure found).guard
    · exact restores_pure found
  · exact restores_ofNames _
  · exact restores_throw _

theorem restores_inScope (inner : RestoresOuter work) : Restores (inScope work) := by
  rintro ⟨names, body⟩
  have kept := inner { names := names.push, body }
  unfold inScope
  dsimp only
  cases ran : work { names := names.push, body } <;>
    · rw [ran] at kept
      exact ⟨Environment.keeps_of_child kept.names, kept.counts⟩

end Check

open Check

/-- A declaration is carried out as a whole or not at all. -/
theorem Stmt.check_declaration_eq (name : String) (typeName : Option String)
    (value : Option Expr) (bound : Option Variable) (checker : Checker) :
    (declaration name typeName value bound).check checker =
      match Variable.declare checker.names name typeName true value with
      | .ok (value', binding) => .ok (declaration name typeName value' binding)
          { checker with names := checker.names.defineVariable name binding }
      | .error error => .error error checker := by
  rw [Stmt.check]
  change EStateM.bind (EStateM.bind (ofNames _) _) _ checker = _
  unfold EStateM.bind ofNames
  dsimp only
  cases Variable.declare checker.names name typeName true value <;> rfl

theorem Stmt.restoresOuter_declaration (name : String) (typeName : Option String)
    (value : Option Expr) (bound : Option Variable) :
    RestoresOuter (declaration name typeName value bound).check := by
  intro checker
  rw [check_declaration_eq]
  cases Variable.declare checker.names name typeName true value with
  | ok found => exact ⟨checker.names.keepsOuter_defineVariable name found.2, .refl _⟩
  | error error => exact .refl checker

theorem Stmt.restoresOuter_check {statement : Stmt}
    (other : statement.isDeclaration = false → Restores statement.check) :
    RestoresOuter statement.check := by
  cases statement with
  | declaration name typeName value bound =>
    exact restoresOuter_declaration name typeName value bound
  | expression | assignment | conditional | loop | switch | returns => exact (other rfl).outer

mutual

theorem Stmt.restores_check : (statement : Stmt) → statement.isDeclaration = false →
    Restores statement.check
  | .expression value, _ => by
    rw [Stmt.check]
    exact ((restores_ofNames _).bind fun _ => restores_pure _).guard
  | .assignment target value, _ => by
    rw [Stmt.check]
    refine (restores_receiver target).bind fun _ => (restores_ofNames _).bind fun _ => ?_
    exact (restores_ofNames _).bind fun _ => restores_pure _
  | .conditional test thenBody elseBody, _ => by
    have thenKept := restores_inScope (Stmt.restoresOuter_checkAll thenBody)
    have elseKept := restores_inScope (Stmt.restoresOuter_checkAll elseBody)
    rw [Stmt.check]
    refine (restores_condition test).bind fun _ => ?_
    exact (thenKept.bind fun _ => elseKept.bind fun _ => restores_pure _).guard
  | .loop test body, _ => by
    have bodyKept := restores_inScope (Stmt.restoresOuter_checkAll body)
    rw [Stmt.check]
    exact (restores_condition test).bind fun _ => bodyKept.bind fun _ => restores_pure _
  | .switch value cases, _ => by
    rw [Stmt.check]
    refine (restores_ofNames _).bind fun _ => ?_
    exact (Case.restores_checkAll _ cases).bind fun _ => restores_pure _
  | .returns value, _ => by
    rw [Stmt.check]
    refine restores_get.bind fun checker => ?_
    cases checker.body with
    | none => exact restores_throw _
    | some body =>
      refine (restores_ofNames _).bind fun _ => (restores_ofNames _).bind fun _ => ?_
      exact restores_countReturn.bind fun _ => restores_pure _

theorem Stmt.restoresOuter_checkAll : (statements : List Stmt) →
    RestoresOuter (Stmt.checkAll statements)
  | [] => (restores_pure _).outer
  | first :: rest => by
    have firstKept := Stmt.restoresOuter_check (Stmt.restores_check first)
    rw [Stmt.checkAll]
    exact firstKept.bind fun _ =>
      (Stmt.restoresOuter_checkAll rest).bind fun _ => (restores_pure _).outer

theorem Case.restores_checkAll (type : Ty) : (cases : List Case) →
    Restores (Case.checkAll type cases)
  | [] => restores_pure _
  | .matching value body :: rest => by
    have bodyKept := restores_inScope (Stmt.restoresOuter_checkAll body)
    rw [Case.checkAll]
    refine (restores_ofNames _).bind fun _ => ?_
    exact (bodyKept.bind fun _ =>
      (Case.restores_checkAll type rest).bind fun _ => restores_pure _).guard
  | .otherwise body :: rest => by
    have bodyKept := restores_inScope (Stmt.restoresOuter_checkAll body)
    rw [Case.checkAll]
    exact (bodyKept.bind fun _ =>
      (Case.restores_checkAll type rest).bind fun _ => restores_pure _).guard

end

end Primer
