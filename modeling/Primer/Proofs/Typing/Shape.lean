import Primer.Proofs.Tree.Paths
import Primer.Proofs.Typing.Statement

/-! Checking keeps the shape of statements.

What each statement hands on to the typed one, all statements within hand on.
-/

set_option autoImplicit false

namespace Primer

section shape

variable {onExpr : Expr → Prop} {onStmt onStmt' : Stmt → Prop}

mutual

theorem Stmt.every_of_check
    (preserved : ∀ statement typed before after, Stmt.check statement before = .ok typed after →
      onStmt statement → onStmt' typed)
    {before after : Checker} {typed : Stmt} : (statement : Stmt) →
    statement.check before = .ok typed after → statement.Every onExpr onStmt →
    typed.Every (fun _ => True) onStmt'
  | .expression value, checked, every => by
    have head := preserved _ _ _ _ checked every.1
    obtain ⟨value', _, -, -, rfl, -⟩ := Stmt.check_expression checked
    exact ⟨head, value'.every_true⟩
  | .declaration _ _ _ _, checked, every => by
    have head := preserved _ _ _ _ checked every.1
    obtain ⟨_, _, -, rfl, -⟩ := Stmt.check_declaration checked
    exact ⟨head, fun given _ => given.every_true⟩
  | .assignment _ _, checked, every => by
    have head := preserved _ _ _ _ checked every.1
    obtain ⟨target', _, value', _, -, -, -, rfl, -⟩ := Stmt.check_assignment checked
    exact ⟨head, target'.every_true, value'.every_true⟩
  | .conditional _ thenBody elseBody, checked, every => by
    have head := preserved _ _ _ _ checked every.1
    obtain ⟨test', _, _, _, _, -, -, thenChecked, elseChecked, rfl, -⟩ :=
      Stmt.check_conditional checked
    exact ⟨head, test'.every_true,
      Stmt.everyIn_of_checkAll preserved thenBody thenChecked every.2.2.1,
      Stmt.everyIn_of_checkAll preserved elseBody elseChecked every.2.2.2⟩
  | .loop _ body, checked, every => by
    have head := preserved _ _ _ _ checked every.1
    obtain ⟨test', _, _, -, bodyChecked, rfl, -⟩ := Stmt.check_loop checked
    exact ⟨head, test'.every_true, Stmt.everyIn_of_checkAll preserved body bodyChecked every.2.2⟩
  | .switch _ cases, checked, every => by
    have head := preserved _ _ _ _ checked every.1
    obtain ⟨value', _, _, -, casesChecked, rfl⟩ := Stmt.check_switch checked
    exact ⟨head, value'.every_true, Case.everyIn_of_checkAll preserved cases casesChecked every.2.2⟩
  | .returns _, checked, every => by
    have head := preserved _ _ _ _ checked every.1
    obtain ⟨_, value', _, -, -, -, rfl, -⟩ := Stmt.check_returns checked
    exact ⟨head, value'.every_true⟩

theorem Stmt.everyIn_of_checkAll
    (preserved : ∀ statement typed before after, Stmt.check statement before = .ok typed after →
      onStmt statement → onStmt' typed)
    {before after : Checker} {typed : List Stmt} : (statements : List Stmt) →
    Stmt.checkAll statements before = .ok typed after → Stmt.EveryIn onExpr onStmt statements →
    Stmt.EveryIn (fun _ => True) onStmt' typed
  | [], checked, _ => by
    obtain ⟨rfl, -⟩ := Stmt.checkAll_nil checked
    trivial
  | first :: rest, checked, every => by
    obtain ⟨_, _, _, firstChecked, restChecked, rfl⟩ := Stmt.checkAll_cons checked
    exact ⟨Stmt.every_of_check preserved first firstChecked every.1,
      Stmt.everyIn_of_checkAll preserved rest restChecked every.2⟩

theorem Case.everyIn_of_checkAll
    (preserved : ∀ statement typed before after, Stmt.check statement before = .ok typed after →
      onStmt statement → onStmt' typed)
    {type : Ty} {before after : Checker} {typed : List Case} : (cases : List Case) →
    Case.checkAll type cases before = .ok typed after → Case.EveryIn onExpr onStmt cases →
    Case.EveryIn (fun _ => True) onStmt' typed
  | [], checked, _ => by
    obtain ⟨rfl, -⟩ := Case.checkAll_nil checked
    trivial
  | .matching _ body :: rest, checked, every => by
    obtain ⟨value', _, _, _, -, bodyChecked, restChecked, rfl⟩ := Case.checkAll_matching checked
    exact ⟨value'.every_true, Stmt.everyIn_of_checkAll preserved body bodyChecked every.2.1,
      Case.everyIn_of_checkAll preserved rest restChecked every.2.2⟩
  | .otherwise body :: _, checked, every => by
    obtain ⟨_, _, -, bodyChecked, rfl, -⟩ := Case.checkAll_otherwise checked
    exact ⟨Stmt.everyIn_of_checkAll preserved body bodyChecked every.1, trivial⟩

end

end shape

theorem Case.default_of_checkAll {type : Ty} {cases typed : List Case} {before after : Checker}
    (checked : Case.checkAll type cases before = .ok typed after)
    (complete : ∃ last ∈ cases, last.isDefault) : ∃ last ∈ typed, last.isDefault := by
  induction cases generalizing before typed with
  | nil =>
    obtain ⟨_, member, -⟩ := complete
    cases member
  | cons first rest ih =>
    cases first with
    | matching value body =>
      obtain ⟨_, _, _, _, -, -, restChecked, rfl⟩ := checkAll_matching checked
      obtain ⟨found, inside, isFound⟩ := ih restChecked (default_of_matching complete)
      exact ⟨found, List.mem_cons_of_mem _ inside, isFound⟩
    | otherwise body =>
      obtain ⟨_, _, -, -, rfl, -⟩ := checkAll_otherwise checked
      exact ⟨_, List.mem_singleton.mpr rfl, rfl⟩

theorem Stmt.hasDefault_of_check {statement typed : Stmt} {before after : Checker}
    (checked : statement.check before = .ok typed after) (complete : statement.hasDefault) :
    typed.hasDefault := by
  cases statement with
  | expression value =>
    obtain ⟨_, _, -, -, rfl, -⟩ := check_expression checked
    trivial
  | declaration name typeName value bound =>
    obtain ⟨_, _, -, rfl, -⟩ := check_declaration checked
    trivial
  | assignment target value =>
    obtain ⟨_, _, _, _, -, -, -, rfl, -⟩ := check_assignment checked
    trivial
  | conditional test thenBody elseBody =>
    obtain ⟨_, _, _, _, _, -, -, -, -, rfl, -⟩ := check_conditional checked
    trivial
  | loop test body =>
    obtain ⟨_, _, _, -, -, rfl, -⟩ := check_loop checked
    trivial
  | switch value cases =>
    obtain ⟨_, _, _, -, casesChecked, rfl⟩ := check_switch checked
    exact Case.default_of_checkAll casesChecked complete
  | returns value =>
    obtain ⟨_, _, _, -, -, -, rfl, -⟩ := check_returns checked
    trivial

/-- Every switch in a typed body has a default case if every one in the body has. -/
theorem Stmt.defaults_of_checkAll {statements typed : List Stmt} {before after : Checker}
    (checked : Stmt.checkAll statements before = .ok typed after)
    (defaults : Stmt.EveryIn (fun _ => True) Stmt.hasDefault statements) :
    Stmt.EveryIn (fun _ => True) Stmt.hasDefault typed :=
  Stmt.everyIn_of_checkAll (fun _ _ _ _ step => hasDefault_of_check step) statements checked
    defaults

end Primer
