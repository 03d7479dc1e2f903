import Primer.Tree.Program

/-! Properties of all nodes of a tree, at every depth.

One predicate is asked of the expressions and another of the statements.
-/

set_option autoImplicit false

namespace Primer

def Stmt.isDeclaration : Stmt → Bool
  | .declaration .. => true
  | _ => false

def Stmt.declared? : Stmt → Option String
  | .declaration name .. => some name
  | _ => none

theorem Stmt.declared?_eq_none {statement : Stmt} (other : statement.isDeclaration = false) :
    statement.declared? = none := by
  cases statement with
  | declaration => cases other
  | _ => rfl

mutual

def Expr.Every (onExpr : Expr → Prop) : Expr → Prop
  | .literal value type => onExpr (.literal value type)
  | .group inner type => onExpr (.group inner type) ∧ inner.Every onExpr
  | .binary operator left right type =>
    onExpr (.binary operator left right type) ∧ left.Every onExpr ∧ right.Every onExpr
  | .named name binding type => onExpr (.named name binding type)
  | .element name index binding type =>
    onExpr (.element name index binding type) ∧ index.Every onExpr
  | .call name arguments binding type =>
    onExpr (.call name arguments binding type) ∧ Expr.EveryIn onExpr arguments
  | .list elements elementType type =>
    onExpr (.list elements elementType type) ∧ Expr.EveryIn onExpr elements

def Expr.EveryIn (onExpr : Expr → Prop) : List Expr → Prop
  | [] => True
  | first :: rest => first.Every onExpr ∧ Expr.EveryIn onExpr rest

end

mutual

def Stmt.Every (onExpr : Expr → Prop) (onStmt : Stmt → Prop) : Stmt → Prop
  | .expression value => onStmt (.expression value) ∧ value.Every onExpr
  | .declaration name typeName value binding =>
    onStmt (.declaration name typeName value binding) ∧
      ∀ given, value = some given → given.Every onExpr
  | .assignment receiver value =>
    onStmt (.assignment receiver value) ∧ receiver.Every onExpr ∧ value.Every onExpr
  | .conditional condition thenBody elseBody =>
    onStmt (.conditional condition thenBody elseBody) ∧ condition.Every onExpr ∧
      Stmt.EveryIn onExpr onStmt thenBody ∧ Stmt.EveryIn onExpr onStmt elseBody
  | .loop condition body =>
    onStmt (.loop condition body) ∧ condition.Every onExpr ∧ Stmt.EveryIn onExpr onStmt body
  | .switch value cases =>
    onStmt (.switch value cases) ∧ value.Every onExpr ∧ Case.EveryIn onExpr onStmt cases
  | .returns value => onStmt (.returns value) ∧ value.Every onExpr

def Stmt.EveryIn (onExpr : Expr → Prop) (onStmt : Stmt → Prop) : List Stmt → Prop
  | [] => True
  | first :: rest => first.Every onExpr onStmt ∧ Stmt.EveryIn onExpr onStmt rest

def Case.EveryIn (onExpr : Expr → Prop) (onStmt : Stmt → Prop) : List Case → Prop
  | [] => True
  | .matching value body :: cases =>
    value.Every onExpr ∧ Stmt.EveryIn onExpr onStmt body ∧ Case.EveryIn onExpr onStmt cases
  | .otherwise body :: cases =>
    Stmt.EveryIn onExpr onStmt body ∧ Case.EveryIn onExpr onStmt cases

end

structure Program.Every (onExpr : Expr → Prop) (onStmt : Stmt → Prop) (program : Program) :
    Prop where
  globals : ∀ global ∈ program.globals, ∀ value, global.value = some value → value.Every onExpr
  functions : ∀ function ∈ program.functions, Stmt.EveryIn onExpr onStmt function.body

theorem Expr.everyIn_of_forall {onExpr : Expr → Prop} {exprs : List Expr}
    (all : ∀ expr ∈ exprs, expr.Every onExpr) : Expr.EveryIn onExpr exprs := by
  induction exprs with
  | nil => trivial
  | cons first rest ih =>
    exact ⟨all first List.mem_cons_self,
      ih fun expr member => all expr (List.mem_cons_of_mem _ member)⟩

theorem Stmt.everyIn_of_forall {onExpr : Expr → Prop} {onStmt : Stmt → Prop}
    {statements : List Stmt} (all : ∀ statement ∈ statements, statement.Every onExpr onStmt) :
    Stmt.EveryIn onExpr onStmt statements := by
  induction statements with
  | nil => trivial
  | cons first rest ih =>
    exact ⟨all first List.mem_cons_self,
      ih fun statement member => all statement (List.mem_cons_of_mem _ member)⟩

mutual

theorem Expr.every_true : (expr : Expr) → expr.Every fun _ => True
  | .literal _ _ | .named _ _ _ => trivial
  | .group inner _ => ⟨trivial, inner.every_true⟩
  | .binary _ left right _ => ⟨trivial, left.every_true, right.every_true⟩
  | .element _ index _ _ => ⟨trivial, index.every_true⟩
  | .call _ arguments _ _ => ⟨trivial, Expr.everyIn_true arguments⟩
  | .list elements _ _ => ⟨trivial, Expr.everyIn_true elements⟩

theorem Expr.everyIn_true : (exprs : List Expr) → Expr.EveryIn (fun _ => True) exprs
  | [] => trivial
  | first :: rest => ⟨first.every_true, Expr.everyIn_true rest⟩

end

mutual

theorem Stmt.every_true : (statement : Stmt) → statement.Every (fun _ => True) fun _ => True
  | .expression value | .returns value => ⟨trivial, value.every_true⟩
  | .declaration _ _ _ _ => ⟨trivial, fun given _ => given.every_true⟩
  | .assignment receiver value => ⟨trivial, receiver.every_true, value.every_true⟩
  | .conditional condition thenBody elseBody =>
    ⟨trivial, condition.every_true, Stmt.everyIn_true thenBody, Stmt.everyIn_true elseBody⟩
  | .loop condition body => ⟨trivial, condition.every_true, Stmt.everyIn_true body⟩
  | .switch value cases => ⟨trivial, value.every_true, Case.everyIn_true cases⟩

theorem Stmt.everyIn_true :
    (statements : List Stmt) → Stmt.EveryIn (fun _ => True) (fun _ => True) statements
  | [] => trivial
  | first :: rest => ⟨first.every_true, Stmt.everyIn_true rest⟩

theorem Case.everyIn_true :
    (cases : List Case) → Case.EveryIn (fun _ => True) (fun _ => True) cases
  | [] => trivial
  | .matching value body :: rest =>
    ⟨value.every_true, Stmt.everyIn_true body, Case.everyIn_true rest⟩
  | .otherwise body :: rest => ⟨Stmt.everyIn_true body, Case.everyIn_true rest⟩

end

section monotonicity

variable {onExpr onExpr' : Expr → Prop} {onStmt onStmt' : Stmt → Prop}

mutual

theorem Expr.Every.mono (inclusion : ∀ expr, onExpr expr → onExpr' expr) :
    (expr : Expr) → expr.Every onExpr → expr.Every onExpr'
  | .literal _ _, every => inclusion _ every
  | .group _ _, ⟨head, inner⟩ => ⟨inclusion _ head, inner.mono inclusion⟩
  | .binary _ _ _ _, ⟨head, left, right⟩ =>
    ⟨inclusion _ head, left.mono inclusion, right.mono inclusion⟩
  | .named _ _ _, every => inclusion _ every
  | .element _ _ _ _, ⟨head, index⟩ => ⟨inclusion _ head, index.mono inclusion⟩
  | .call _ arguments _ _, ⟨head, rest⟩ =>
    ⟨inclusion _ head, Expr.EveryIn.mono inclusion arguments rest⟩
  | .list elements _ _, ⟨head, rest⟩ =>
    ⟨inclusion _ head, Expr.EveryIn.mono inclusion elements rest⟩

theorem Expr.EveryIn.mono (inclusion : ∀ expr, onExpr expr → onExpr' expr) :
    (exprs : List Expr) → Expr.EveryIn onExpr exprs → Expr.EveryIn onExpr' exprs
  | [], _ => trivial
  | _ :: rest, ⟨first, others⟩ => ⟨first.mono inclusion, Expr.EveryIn.mono inclusion rest others⟩

end

mutual

theorem Stmt.Every.mono (onExprs : ∀ expr, onExpr expr → onExpr' expr)
    (onStmts : ∀ statement, onStmt statement → onStmt' statement) :
    (statement : Stmt) → statement.Every onExpr onStmt → statement.Every onExpr' onStmt'
  | .expression _, ⟨head, value⟩ => ⟨onStmts _ head, value.mono onExprs⟩
  | .declaration _ _ _ _, ⟨head, value⟩ =>
    ⟨onStmts _ head, fun given isGiven => (value given isGiven).mono onExprs⟩
  | .assignment _ _, ⟨head, receiver, value⟩ =>
    ⟨onStmts _ head, receiver.mono onExprs, value.mono onExprs⟩
  | .conditional _ thenBody elseBody, ⟨head, condition, first, second⟩ =>
    ⟨onStmts _ head, condition.mono onExprs, Stmt.EveryIn.mono onExprs onStmts thenBody first,
      Stmt.EveryIn.mono onExprs onStmts elseBody second⟩
  | .loop _ body, ⟨head, condition, inner⟩ =>
    ⟨onStmts _ head, condition.mono onExprs, Stmt.EveryIn.mono onExprs onStmts body inner⟩
  | .switch _ cases, ⟨head, value, inner⟩ =>
    ⟨onStmts _ head, value.mono onExprs, Case.EveryIn.mono onExprs onStmts cases inner⟩
  | .returns _, ⟨head, value⟩ => ⟨onStmts _ head, value.mono onExprs⟩

theorem Stmt.EveryIn.mono (onExprs : ∀ expr, onExpr expr → onExpr' expr)
    (onStmts : ∀ statement, onStmt statement → onStmt' statement) :
    (statements : List Stmt) → Stmt.EveryIn onExpr onStmt statements →
    Stmt.EveryIn onExpr' onStmt' statements
  | [], _ => trivial
  | _ :: rest, ⟨first, others⟩ =>
    ⟨first.mono onExprs onStmts, Stmt.EveryIn.mono onExprs onStmts rest others⟩

theorem Case.EveryIn.mono (onExprs : ∀ expr, onExpr expr → onExpr' expr)
    (onStmts : ∀ statement, onStmt statement → onStmt' statement) :
    (cases : List Case) → Case.EveryIn onExpr onStmt cases → Case.EveryIn onExpr' onStmt' cases
  | [], _ => trivial
  | .matching _ body :: rest, ⟨value, inner, others⟩ =>
    ⟨value.mono onExprs, Stmt.EveryIn.mono onExprs onStmts body inner,
      Case.EveryIn.mono onExprs onStmts rest others⟩
  | .otherwise body :: rest, ⟨inner, others⟩ =>
    ⟨Stmt.EveryIn.mono onExprs onStmts body inner, Case.EveryIn.mono onExprs onStmts rest others⟩

end

end monotonicity

end Primer
