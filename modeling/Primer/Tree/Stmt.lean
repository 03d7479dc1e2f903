import Primer.Tree.Expr

/-!
Statements.
-/

set_option autoImplicit false

namespace Primer

mutual

inductive Stmt where
  | expression (value : Expr)
  | declaration (name : String) (typeName : Option String) (value : Option Expr)
      (binding : Option Variable)
  | assignment (receiver value : Expr)
  | conditional (condition : Expr) (thenBody elseBody : List Stmt)
  | loop (condition : Expr) (body : List Stmt)
  | switch (condition : Expr) (cases : List Case)
  | returns (value : Expr)

inductive Case where
  | matching (value : Expr) (body : List Stmt)
  | otherwise (body : List Stmt)

end

def Case.body : Case → List Stmt
  | .matching _ body | .otherwise body => body

end Primer
