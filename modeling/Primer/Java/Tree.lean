import Primer.Tree.Expr

/-!
The part of Java that translations of programs are made of: one class with fields and methods.
-/

set_option autoImplicit false

namespace Primer.Java

inductive TypeName where
  | void
  | single (type : Ty)
  | array (element : Ty)
  deriving Repr, DecidableEq

inductive Expr where
  | literal (value : Literal)
  | parenthesized (inner : Expr)
  | binary (operator : Operator) (left right : Expr)
  /-- A call of `Math.pow`, cast back to an integer. -/
  | power (base exponent : Expr)
  | name (name : String)
  | element (name : String) (index : Expr)
  | call (name : String) (arguments : List Expr)
  | initializer (elements : List Expr)
  deriving Repr, Inhabited

mutual

inductive Stmt where
  | expression (value : Expr)
  | declaration (type : TypeName) (name : String) (value : Option Expr)
  | assignment (receiver value : Expr)
  /-- An empty second body stands for no `else`. -/
  | conditional (condition : Expr) (thenBody elseBody : List Stmt)
  | loop (condition : Expr) (body : List Stmt)
  | switch (value : Expr) (groups : List Group)
  | returns (value : Expr)

inductive Group where
  | labelled (value : Expr) (body : List Stmt)
  | otherwise (body : List Stmt)

end

structure Field where
  fixed : Bool
  type : TypeName
  name : String
  value : Option Expr

structure Method where
  returnType : TypeName
  name : String
  parameters : List (TypeName × String)
  body : List Stmt

/-- The class `Main`, without the entry point that calls its method `main`. -/
structure Main where
  fields : List Field
  methods : List Method

end Primer.Java
