import Primer.Tree.Stmt

/-!
Programs: global variables followed by functions.
-/

set_option autoImplicit false

namespace Primer

structure Global where
  name : String
  typeName : Option String
  mutable : Bool
  value : Option Expr
  binding : Option Variable

structure Function where
  name : String
  parameters : List String
  parameterTypes : List String
  returnTypeName : Option String
  body : List Stmt
  binding : Option Signature

def Function.arity (function : Function) : Nat :=
  function.parameters.length

def Function.isMain (function : Function) : Bool :=
  function.name == "main" && function.arity == 0

structure Program where
  globals : List Global
  functions : List Function

end Primer
