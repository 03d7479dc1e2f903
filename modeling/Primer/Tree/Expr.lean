import Primer.Decimal.Basic
import Primer.Tree.Operator
import Primer.Tree.Symbol

/-!
Expressions. Every node has room for the type that checking finds, and names have room for what
they stand for; a tree that has not been checked has `none` there.
-/

set_option autoImplicit false

namespace Primer

inductive Literal where
  | nil
  | boolean (value : Bool)
  | integer (value : Int)
  | decimal (value : Decimal)
  | character (value : Char)
  | string (value : String)
  deriving Repr, DecidableEq

def Literal.type : Literal → Ty
  | .nil => .nil
  | .boolean _ => .boolean
  | .integer _ => .integer
  | .decimal _ => .decimal
  | .character _ => .character
  | .string _ => .string

inductive Expr where
  | literal (value : Literal) (type : Option Ty)
  | group (inner : Expr) (type : Option Ty)
  | binary (operator : Operator) (left right : Expr) (type : Option Ty)
  | named (name : String) (binding : Option Variable) (type : Option Ty)
  | element (name : String) (index : Expr) (binding : Option Variable) (type : Option Ty)
  | call (name : String) (arguments : List Expr) (binding : Option Signature) (type : Option Ty)
  | list (elements : List Expr) (elementType : Option Ty) (type : Option Ty)
  deriving Repr, Inhabited

namespace Expr

def type? : Expr → Option Ty
  | literal _ type | group _ type | binary _ _ _ type | named _ _ type | element _ _ _ type
  | call _ _ _ type | list _ _ type => type

def isCall : Expr → Bool
  | call .. => true
  | _ => false

end Expr

end Primer
