import Primer.Tree.Program

/-! Parts of programs and the places they stand in.

Checking and running walk through the same trees. A place names a part by the tree it belongs to and
by the turns that lead to it, so that what both do to one part can be compared.
-/

set_option autoImplicit false

namespace Primer

inductive Root where
  | global (index : Nat)
  | body (name : String) (arity : Nat)
  deriving DecidableEq

structure Place where
  root : Root
  path : List Nat
  deriving DecidableEq

def Root.place (root : Root) : Place :=
  { root, path := [] }

def Place.turn (place : Place) (index : Nat) : Place :=
  { place with path := index :: place.path }

/-- A piece of a tree that is worked on as a whole. -/
inductive Part (About : Type) where
  | value (expr : Expr)
  | values (exprs : List Expr)
  | target (receiver : Expr)
  | statement (statement : Stmt)
  | statements (statements : List Stmt)
  | cases (about : About) (cases : List Case)

def Part.access? {About : Type} : Part About → Option (String × Option Variable)
  | .value (.named name binding _) | .value (.element name _ binding _)
  | .target (.named name binding _) | .target (.element name _ binding _) => some (name, binding)
  | _ => none

/-- A variable is written under the name that it is read under. -/
theorem Part.access?_target {About : Type} (receiver : Expr) :
    (Part.target receiver : Part About).access? = (Part.value receiver : Part About).access? := by
  cases receiver <;> rfl

/-- What made a variable: a global or a parameter, by its position, or a declaration. -/
inductive Origin where
  | global (index : Nat)
  | parameter (name : String) (arity index : Nat)
  | declaration (place : Place)

end Primer
