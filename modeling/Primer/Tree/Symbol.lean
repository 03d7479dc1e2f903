import Primer.Tree.Ty

/-!
What a name stands for: a variable or the signature of a function. Both also carry the name that
emitted code uses for them.
-/

set_option autoImplicit false

namespace Primer

structure Variable where
  name : String
  emittedName : String
  /-- For a list, the type of its elements. -/
  type : Ty
  mutable : Bool
  isList : Bool
  deriving Repr, DecidableEq

structure Signature where
  name : String
  emittedName : String
  parameterTypes : List Ty
  returnType : Ty
  deriving Repr, DecidableEq

namespace Variable

def single (name : String) (type : Ty) (mutable : Bool) : Variable :=
  { name, emittedName := name, type, mutable, isList := false }

def list (name : String) (elementType : Ty) (mutable : Bool) : Variable :=
  { name, emittedName := name, type := elementType, mutable, isList := true }

end Variable

namespace Signature

def declared (name : String) (parameterTypes : List Ty) (returnType : Ty) : Signature :=
  { name, emittedName := name, parameterTypes, returnType }

def print : Signature :=
  { name := "print", emittedName := "System.out.println", parameterTypes := [.any]
    returnType := .nil }

end Signature

end Primer
