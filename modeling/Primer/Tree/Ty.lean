/-!
Types of the language: six kinds of data and two wildcards, `Any` and `Comparable`, that only a
declaration or a parameter can have.
-/

set_option autoImplicit false

namespace Primer

inductive Ty where
  | nil
  | boolean
  | integer
  | decimal
  | character
  | string
  | any
  | comparable
  deriving Repr, DecidableEq, Inhabited

namespace Ty

def all : List Ty :=
  [nil, boolean, integer, decimal, character, string, any, comparable]

def name : Ty → String
  | nil => "Nil"
  | boolean => "Boolean"
  | integer => "Integer"
  | decimal => "Decimal"
  | character => "Character"
  | string => "String"
  | any => "Any"
  | comparable => "Comparable"

def ofName? (name : String) : Option Ty :=
  all.find? fun type => type.name == name

@[simp] theorem ofName?_name (type : Ty) : ofName? type.name = some type := by
  cases type <;> decide

def isComparable : Ty → Bool
  | integer | decimal | character | string => true
  | _ => false

def accepts (target actual : Ty) : Bool :=
  target == any || target == actual || (target == comparable && actual.isComparable)

end Ty

end Primer
