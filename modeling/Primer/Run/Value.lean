import Primer.Decimal.Text
import Primer.Tree.Expr

/-!
Values of a run: what a literal can be, and sequences.
-/

set_option autoImplicit false

namespace Primer

inductive Value where
  | nil
  | boolean (value : Bool)
  | integer (value : Int)
  | decimal (value : Decimal)
  | character (value : Char)
  | string (value : String)
  | sequence (items : List Value)
  deriving Repr, Inhabited

namespace Value

def ofLiteral : Literal → Value
  | .nil => nil
  | .boolean value => boolean value
  | .integer value => integer value
  | .decimal value => decimal value
  | .character value => character value
  | .string value => string value

def kind : Value → String
  | nil => "Nil"
  | boolean _ => "Boolean"
  | integer _ => "Integer"
  | decimal _ => "Decimal"
  | character _ => "Character"
  | string _ => "String"
  | sequence _ => "Sequence"

mutual

def text : Value → String
  | nil => "nil"
  | boolean value => if value then "true" else "false"
  | integer value => toString value
  | decimal value => value.text
  | character value => value.toString
  | string value => value
  | sequence items => "[" ++ ", ".intercalate (texts items) ++ "]"

def texts : List Value → List String
  | [] => []
  | item :: items => item.text :: texts items

end

mutual

/-- Equality of values. Decimals are compared as numbers, at any depth. -/
def equal : Value → Value → Bool
  | nil, nil => true
  | boolean a, boolean b => a == b
  | integer a, integer b => a == b
  | decimal a, decimal b => a.equal b
  | character a, character b => a == b
  | string a, string b => a == b
  | sequence a, sequence b => equalAll a b
  | _, _ => false

def equalAll : List Value → List Value → Bool
  | [], [] => true
  | a :: as, b :: bs => a.equal b && equalAll as bs
  | _, _ => false

end

def order? : Value → Value → Option Ordering
  | integer a, integer b => some (compare a b)
  | decimal a, decimal b => some (a.order b)
  | character a, character b => some (compare a b)
  | string a, string b => some (compare a b)
  | _, _ => none

end Value

end Primer
