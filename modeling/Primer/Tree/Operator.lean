/-!
Binary operators and the levels on which they bind.
-/

set_option autoImplicit false

namespace Primer

inductive Operator where
  | and
  | or
  | less
  | greater
  | equal
  | notEqual
  | add
  | subtract
  | multiply
  | divide
  | power
  deriving Repr, DecidableEq, Inhabited

inductive Level where
  | logical
  | comparison
  | additive
  | multiplicative
  | primary
  deriving Repr, DecidableEq, Inhabited

namespace Level

def next : Level → Level
  | logical => comparison
  | comparison => additive
  | additive => multiplicative
  | multiplicative => primary
  | primary => primary

def rank : Level → Nat
  | logical => 0
  | comparison => 1
  | additive => 2
  | multiplicative => 3
  | primary => 4

end Level

namespace Operator

def all : List Operator :=
  [and, or, less, greater, equal, notEqual, add, subtract, multiply, divide, power]

def symbol : Operator → String
  | and => "&&"
  | or => "||"
  | less => "<"
  | greater => ">"
  | equal => "=="
  | notEqual => "!="
  | add => "+"
  | subtract => "-"
  | multiply => "*"
  | divide => "/"
  | power => "^"

def ofSymbol? (symbol : String) : Option Operator :=
  all.find? fun operator => operator.symbol == symbol

def level : Operator → Level
  | and | or => .logical
  | less | greater | equal | notEqual => .comparison
  | add | subtract => .additive
  | multiply | divide | power => .multiplicative

end Operator

end Primer
