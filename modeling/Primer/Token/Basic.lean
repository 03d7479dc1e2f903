import Primer.Text.Offset
import Primer.Tree.Operator

/-!
Tokens. A token keeps its source text, so literals still carry their quotes and escapes; reserved
words are identifiers that are told apart by their text.
-/

set_option autoImplicit false

namespace Primer

inductive Token.Kind where
  | identifier
  | integer
  | decimal
  | character
  | string
  | operator
  deriving Repr, DecidableEq

def Token.Kind.name : Token.Kind → String
  | identifier => "Identifier"
  | integer => "Integer"
  | decimal => "Decimal"
  | character => "Character"
  | string => "String"
  | operator => "Operator"

structure Token where
  kind : Token.Kind
  value : String
  start : Text.Offset
  stop : Text.Offset
  deriving Repr, DecidableEq

namespace Token

def reservedWords : List String :=
  ["val", "var", "fun", "let", "if", "do", "else", "end", "while", "return", "switch", "case",
   "default", "nil", "true", "false"]

def isReserved (token : Token) : Bool :=
  token.kind == .identifier && reservedWords.contains token.value

def isName (token : Token) : Bool :=
  token.kind == .identifier && !token.isReserved

/-- Whether an operand can end here. A minus sign that follows is then a subtraction and not the
sign of a number. -/
def endsOperand (token : Token) : Bool :=
  match token.kind with
  | .identifier => !token.isReserved || ["nil", "true", "false"].contains token.value
  | .integer | .decimal | .character | .string => true
  | .operator => token.value == ")" || token.value == "]"

def operator? (token : Token) : Option Operator :=
  if token.kind = .operator then Operator.ofSymbol? token.value else none

end Token

end Primer
