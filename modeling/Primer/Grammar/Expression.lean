import Primer.Decimal.Text
import Primer.Grammar.Cursor
import Primer.Text.Escape
import Primer.Tree.Expr

/-!
The grammar of expressions. Operators of one level are read from left to right, and their operands
are expressions of the next tighter level.
-/

set_option autoImplicit false

namespace Primer

namespace Literal

def unquote? (quote : Char) (text : List Char) : Option (List Char) :=
  match text with
  | [] => none
  | first :: rest =>
    if first = quote ∧ rest.getLast? = some quote then Text.unescape? rest.dropLast else none

def character? (text : List Char) : Option Literal :=
  match unquote? '\'' text with
  | some [c] => some (character c)
  | _ => none

def string? (text : List Char) : Option Literal :=
  (unquote? '"' text).map fun inside => string (String.ofList inside)

def integer? (text : List Char) : Option Literal :=
  (Number.integer? text).map integer

def decimal? (text : List Char) : Option Literal :=
  (Decimal.ofText? text).map decimal

end Literal

namespace Parse

/-- A literal of one token. An error in it shows behind the token. -/
def literal (value? : List Char → Option Literal) (error : String → SyntaxError.Cause) :
    Parse Expr := do
  let token ← advance
  match value? token.value.toList with
  | some value => return .literal value none
  | none => fail (error token.value)

def word (expression : Parse Expr) : Parse Expr := do
  if ← accept "nil" then return .literal .nil none
  if ← accept "true" then return .literal (.boolean true) none
  if ← accept "false" then return .literal (.boolean false) none
  if (← current?).any Token.isReserved then expectedExpression
  let name ← identifier
  if ← accept "(" then
    return .call name (← separated expression ")") none none
  if ← accept "[" then
    let index ← expression
    discard (expect "]")
    return .element name index none none
  return .named name none none

def group (expression : Parse Expr) : Parse Expr := do
  discard (expect "(")
  let inner ← expression
  discard (expect ")")
  return .group inner none

def list (expression : Parse Expr) : Parse Expr := do
  discard (expect "[")
  return .list (← separated expression "]") none none

def primary (expression : Parse Expr) : Parse Expr := do
  match (← current?).map Token.kind with
  | none => expectedExpression
  | some .identifier => word expression
  | some .integer => literal Literal.integer? .badNumber
  | some .decimal => literal Literal.decimal? .badNumber
  | some .character => literal Literal.character? .badLiteral
  | some .string => literal Literal.string? .badLiteral
  | some .operator =>
    if ← peek "(" then group expression
    else if ← peek "[" then list expression
    else expectedExpression

def operator? (level : Level) : Parse (Option Operator) := do
  match (← current?).bind Token.operator? with
  | some operator =>
    if operator.level = level then
      discard advance
      return some operator
    else
      return none
  | none => return none

def joined (level : Level) (operand : Parse Expr) : Parse Expr := do
  let first ← operand
  iterate (fun left => do
    match ← operator? level with
    | some operator => return .inl (.binary operator left (← operand) none)
    | none => return .inr left) first

def expression : Parse Expr :=
  nested fun expression =>
    joined .logical (joined .comparison (joined .additive (joined .multiplicative
      (primary expression))))

end Parse

end Primer
