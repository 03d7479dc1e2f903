import Primer.Text.Offset
import Primer.Text.Quoted

/-!
Errors in the form of a source text. Each has a cause and the offset at which it shows.
-/

set_option autoImplicit false

namespace Primer

namespace SyntaxError

inductive Cause where
  /-- A quote that opens no literal. -/
  | unrecognised (token : String)
  | unexpected (token : String)
  | expected (wanted found : String)
  | expectedExpression (found : String)
  | badNumber (token : String)
  | badLiteral (token : String)
  | trailingComma
  /-- An immutable global without a value. -/
  | missingValue (name : String)
  deriving Repr, DecidableEq

open Text (quoted)

namespace Cause

def name : Cause → String
  | unrecognised _ => "UnrecognisedToken"
  | unexpected _ => "UnexpectedToken"
  | expected _ _ => "ExpectedToken"
  | expectedExpression _ => "ExpectedExpression"
  | badNumber _ => "NumberParseError"
  | badLiteral _ => "InvalidLiteral"
  | trailingComma => "TrailingComma"
  | missingValue _ => "ExpectedExplicitValue"

def message : Cause → String
  | unrecognised token => "unrecognised token: " ++ quoted token
  | unexpected token => "unexpected token: " ++ quoted token
  | expected wanted found => "expected " ++ quoted wanted ++ ", found " ++ found
  | expectedExpression found => "expected expression, found " ++ found
  | badNumber token => "error parsing number: " ++ quoted token
  | badLiteral token => "invalid literal: " ++ quoted token
  | trailingComma => "trailing comma"
  | missingValue name => "expected a value for immutable global " ++ quoted name

def tip : Cause → Option String
  | unrecognised _ => none
  | unexpected token =>
    some ("Unexpected token: `" ++ token ++
      "`, only `val`, `var` and `fun` may start a top level item")
  | expected wanted found => some ("Expected `" ++ wanted ++ "`, found " ++ found)
  | expectedExpression found => some ("Expected an expression, found " ++ found)
  | badNumber token => some ("Invalid number: `" ++ token ++ "`")
  | badLiteral token => some ("Invalid literal: `" ++ token ++ "`, check its escape sequences")
  | trailingComma => some "Remove the trailing `,`"
  | missingValue name => some ("Immutable global `" ++ name ++ "` needs an initial value")

end Cause

end SyntaxError

structure SyntaxError where
  cause : SyntaxError.Cause
  position : Text.Offset
  deriving Repr, DecidableEq

def SyntaxError.message (error : SyntaxError) : String :=
  error.cause.message ++ " (at offset " ++ toString error.position.toNat ++ ")"

end Primer
