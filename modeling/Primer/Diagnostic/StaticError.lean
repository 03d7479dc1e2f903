import Primer.Text.Quoted
import Primer.Tree.Operator
import Primer.Tree.Ty

/-!
Violations of the static rules.
-/

set_option autoImplicit false

namespace Primer

inductive StaticError where
  | unknownVariable (name : String)
  | unknownFunction (name : String) (arity : Nat)
  | duplicateFunction (name : String) (arity : Nat)
  | unknownType (name : String)
  | typeMismatch (expected received : Ty)
  | badOperands (operator : Operator) (left right : Ty)
  /-- A declaration with neither a type nor a value. -/
  | missingValue (name : String)
  | literalOutOfRange (literal : String)
  | missingMain
  | mainReturnType (received : Ty)
  | missingReturn (function : String) (expected : Ty)
  | returnOutsideFunction
  | emptyThenBranch
  | misplacedDefault
  | badReceiver
  | badExpressionStatement
  | immutable (name : String)
  | notAList (name : String)
  /-- A list used without an index. -/
  | bareList (name : String)
  | misplacedList
  /-- An empty list whose declaration gives no type. -/
  | emptyList (name : String)
  deriving Repr, DecidableEq

namespace StaticError

open Text (quoted)

def name : StaticError → String
  | unknownVariable _ => "VariableNotDeclared"
  | unknownFunction _ _ => "FunctionNotDeclared"
  | duplicateFunction _ _ => "FunctionAlreadyDeclared"
  | unknownType _ => "UnknownType"
  | typeMismatch _ _ => "TypeMatchError"
  | badOperands _ _ _ => "InvalidOperands"
  | missingValue _ => "ExpectedExplicitValue"
  | literalOutOfRange _ => "LiteralOutOfRange"
  | missingMain => "MissingMain"
  | mainReturnType _ => "MainReturnType"
  | missingReturn _ _ => "MissingReturn"
  | returnOutsideFunction => "ReturnOutsideFunction"
  | emptyThenBranch => "EmptyThenBranch"
  | misplacedDefault => "MisplacedDefaultCase"
  | badReceiver => "InvalidAssignmentTarget"
  | badExpressionStatement => "InvalidExpressionStatement"
  | immutable _ => "ImmutableAssignment"
  | notAList _ => "NotAList"
  | bareList _ => "ListRequiresIndex"
  | misplacedList => "MisplacedListLiteral"
  | emptyList _ => "EmptyListLiteral"

def message : StaticError → String
  | unknownVariable name => "variable " ++ quoted name ++ " not declared"
  | unknownFunction name arity =>
    "function " ++ quoted name ++ " with " ++ toString arity ++ " argument(s) not declared"
  | duplicateFunction name arity =>
    "function " ++ quoted name ++ " with " ++ toString arity ++ " argument(s) already declared"
  | unknownType name => "unknown type " ++ name ++ " found"
  | typeMismatch expected received =>
    "types do not match: expected " ++ expected.name ++ ", received " ++ received.name
  | badOperands operator left right =>
    "operator " ++ quoted operator.symbol ++ " cannot be applied to " ++ left.name ++ " and " ++
      right.name
  | missingValue name => "expected explicit value when no type is given for " ++ quoted name
  | literalOutOfRange literal => "literal " ++ literal ++ " is out of range"
  | missingMain => "no `main` function with zero parameters found"
  | mainReturnType received => "`main` must return Integer, received " ++ received.name
  | missingReturn function expected =>
    "function " ++ quoted function ++ " must return a value of type " ++ expected.name
  | returnOutsideFunction => "return statement outside of function"
  | emptyThenBranch => "the then branch of an if statement must not be empty"
  | misplacedDefault => "the default case must be the last case of a switch and appear once"
  | badReceiver => "assignment receiver must be a variable access"
  | badExpressionStatement => "expression statements must be function calls"
  | immutable name => "variable " ++ quoted name ++ " is immutable"
  | notAList name => "variable " ++ quoted name ++ " is not a list and cannot be indexed"
  | bareList name => "list " ++ quoted name ++ " must be indexed"
  | misplacedList => "list literals may only initialise a declaration"
  | emptyList name => "cannot infer the element type of empty list " ++ quoted name

end StaticError

end Primer
