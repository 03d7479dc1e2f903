import Primer.Text.Quoted
import Primer.Tree.Operator

/-!
Errors that stop a run.
-/

set_option autoImplicit false

namespace Primer

inductive RunError where
  | unknownVariable (name : String)
  | unknownFunction (name : String) (arity : Nat)
  | badOperands (operator : Operator) (left right : String)
  | unexpectedKind (expected received : String)
  | indexOutOfRange (index : Int) (length : Nat)
  | notASequence (name : String)
  | negativeExponent (exponent : Int)
  | exponentTooLarge (exponent : Int)
  | divisionByZero
  | badReceiver
  | argumentCount (function : String) (expected received : Nat)
  | exitCodeOutOfRange (value : Int)
  | output (reason : String)
  deriving Repr, DecidableEq

namespace RunError

open Text (quoted)

def name : RunError → String
  | unknownVariable _ => "VariableNotDeclared"
  | unknownFunction _ _ => "FunctionNotDeclared"
  | badOperands _ _ _ => "InvalidOperands"
  | unexpectedKind _ _ => "UnexpectedValue"
  | indexOutOfRange _ _ => "IndexOutOfRange"
  | notASequence _ => "NotASequence"
  | negativeExponent _ => "NegativeExponent"
  | exponentTooLarge _ => "ExponentTooLarge"
  | divisionByZero => "DivisionByZero"
  | badReceiver => "InvalidAssignmentTarget"
  | argumentCount _ _ _ => "ArgumentCountMismatch"
  | exitCodeOutOfRange _ => "ExitCodeOutOfRange"
  | output _ => "Output"

def message : RunError → String
  | unknownVariable name => "variable " ++ quoted name ++ " not declared"
  | unknownFunction name arity =>
    "function " ++ quoted name ++ " with " ++ toString arity ++ " argument(s) not declared"
  | badOperands operator left right =>
    "operator " ++ quoted operator.symbol ++ " cannot be applied to " ++ left ++ " and " ++ right
  | unexpectedKind expected received => "expected " ++ expected ++ ", received " ++ received
  | indexOutOfRange index length =>
    "index " ++ toString index ++ " out of range for length " ++ toString length
  | notASequence name => "variable " ++ quoted name ++ " does not hold a list"
  | negativeExponent exponent => "negative exponent " ++ toString exponent
  | exponentTooLarge exponent => "exponent " ++ toString exponent ++ " is too large"
  | divisionByZero => "division by zero"
  | badReceiver => "assignment receiver must be a variable access"
  | argumentCount function expected received =>
    "function " ++ quoted function ++ " expected " ++ toString expected ++
      " argument(s), received " ++ toString received
  | exitCodeOutOfRange value =>
    "exit value " ++ toString value ++ " does not fit a 32-bit status"
  | output reason => "failed to write output: " ++ reason

end RunError

end Primer
