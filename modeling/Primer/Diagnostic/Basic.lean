import Primer.Diagnostic.RunError
import Primer.Diagnostic.StaticError
import Primer.Diagnostic.SyntaxError

/-!
What can be wrong with a program. The first thing found wrong ends the work on it.
-/

set_option autoImplicit false

namespace Primer

inductive Diagnostic where
  | malformed (error : SyntaxError)
  | illTyped (error : StaticError)
  | failed (error : RunError)
  deriving Repr, DecidableEq

namespace Diagnostic

def sentence (message : String) : String :=
  match message.toList with
  | [] => ""
  | first :: rest => String.ofList (first.toUpper :: rest)

def name : Diagnostic → String
  | malformed error => error.cause.name
  | illTyped error => error.name
  | failed error => error.name

def message : Diagnostic → String
  | malformed error => error.message
  | illTyped error => error.message
  | failed error => error.message

def tip : Diagnostic → Option String
  | malformed error => error.cause.tip
  | illTyped error => some (sentence error.message)
  | failed error => some (sentence error.message)

/-- Only a malformed text is wrong at a place. -/
def position? : Diagnostic → Option Text.Offset
  | malformed error => some error.position
  | illTyped _ | failed _ => none

end Diagnostic

end Primer
