import Primer.Diagnostic.Basic
import Primer.Text.Blank
import Primer.Text.Line

/-!
Reports: a diagnostic as it is shown to the author of a program, with the line it concerns and a
caret under its place.
-/

set_option autoImplicit false

namespace Primer

structure Document where
  name : String
  text : String
  deriving Repr, DecidableEq

namespace Diagnostic

def headline (diagnostic : Diagnostic) : String :=
  match diagnostic.tip with
  | none => "Error: " ++ diagnostic.name ++ "\n"
  | some tip => "Error: " ++ diagnostic.name ++ " (" ++ tip ++ ")\n"

def bar (number : Nat) : String :=
  "".pushn ' ' ((toString number).length + 1) ++ "|"

def excerpt (name : String) (place : Text.Place) : String :=
  let indentation := (place.line.takeWhile (· == ' ')).length
  let line := String.ofList (Text.trimEnd (place.line.drop indentation))
  "-> " ++ name ++ "\n" ++
  bar place.number ++ "\n" ++
  toString place.number ++ " | " ++ line ++ "\n" ++
  bar place.number ++ " " ++ "".pushn '-' (place.column - indentation) ++ "^\n"

/-- The headline, and the excerpt if the diagnostic has a place within the document. -/
def report (diagnostic : Diagnostic) (document : Document) : String :=
  let place := diagnostic.position?.bind fun offset =>
    Text.place? document.text.toList offset.toNat
  diagnostic.headline ++ (place.map (excerpt document.name)).getD ""

end Diagnostic

end Primer
