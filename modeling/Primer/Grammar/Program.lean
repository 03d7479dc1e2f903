import Primer.Grammar.Statement
import Primer.Token.Scan
import Primer.Tree.Program

/-!
The grammar of programs: globals, then functions.
-/

set_option autoImplicit false

namespace Primer

namespace Parse

def global : Parse Global := do
  let mutable ← accept "var"
  if !mutable then discard (expect "val")
  let name ← identifier
  let typeName ← typeAnnotation
  let value ← initializer
  if !mutable && value.isNone then fail (.missingValue name)
  discard (expect ";")
  return { name, typeName, mutable, value, binding := none }

def parameter : Parse (String × String) := do
  let name ← identifier
  discard (expect ":")
  return (name, ← identifier)

def function : Parse Function := do
  discard (expect "fun")
  let name ← identifier
  discard (expect "(")
  let parameters ← separated parameter ")"
  let returnTypeName ← typeAnnotation
  discard (expect "do")
  let body ← block statement ["end"]
  discard (expect "end")
  return {
    name
    parameters := parameters.map Prod.fst
    parameterTypes := parameters.map Prod.snd
    returnTypeName, body
    binding := none }

def global? : Parse (Option Global) := do
  if (← peek "val") || (← peek "var") then return some (← global)
  return none

def function? : Parse (Option Function) := do
  if ← peek "fun" then return some (← function)
  return none

def program : Parse Program := do
  let globals ← collect global?
  let functions ← collect function?
  match ← current? with
  | none => return { globals, functions }
  | some token => throw { cause := .unexpected token.value, position := token.start }

end Parse

def Program.ofTokens (tokens : List Token) : Except SyntaxError Program :=
  match Parse.program (Cursor.ofTokens tokens) with
  | .ok program _ => .ok program
  | .error error _ => .error error

def Program.ofSource (source : String) : Except SyntaxError Program :=
  Token.scan source >>= Program.ofTokens

end Primer
