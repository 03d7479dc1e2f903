import Primer.Grammar.Expression
import Primer.Tree.Stmt

/-!
The grammar of statements. A block has no closing token of its own: it ends before a token that
the statement around it goes on with.
-/

set_option autoImplicit false

namespace Primer.Parse

/-- Statements up to the first token among `ends`, which is left where it is. -/
def block (statement : Parse Stmt) (ends : List String) : Parse (List Stmt) :=
  collect do
    let cursor ← get
    if ends.any cursor.isAt then return none
    if cursor.current?.isNone then expected (ends.getLast?.getD "end")
    return some (← statement)

def typeAnnotation : Parse (Option String) := do
  if ← accept ":" then return some (← identifier)
  return none

def initializer : Parse (Option Expr) := do
  if ← accept "=" then return some (← expression)
  return none

def declaration : Parse Stmt := do
  discard (expect "let")
  let name ← identifier
  let typeName ← typeAnnotation
  let value ← initializer
  discard (expect ";")
  return .declaration name typeName value none

def conditional (statement : Parse Stmt) : Parse Stmt := do
  discard (expect "if")
  let condition ← expression
  discard (expect "do")
  let thenBody ← block statement ["else", "end"]
  let elseBody ← if ← accept "else" then block statement ["end"] else pure []
  discard (expect "end")
  return .conditional condition thenBody elseBody

def loop (statement : Parse Stmt) : Parse Stmt := do
  discard (expect "while")
  let condition ← expression
  discard (expect "do")
  let body ← block statement ["end"]
  discard (expect "end")
  return .loop condition body

def matchingCase? (statement : Parse Stmt) : Parse (Option Case) := do
  if ← accept "case" then
    let value ← expression
    discard (expect ":")
    return some (.matching value (← block statement ["case", "default", "end"]))
  return none

/-- A switch always has a default case, and it is the last one. -/
def switch (statement : Parse Stmt) : Parse Stmt := do
  discard (expect "switch")
  let condition ← expression
  let cases ← collect (matchingCase? statement)
  discard (expect "default")
  discard (expect ":")
  let body ← block statement ["end"]
  discard (expect "end")
  return .switch condition (cases ++ [.otherwise body])

def returns : Parse Stmt := do
  discard (expect "return")
  let value ← expression
  discard (expect ";")
  return .returns value

def simple : Parse Stmt := do
  let receiver ← expression
  if ← accept "=" then
    let value ← expression
    discard (expect ";")
    return .assignment receiver value
  discard (expect ";")
  return .expression receiver

def statement : Parse Stmt :=
  nested fun statement => do
    if ← peek "let" then declaration
    else if ← peek "if" then conditional statement
    else if ← peek "while" then loop statement
    else if ← peek "switch" then switch statement
    else if ← peek "return" then returns
    else simple

end Primer.Parse
