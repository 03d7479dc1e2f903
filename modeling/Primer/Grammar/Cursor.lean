import Primer.Diagnostic.SyntaxError
import Primer.Token.Basic

/-!
Reading a list of tokens from left to right. A rule of the grammar is a computation on a cursor;
when it fails it leaves the cursor where it stood.
-/

set_option autoImplicit false

namespace Primer

structure Cursor where
  tokens : Array Token
  position : Nat
  deriving Repr

namespace Cursor

def ofTokens (tokens : List Token) : Cursor :=
  { tokens := tokens.toArray, position := 0 }

def current? (cursor : Cursor) : Option Token :=
  cursor.tokens[cursor.position]?

def remaining (cursor : Cursor) : Nat :=
  cursor.tokens.size - cursor.position

/-- The end of the last consumed token, the start of the source if there is none. -/
def offset (cursor : Cursor) : Text.Offset :=
  match cursor.position with
  | 0 => 0
  | previous + 1 => (cursor.tokens[previous]?.map Token.stop).getD 0

def describe (cursor : Cursor) : String :=
  match cursor.current? with
  | some token => "`" ++ token.value ++ "`"
  | none => "end of input"

def next (cursor : Cursor) : Cursor :=
  { cursor with position := cursor.position + 1 }

def isAt (cursor : Cursor) (text : String) : Bool :=
  cursor.current?.any fun token => token.value == text

end Cursor

abbrev Parse := EStateM SyntaxError Cursor

namespace Parse

open SyntaxError

/-- An error at the end of the last consumed token. -/
def fail {α : Type} (cause : Cause) : Parse α := fun cursor =>
  .error { cause, position := cursor.offset } cursor

def current? : Parse (Option Token) := do
  return (← get).current?

def describe : Parse String := do
  return (← get).describe

/-- Whether the text of the current token is `text`, whatever its kind. -/
def peek (text : String) : Parse Bool := do
  return (← get).isAt text

def expectedExpression {α : Type} : Parse α := do
  fail (.expectedExpression (← describe))

def expected {α : Type} (wanted : String) : Parse α := do
  fail (.expected wanted (← describe))

def advance : Parse Token := do
  match ← current? with
  | some token =>
    modify Cursor.next
    return token
  | none => expectedExpression

def accept (text : String) : Parse Bool := do
  if ← peek text then
    modify Cursor.next
    return true
  else
    return false

def expect (text : String) : Parse Token := do
  if ← peek text then advance else expected text

def identifier : Parse String := do
  match ← current? with
  | some token => if token.isName then return (← advance).value else expected "identifier"
  | none => expected "identifier"

/-- A rule that may contain itself. Inside, it is only available after at least one token, so that
it cannot call itself forever. -/
def nested {α : Type} (rule : Parse α → Parse α) (cursor : Cursor) :
    EStateM.Result SyntaxError Cursor α :=
  rule (fun inner =>
    if inner.remaining < cursor.remaining then nested rule inner else expectedExpression inner)
    cursor
termination_by cursor.remaining

/-- Repeats a step until it has a result. Each repetition must consume a token. -/
def iterate {σ β : Type} (step : σ → Parse (σ ⊕ β)) (state : σ) (cursor : Cursor) :
    EStateM.Result SyntaxError Cursor β :=
  match step state cursor with
  | .ok (.inr result) after => .ok result after
  | .ok (.inl state) after =>
    if after.remaining < cursor.remaining then iterate step state after
    else expectedExpression after
  | .error error after => .error error after
termination_by cursor.remaining

def collect {α : Type} (item? : Parse (Option α)) : Parse (List α) :=
  iterate (fun items => do
    match ← item? with
    | some item => return .inl (item :: items)
    | none => return .inr items.reverse) []

/-- Items between commas, up to and with the closing token; the opening one is already consumed. -/
def separated {α : Type} (item : Parse α) (close : String) : Parse (List α) := do
  if ← accept close then return []
  iterate (fun items => do
    let items := (← item) :: items
    if ← accept "," then
      if ← peek close then fail .trailingComma
      return .inl items
    discard (expect close)
    return .inr items.reverse) []

end Parse

end Primer
