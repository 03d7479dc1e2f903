import Primer.Grammar.Program

/-! The loops and the recursions of the grammar, and the rules that have two parts.

A rule contains itself by way of `nested` and repeats a step by way of `iterate`. Both see to it
that tokens are consumed, and both come with an induction that follows them. Here what they repeat
gets a name, and both get a form that sees to nothing: it goes on up to a budget and does anything
whatever when the budget is used up.
-/

set_option autoImplicit false

namespace Primer.Parse

variable {α β σ : Type}

/-! ### Rules that contain themselves -/

/-- What a rule that gives up has, and a rule has that contains one with it, the rule that contains
itself has. -/
theorem nested_induction {rule : Parse α → Parse α}
    {motive : Cursor → EStateM.Result SyntaxError Cursor α → Prop}
    (refused : ∀ cursor, motive cursor (expectedExpression cursor))
    (step : ∀ inner : Parse α, (∀ cursor, motive cursor (inner cursor)) →
      ∀ cursor, motive cursor (rule inner cursor)) (cursor : Cursor) :
    motive cursor (nested rule cursor) := by
  induction left : cursor.remaining using Nat.strongRecOn generalizing cursor with
  | _ count ih =>
    rw [nested]
    refine step _ (fun inner => ?_) cursor
    -- The rule inside runs only where fewer tokens are left.
    by_cases less : inner.remaining < cursor.remaining
    · simp only [less, if_true]
      exact ih inner.remaining (left ▸ less) inner rfl
    · simp only [less, if_false]
      exact refused inner

def levels (inner : Parse Expr) : Parse Expr :=
  joined .logical (joined .comparison (joined .additive (joined .multiplicative (primary inner))))

theorem expression_eq : expression = nested levels := rfl

def form (inner : Parse Stmt) : Parse Stmt := do
  if ← peek "let" then declaration
  else if ← peek "if" then conditional inner
  else if ← peek "while" then loop inner
  else if ← peek "switch" then switch inner
  else if ← peek "return" then returns
  else simple

theorem statement_eq : statement = nested form := rfl

/-- The rule, containing itself up to so many times. -/
def nestedUpTo (bottom : Parse α) (rule : Parse α → Parse α) : Nat → Parse α
  | 0 => bottom
  | budget + 1 => rule (nestedUpTo bottom rule budget)

/-! ### Steps that are repeated -/

/-- What holds of a repetition from a state on, by the outcome of its first step. That a step has
consumed nothing is one of the ways in which a repetition gives up. -/
theorem iterate_induction {step : σ → Parse (σ ⊕ β)}
    {motive : σ → Cursor → EStateM.Result SyntaxError Cursor β → Prop}
    (refused : ∀ state cursor, motive state cursor (expectedExpression cursor))
    (failed : ∀ state cursor error after, step state cursor = .error error after →
      motive state cursor (.error error after))
    (ended : ∀ state cursor result after, step state cursor = .ok (.inr result) after →
      motive state cursor (.ok result after))
    (again : ∀ state cursor later middle outcome, step state cursor = .ok (.inl later) middle →
      motive later middle outcome → motive state cursor outcome)
    (state : σ) (cursor : Cursor) : motive state cursor (iterate step state cursor) := by
  fun_induction iterate step state cursor with
  | case1 state cursor result after stepped => exact ended state cursor result after stepped
  | case2 state cursor later middle stepped less ih =>
    exact again state cursor later middle _ stepped ih
  | case3 state cursor later middle stepped stuck =>
    exact again state cursor later middle _ stepped (refused later middle)
  | case4 state cursor error after stepped => exact failed state cursor error after stepped

def gather (item? : Parse (Option α)) (items : List α) : Parse (List α ⊕ List α) := do
  match ← item? with
  | some item => return .inl (item :: items)
  | none => return .inr items.reverse

theorem collect_eq (item? : Parse (Option α)) : collect item? = iterate (gather item?) [] := rfl

def enumerate (item : Parse α) (close : String) (items : List α) :
    Parse (List α ⊕ List α) := do
  let items := (← item) :: items
  if ← accept "," then
    if ← peek close then fail .trailingComma
    return .inl items
  discard (expect close)
  return .inr items.reverse

theorem separated_eq (item : Parse α) (close : String) : separated item close = (do
    if ← accept close then return []
    iterate (enumerate item close) []) := rfl

def operate (level : Level) (operand : Parse Expr) (left : Expr) : Parse (Expr ⊕ Expr) := do
  match ← operator? level with
  | some operator => return .inl (.binary operator left (← operand) none)
  | none => return .inr left

theorem joined_eq (level : Level) (operand : Parse Expr) :
    joined level operand = operand >>= iterate (operate level operand) := rfl

def blockItem? (statement : Parse Stmt) (ends : List String) : Parse (Option Stmt) := do
  let found ← current?
  if ends.any fun word => found.any fun token => token.value == word then return none
  if found.isNone then expected (ends.getLast?.getD "end")
  return some (← statement)

theorem block_eq (statement : Parse Stmt) (ends : List String) :
    block statement ends = collect (blockItem? statement ends) := rfl

def iterateUpTo (bottom : Parse β) (step : σ → Parse (σ ⊕ β)) : Nat → σ → Parse β
  | 0, _ => bottom
  | budget + 1, state => step state >>= Sum.elim (iterateUpTo bottom step budget) pure

/-! ### Rules in two parts -/

def afterName (expression : Parse Expr) (name : String) : Parse Expr := do
  if ← accept "(" then
    return .call name (← separated expression ")") none none
  if ← accept "[" then
    let index ← expression
    discard (expect "]")
    return .element name index none none
  return .named name none none

def afterMutability (mutable : Bool) : Parse Global := do
  let name ← identifier
  let typeName ← typeAnnotation
  let value ← initializer
  if !mutable && value.isNone then fail (.missingValue name)
  discard (expect ";")
  return { name, typeName, mutable, value, binding := none }

theorem global_eq : global = (do
    let mutable ← accept "var"
    if !mutable then discard (expect "val")
    afterMutability mutable) := rfl

def afterFun : Parse Function := do
  let name ← identifier
  discard (expect "(")
  let parameters ← separated parameter ")"
  let returnTypeName ← typeAnnotation
  discard (expect "do")
  let body ← block statement ["end"]
  discard (expect "end")
  return {
    name
    parameters := parameters.map Prod.fst
    parameterTypes := parameters.map Prod.snd
    returnTypeName, body
    binding := none }

end Primer.Parse

/-! ### Lists of tokens -/

namespace Primer.Program

variable {tokens : List Token}

theorem ofTokens_eq_ok {program : Program} :
    ofTokens tokens = .ok program ↔
      ∃ last, Parse.program (.ofTokens tokens) = .ok program last := by
  unfold ofTokens
  cases Parse.program (.ofTokens tokens) <;> simp

theorem ofTokens_eq_error {error : SyntaxError} :
    ofTokens tokens = .error error ↔
      ∃ last, Parse.program (.ofTokens tokens) = .error error last := by
  unfold ofTokens
  cases Parse.program (.ofTokens tokens) <;> simp

end Primer.Program
