import Primer.Proofs.Grammar.Lookahead

/-! Reading ends by itself, on every list of tokens.

A rule that contains itself has consumed a token each time, and so has a step that is repeated. So
it would make no difference if neither was seen to: the recursions and the loops of the grammar are
as they would be without a guard, and as they are with any budget that is larger than the number of
tokens left.
-/

set_option autoImplicit false

namespace Primer.Parse

variable {α β σ : Type}

/-- The rule may contain itself freely. The recursion is no deeper than there are tokens left, so
what would be done below does not matter. -/
structure Founded (rule : Parse α → Parse α) : Prop where
  unfolds : ∀ cursor : Cursor, cursor.Within → nested rule cursor = rule (nested rule) cursor
  bounded : ∀ (bottom : Parse α) (budget : Nat) (cursor : Cursor), cursor.Within →
    cursor.remaining < budget → nestedUpTo bottom rule budget cursor = nested rule cursor

/-- The step may be repeated freely. There are no more rounds than there are tokens left, so what
would be done afterwards does not matter. -/
structure Ends (step : σ → Parse (σ ⊕ β)) : Prop where
  unfolds : ∀ (state : σ) (cursor : Cursor), cursor.Within →
    iterate step state cursor = (step state >>= Sum.elim (iterate step) pure) cursor
  bounded : ∀ (bottom : Parse β) (budget : Nat) (state : σ) (cursor : Cursor), cursor.Within →
    cursor.remaining < budget → iterateUpTo bottom step budget state cursor =
      iterate step state cursor

variable {failing : Nat} {count : α → Nat} {total : β → Nat}

section recursion

variable {rule : Parse α → Parse α}
  (step : ∀ (first second : Array Token) (start : Nat) (inner other : Parse α),
    Parallel first second (start + 1) 0 inner other count →
      Parallel first second start 0 (rule inner) (rule other) count)

include step

/-- With a budget for every token left, the bottom is out of reach. -/
theorem follows_nestedUpTo (bottom : Parse α) (budget : Nat) (cursor : Cursor)
    (within : cursor.Within) (enough : cursor.remaining < budget) :
    Follows cursor.tokens 0 (nested rule) (nestedUpTo bottom rule budget) count cursor := by
  induction budget generalizing cursor with
  | zero => cases enough
  | succ budget ih =>
    refine follows_nested (step _ _ _) (fun inner isFirst further innerWithin => ?_) within
    have reaches : cursor.Reaches 1 inner := ⟨isFirst, further, innerWithin⟩
    -- The level below has one less to spend, and at least one token less to spend it on.
    have less := reaches.remaining_lt
    have follows := ih inner innerWithin (by omega)
    rwa [isFirst] at follows

/-- It is enough that a rule looks at what it contains only behind a token. -/
theorem founded_of_parallel : Founded rule where
  unfolds cursor within := by
    have inside : Parallel cursor.tokens cursor.tokens (cursor.position + 1) 0 (nested rule)
      (nested rule) count := parallel_nested (step _ _)
    exact (follows_nested (step _ _ _) inside within).eq.symm
  bounded bottom budget cursor within enough :=
    (follows_nestedUpTo step bottom budget cursor within enough).eq

end recursion

section repetition

/-- It only matters what is done again behind a token. -/
theorem again_congr {round : Parse (σ ⊕ β)} {again again' : σ → Parse β} {cursor : Cursor}
    (lands : Lands cursor failing (Sum.elim (fun _ => 1) total) (round cursor))
    (same : ∀ state middle, cursor.Reaches 1 middle → again state middle = again' state middle) :
    (round >>= Sum.elim again pure) cursor = (round >>= Sum.elim again' pure) cursor := by
  change EStateM.bind _ _ cursor = EStateM.bind _ _ cursor
  unfold EStateM.bind
  cases ran : round cursor with
  | error error middle => rfl
  | ok outcome middle =>
    rw [ran] at lands
    cases outcome with
    | inl state => exact same state middle lands
    | inr result => rfl

theorem iterate_guarded (step : σ → Parse (σ ⊕ β)) (state : σ) (cursor : Cursor) :
    iterate step state cursor = (step state >>= Sum.elim (fun later middle =>
      if middle.remaining < cursor.remaining then iterate step later middle
      else expectedExpression middle) pure) cursor := by
  change _ = EStateM.bind _ _ cursor
  rw [iterate]
  unfold EStateM.bind
  rcases step state cursor with ⟨_ | _, _⟩ | _ <;> rfl

variable {step : σ → Parse (σ ⊕ β)}
  (moves : ∀ state, Moves failing (step state) (Sum.elim (fun _ => 1) total))

include moves

theorem iterate_eq (state : σ) (cursor : Cursor) (within : cursor.Within) :
    iterate step state cursor = (step state >>= Sum.elim (iterate step) pure) cursor := by
  rw [iterate_guarded]
  refine again_congr (moves state cursor within) fun later middle passed => ?_
  exact if_pos passed.remaining_lt

theorem ends_of_moves : Ends step where
  unfolds := iterate_eq moves
  bounded bottom budget := by
    induction budget with
    | zero => exact fun _ _ _ enough => absurd enough (Nat.not_lt_zero _)
    | succ budget ih =>
      intro state cursor within enough
      rw [iterate_eq moves state cursor within]
      refine again_congr (moves state cursor within) fun later middle passed => ?_
      -- The rounds that follow have one less to spend, and at least one token less.
      have less := passed.remaining_lt
      exact ih later middle passed.within (by omega)

end repetition

/-! ### The loops of the grammar -/

theorem ends_gather {item? : Parse (Option α)} (failing : Nat)
    (items : ∀ tokens, Parallel tokens tokens 0 failing item? item? fun found =>
      found.isSome.toNat) : Ends (gather item?) :=
  ends_of_moves fun found => .of_parallel fun tokens => parallel_gather (items tokens) found

theorem ends_enumerate {item : Parse α}
    (items : ∀ tokens, Parallel tokens tokens 0 0 item item fun _ => 1) (close : String) :
    Ends (enumerate item close) :=
  ends_of_moves fun found => .of_parallel fun tokens =>
    parallel_enumerate (items tokens) close found

def operand : Level → Parse Expr
  | .primary | .multiplicative => primary expression
  | .additive => joined .multiplicative (primary expression)
  | .comparison => joined .additive (joined .multiplicative (primary expression))
  | .logical =>
    joined .comparison (joined .additive (joined .multiplicative (primary expression)))

theorem parallel_operand {first second : Array Token} {start : Nat} (level : Level) :
    Parallel first second start 0 (operand level) (operand level) fun _ => 1 := by
  have operands : Parallel first second start 0 (primary expression) (primary expression)
    fun _ => 1 := parallel_primary parallel_expression
  cases level with
  | primary => exact operands
  | multiplicative => exact operands
  | additive => exact parallel_joined operands _
  | comparison => exact parallel_joined (parallel_joined operands _) _
  | logical => exact parallel_joined (parallel_joined (parallel_joined operands _) _) _

theorem ends_operate (level : Level) : Ends (operate level (operand level)) :=
  ends_of_moves fun left => .of_parallel fun _ =>
    parallel_operate (parallel_operand level) level left

theorem founded_levels : Founded levels :=
  founded_of_parallel fun _ _ _ _ _ => parallel_levels

theorem founded_form : Founded form :=
  founded_of_parallel fun _ _ _ _ _ => parallel_form

/-! ### Programs -/

theorem reaches_of_program {tree : Program} {cursor last : Cursor} (within : cursor.Within)
    (ran : program cursor = .ok tree last) :
    cursor.Reaches 0 last ∧ last.position = cursor.tokens.size := by
  obtain ⟨globals, middle, returned, ran⟩ := EStateM.bind_eq_ok.mp ran
  have front := Moves.of_parallel (fun _ => parallel_collect parallel_global?) cursor within
  rw [returned] at front
  have first : cursor.Reaches 0 middle := front
  obtain ⟨functions, final, returned, ran⟩ := EStateM.bind_eq_ok.mp ran
  have back := Moves.of_parallel (fun _ => parallel_collect parallel_function?) middle first.within
  rw [returned] at back
  have whole : cursor.Reaches 0 final := first.trans back
  rw [bind_current?] at ran
  cases found : final.current? with
  | some token =>
    rw [found] at ran
    cases ran
  | none =>
    rw [found] at ran
    cases ran
    have outside : last.tokens.size ≤ last.position := Array.getElem?_eq_none_iff.mp found
    exact ⟨whole, whole.tokens ▸ Nat.le_antisymm whole.within outside⟩

theorem program_halts (tokens : List Token) :
    (∃ tree, program (.ofTokens tokens) = .ok tree (.behind tokens tokens.length)) ∨
      ∃ error, ∃ position ≤ tokens.length,
        program (.ofTokens tokens) = .error error (.behind tokens position) := by
  have begins : (Cursor.ofTokens tokens).Within := Nat.zero_le _
  cases ran : program (.ofTokens tokens) with
  | ok tree last =>
    obtain ⟨reaches, ending⟩ := reaches_of_program begins ran
    obtain ⟨own, position⟩ := last
    obtain rfl : own = tokens.toArray := reaches.tokens
    obtain rfl : position = tokens.length := ending
    exact .inl ⟨tree, rfl⟩
  | error error last =>
    obtain ⟨reaches, -⟩ := program_error tokens.toArray begins ran
    obtain ⟨own, position⟩ := last
    obtain rfl : own = tokens.toArray := reaches.tokens
    exact .inr ⟨error, position, reaches.within, rfl⟩

/-- A program is read to its end or fails within its tokens. No call moves the cursor back or past
the end, and every phrase has a token. The recursions and the loops of the grammar end by
themselves. -/
theorem goes_on_and_ends :
    (∀ tokens : List Token,
      (∃ tree, program (.ofTokens tokens) = .ok tree (.behind tokens tokens.length)) ∨
        ∃ error, ∃ position ≤ tokens.length,
          program (.ofTokens tokens) = .error error (.behind tokens position)) ∧
    -- phrases
    (Moves 0 global (fun _ => 1) ∧ Moves 0 function (fun _ => 1) ∧
      Moves 0 statement (fun _ => 1) ∧ Moves 0 expression (fun _ => 1)) ∧
    -- the calls that they are made of
    (Moves 0 advance (fun _ => 1) ∧ Moves 0 identifier (fun _ => 1) ∧
      (∀ text, Moves 0 (accept text) Bool.toNat) ∧ (∀ text, Moves 0 (expect text) fun _ => 1) ∧
      Moves 0 typeAnnotation (fun _ => 0) ∧ Moves 0 initializer (fun _ => 0) ∧
      Moves 0 parameter (fun _ => 1) ∧ (∀ ends, Moves 0 (block statement ends) fun _ => 0) ∧
      (∀ rule ∈ [declaration, conditional statement, loop statement, switch statement, returns,
        simple], Moves 0 rule fun _ => 1) ∧
      (∀ level, Moves 0 (operand level) fun _ => 1) ∧
      (∀ close, Moves 0 (separated expression close) fun _ => 1) ∧
      ∀ rule ∈ [word expression, group expression, list expression], Moves 0 rule fun _ => 1) ∧
    -- recursions
    (statement = nested form ∧ Founded form) ∧ (expression = nested levels ∧ Founded levels) ∧
    -- loops: over a program, a block, operators, arguments, parameters, cases
    ((∀ {α : Type} (item? : Parse (Option α)), collect item? = iterate (gather item?) []) ∧
      Ends (gather global?) ∧ Ends (gather function?)) ∧
    (∀ ends, block statement ends = collect (blockItem? statement ends) ∧
      Ends (gather (blockItem? statement ends))) ∧
    (∀ level, joined level (operand level) =
        operand level >>= iterate (operate level (operand level)) ∧
      Ends (operate level (operand level))) ∧
    ((∀ {α : Type} (item : Parse α) (close : String), separated item close = (do
        if ← accept close then return []
        iterate (enumerate item close) [])) ∧
      (∀ close, Ends (enumerate expression close)) ∧ Ends (enumerate parameter ")")) ∧
    Ends (gather (matchingCase? statement)) := by
  refine ⟨program_halts, ?phrases, ?calls, ⟨statement_eq, founded_form⟩,
    ⟨expression_eq, founded_levels⟩, ⟨collect_eq, ?globals, ?functions⟩, ?block,
    fun level => ⟨joined_eq level _, ends_operate level⟩,
    ⟨separated_eq, ends_enumerate fun _ => parallel_expression,
      ends_enumerate (fun _ => parallel_parameter) _⟩, ?cases⟩
  case phrases =>
    exact ⟨.of_parallel fun _ => parallel_global, .of_parallel fun _ => parallel_function,
      .of_parallel fun _ => parallel_statement, .of_parallel fun _ => parallel_expression⟩
  case calls =>
    refine ⟨.of_parallel fun _ => parallel_advance, .of_parallel fun _ => parallel_identifier,
      fun text => .of_parallel fun _ => parallel_accept text,
      fun text => .of_parallel fun _ => parallel_expect text,
      .of_parallel fun _ => parallel_typeAnnotation, .of_parallel fun _ => parallel_initializer,
      .of_parallel fun _ => parallel_parameter,
      fun ends => .of_parallel fun _ => parallel_block parallel_statement ends, ?statements,
      fun level => .of_parallel fun _ => parallel_operand level,
      fun close => .of_parallel fun _ => parallel_separated parallel_expression close, ?operands⟩
    case statements =>
      simp only [List.forall_mem_cons, List.not_mem_nil, false_implies, implies_true, and_true]
      exact ⟨.of_parallel fun _ => parallel_declaration,
        .of_parallel fun _ => parallel_conditional parallel_statement,
        .of_parallel fun _ => parallel_loop parallel_statement,
        .of_parallel fun _ => parallel_switch parallel_statement,
        .of_parallel fun _ => parallel_returns, .of_parallel fun _ => parallel_simple⟩
    case operands =>
      simp only [List.forall_mem_cons, List.not_mem_nil, false_implies, implies_true, and_true]
      exact ⟨.of_parallel fun _ => parallel_word parallel_expression,
        .of_parallel fun _ => parallel_group parallel_expression,
        .of_parallel fun _ => parallel_list parallel_expression⟩
  case globals => exact ends_gather 1 fun _ => parallel_global?
  case functions => exact ends_gather 1 fun _ => parallel_function?
  case block =>
    exact fun ends => ⟨block_eq statement ends,
      ends_gather 0 fun _ => parallel_blockItem? parallel_statement ends⟩
  case cases => exact ends_gather 0 fun _ => parallel_matchingCase? parallel_statement

end Primer.Parse
