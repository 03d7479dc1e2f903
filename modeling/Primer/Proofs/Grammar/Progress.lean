import Primer.Proofs.Grammar.Moves

/-! Every rule of the grammar that returns a phrase has passed a token, and every error in a phrase
shows at the end of the last token passed. What a rule does depends on the tokens passed and on the
one behind them, and on the rules that it contains only further on.
-/

set_option autoImplicit false

namespace Primer.Parse

variable {first second : Array Token} {start : Nat}

/-! ### Expressions -/

theorem parallel_literal (value? : List Char → Option Literal)
    (error : String → SyntaxError.Cause) :
    Parallel first second start 0 (literal value? error) (literal value? error) fun _ => 1 := by
  refine parallel_advance.bind fun token => ?_
  cases value? token.value.toList with
  | some value => exact parallel_pure (Nat.le_refl _)
  | none => exact parallel_fail _

section operands

variable {inner other : Parse Expr}

theorem parallel_afterName (inside : Parallel first second start 0 inner other fun _ => 1)
    (name : String) :
    Parallel first second start 0 (afterName inner name) (afterName other name) fun _ => 0 := by
  refine (parallel_accept "(").bind fun called => ?_
  cases called with
  | true => exact (parallel_separated inside ")").bind fun _ => parallel_pure (Nat.zero_le _)
  | false =>
    refine (parallel_accept "[").bind fun indexed => ?_
    cases indexed with
    | true =>
      refine inside.bind fun index => ?_
      exact (parallel_expect "]").discard.bind fun _ => parallel_pure (Nat.zero_le _)
    | false => exact parallel_pure (Nat.zero_le _)

variable (inside : Parallel first second (start + 1) 0 inner other fun _ => 1)

include inside

theorem parallel_word : Parallel first second start 0 (word inner) (word other) fun _ => 1 := by
  refine (parallel_accept "nil").bind fun isNil => ?_
  cases isNil with
  | true => exact parallel_pure (Nat.le_refl _)
  | false =>
    refine (parallel_accept "true").bind fun isTrue => ?_
    cases isTrue with
    | true => exact parallel_pure (Nat.le_refl _)
    | false =>
      refine (parallel_accept "false").bind fun isFalse => ?_
      cases isFalse with
      | true => exact parallel_pure (Nat.le_refl _)
      | false =>
        refine parallel_current?.bind fun found => ?_
        cases found.any Token.isReserved with
        | true =>
          have refused : Parallel first second start 0 (expectedExpression : Parse Unit)
            expectedExpression fun _ => 0 := parallel_expectedExpression
          exact refused.bind fun _ =>
            parallel_identifier.passing fun name => parallel_afterName inside name
        | false => exact parallel_identifier.passing fun name => parallel_afterName inside name

theorem parallel_group : Parallel first second start 0 (group inner) (group other) fun _ => 1 := by
  refine (parallel_expect "(").discard.passing fun _ => ?_
  refine inside.bind fun expr => ?_
  exact (parallel_expect ")").discard.bind fun _ => parallel_pure (Nat.zero_le _)

theorem parallel_list : Parallel first second start 0 (list inner) (list other) fun _ => 1 := by
  refine (parallel_expect "[").discard.passing fun _ => ?_
  exact (parallel_separated inside "]").bind fun _ => parallel_pure (Nat.zero_le _)

theorem parallel_primary :
    Parallel first second start 0 (primary inner) (primary other) fun _ => 1 := by
  refine parallel_current?.bind fun found => ?_
  rcases found.map Token.kind with _ | kind
  · exact parallel_expectedExpression
  · cases kind with
    | identifier => exact parallel_word inside
    | integer => exact parallel_literal _ _
    | decimal => exact parallel_literal _ _
    | character => exact parallel_literal _ _
    | string => exact parallel_literal _ _
    | operator =>
      refine (parallel_peek "(").bind fun opens => ?_
      cases opens with
      | true => exact parallel_group inside
      | false =>
        refine (parallel_peek "[").bind fun lists => ?_
        cases lists with
        | true => exact parallel_list inside
        | false => exact parallel_expectedExpression

end operands

theorem parallel_operator? (level : Level) :
    Parallel first second start 0 (operator? level) (operator? level) fun found =>
      found.isSome.toNat := by
  refine parallel_current?.bind fun found => ?_
  cases found.bind Token.operator? with
  | none => exact parallel_pure (Nat.le_refl _)
  | some operator =>
    by_cases same : operator.level = level
    · simp only [same, if_true]
      exact parallel_advance.discard.bind fun _ => parallel_pure (Nat.le_refl _)
    · simp only [same, if_false]
      exact parallel_pure (Nat.le_refl _)

section joining

variable {operand other : Parse Expr}
  (operands : Parallel first second start 0 operand other fun _ => 1) (level : Level)

include operands

theorem parallel_operate (left : Expr) :
    Parallel first second start 0 (operate level operand left) (operate level other left)
      (Sum.elim (fun _ => 1) fun _ => 0) := by
  refine (parallel_operator? level).bind fun found => ?_
  cases found with
  | none => exact parallel_pure (Nat.le_refl _)
  | some operator => exact operands.bind fun _ => parallel_pure (Nat.le_refl _)

theorem parallel_joined :
    Parallel first second start 0 (joined level operand) (joined level other) fun _ => 1 :=
  operands.bind fun left => parallel_iterate (parallel_operate operands level) left

end joining

theorem parallel_levels {inner other : Parse Expr}
    (inside : Parallel first second (start + 1) 0 inner other fun _ => 1) :
    Parallel first second start 0 (levels inner) (levels other) fun _ => 1 :=
  parallel_joined (parallel_joined (parallel_joined (parallel_joined (parallel_primary inside)
    _) _) _) _

theorem parallel_expression :
    Parallel first second start 0 expression expression fun _ => 1 :=
  parallel_nested fun _ _ _ inside => parallel_levels inside

/-! ### Statements -/

theorem parallel_typeAnnotation :
    Parallel first second start 0 typeAnnotation typeAnnotation fun _ => 0 := by
  refine (parallel_accept ":").bind fun given => ?_
  cases given with
  | true => exact parallel_identifier.bind fun _ => parallel_pure (Nat.le_refl _)
  | false => exact parallel_pure (Nat.le_refl _)

theorem parallel_initializer :
    Parallel first second start 0 initializer initializer fun _ => 0 := by
  refine (parallel_accept "=").bind fun given => ?_
  cases given with
  | true => exact parallel_expression.bind fun _ => parallel_pure (Nat.le_refl _)
  | false => exact parallel_pure (Nat.le_refl _)

theorem parallel_declaration :
    Parallel first second start 0 declaration declaration fun _ => 1 := by
  refine (parallel_expect "let").discard.bind fun _ => parallel_identifier.bind fun _ => ?_
  refine parallel_typeAnnotation.bind fun _ => parallel_initializer.bind fun _ => ?_
  exact (parallel_expect ";").discard.bind fun _ => parallel_pure (Nat.zero_le _)

theorem parallel_returns : Parallel first second start 0 returns returns fun _ => 1 := by
  refine (parallel_expect "return").discard.bind fun _ => parallel_expression.bind fun _ => ?_
  exact (parallel_expect ";").discard.bind fun _ => parallel_pure (Nat.zero_le _)

theorem parallel_simple : Parallel first second start 0 simple simple fun _ => 1 := by
  refine parallel_expression.bind fun receiver => (parallel_accept "=").bind fun assigned => ?_
  cases assigned with
  | true =>
    refine parallel_expression.bind fun _ => ?_
    exact (parallel_expect ";").discard.bind fun _ => parallel_pure (Nat.zero_le _)
  | false => exact (parallel_expect ";").discard.bind fun _ => parallel_pure (Nat.zero_le _)

section blocks

variable {inner other : Parse Stmt} (inside : Parallel first second start 0 inner other fun _ => 1)

include inside

theorem parallel_blockItem? (ends : List String) :
    Parallel first second start 0 (blockItem? inner ends) (blockItem? other ends) fun found =>
      found.isSome.toNat := by
  refine parallel_current?.bind fun found => ?_
  cases ends.any fun word => found.any fun token => token.value == word with
  | true => exact parallel_pure (Nat.le_refl _)
  | false =>
    have next : Parallel first second start 0 (do return some (← inner))
        (do return some (← other)) fun found : Option Stmt => found.isSome.toNat :=
      inside.bind fun _ => parallel_pure (Nat.le_refl _)
    cases found.isNone with
    | true =>
      have refused : Parallel first second start 0
        (expected (ends.getLast?.getD "end") : Parse Unit)
        (expected (ends.getLast?.getD "end")) fun _ => 0 := parallel_expected _
      exact refused.bind fun _ => next
    | false => exact next

theorem parallel_block (ends : List String) :
    Parallel first second start 0 (block inner ends) (block other ends) fun _ => 0 :=
  parallel_collect (parallel_blockItem? inside ends)

theorem parallel_matchingCase? :
    Parallel first second start 0 (matchingCase? inner) (matchingCase? other) fun found =>
      found.isSome.toNat := by
  refine (parallel_accept "case").bind fun given => ?_
  cases given with
  | true =>
    refine parallel_expression.bind fun _ => (parallel_expect ":").discard.bind fun _ => ?_
    exact (parallel_block inside _).bind fun _ => parallel_pure (Nat.le_refl _)
  | false => exact parallel_pure (Nat.le_refl _)

end blocks

section statements

variable {inner other : Parse Stmt}
  (inside : Parallel first second (start + 1) 0 inner other fun _ => 1)

include inside

theorem parallel_conditional :
    Parallel first second start 0 (conditional inner) (conditional other) fun _ => 1 := by
  refine (parallel_expect "if").discard.passing fun _ => parallel_expression.bind fun _ => ?_
  refine (parallel_expect "do").discard.bind fun _ => (parallel_block inside _).bind fun _ => ?_
  refine (parallel_accept "else").bind fun alternative => ?_
  cases alternative with
  | true =>
    refine (parallel_block inside _).bind fun _ => ?_
    exact (parallel_expect "end").discard.bind fun _ => parallel_pure (Nat.zero_le _)
  | false => exact (parallel_expect "end").discard.bind fun _ => parallel_pure (Nat.zero_le _)

theorem parallel_loop : Parallel first second start 0 (loop inner) (loop other) fun _ => 1 := by
  refine (parallel_expect "while").discard.passing fun _ => parallel_expression.bind fun _ => ?_
  refine (parallel_expect "do").discard.bind fun _ => (parallel_block inside _).bind fun _ => ?_
  exact (parallel_expect "end").discard.bind fun _ => parallel_pure (Nat.zero_le _)

theorem parallel_switch :
    Parallel first second start 0 (switch inner) (switch other) fun _ => 1 := by
  refine (parallel_expect "switch").discard.passing fun _ => parallel_expression.bind fun _ => ?_
  refine (parallel_collect (parallel_matchingCase? inside)).bind fun _ => ?_
  refine (parallel_expect "default").discard.bind fun _ => ?_
  refine (parallel_expect ":").discard.bind fun _ => (parallel_block inside _).bind fun _ => ?_
  exact (parallel_expect "end").discard.bind fun _ => parallel_pure (Nat.zero_le _)

theorem parallel_form : Parallel first second start 0 (form inner) (form other) fun _ => 1 := by
  refine (parallel_peek "let").bind fun isLet => ?_
  cases isLet with
  | true => exact parallel_declaration
  | false =>
    refine (parallel_peek "if").bind fun isIf => ?_
    cases isIf with
    | true => exact parallel_conditional inside
    | false =>
      refine (parallel_peek "while").bind fun isWhile => ?_
      cases isWhile with
      | true => exact parallel_loop inside
      | false =>
        refine (parallel_peek "switch").bind fun isSwitch => ?_
        cases isSwitch with
        | true => exact parallel_switch inside
        | false =>
          refine (parallel_peek "return").bind fun isReturn => ?_
          cases isReturn with
          | true => exact parallel_returns
          | false => exact parallel_simple

end statements

theorem parallel_statement : Parallel first second start 0 statement statement fun _ => 1 :=
  parallel_nested fun _ _ _ inside => parallel_form inside

/-! ### Programs -/

theorem parallel_afterMutability (mutable : Bool) :
    Parallel first second start 0 (afterMutability mutable) (afterMutability mutable)
      fun _ => 0 := by
  refine parallel_identifier.bind fun name => parallel_typeAnnotation.bind fun _ => ?_
  refine parallel_initializer.bind fun value => ?_
  cases !mutable && value.isNone with
  | true =>
    have refused : Parallel first second start 0 (fail (.missingValue name) : Parse Unit)
      (fail (.missingValue name)) fun _ => 0 := parallel_fail _
    refine refused.bind fun _ => ?_
    exact (parallel_expect ";").discard.bind fun _ => parallel_pure (Nat.zero_le _)
  | false => exact (parallel_expect ";").discard.bind fun _ => parallel_pure (Nat.zero_le _)

theorem parallel_global : Parallel first second start 0 global global fun _ => 1 := by
  refine (parallel_accept "var").bind fun mutable => ?_
  cases mutable with
  | true => exact parallel_afterMutability true
  | false => exact (parallel_expect "val").discard.bind fun _ => parallel_afterMutability false

theorem parallel_parameter : Parallel first second start 0 parameter parameter fun _ => 1 := by
  refine parallel_identifier.bind fun _ => (parallel_expect ":").discard.bind fun _ => ?_
  exact parallel_identifier.bind fun _ => parallel_pure (Nat.zero_le _)

theorem parallel_afterFun :
    Parallel first second start 0 afterFun afterFun fun _ => 0 := by
  refine parallel_identifier.bind fun _ => (parallel_expect "(").discard.bind fun _ => ?_
  refine (parallel_separated parallel_parameter ")").bind fun _ => ?_
  refine parallel_typeAnnotation.bind fun _ => (parallel_expect "do").discard.bind fun _ => ?_
  refine (parallel_block parallel_statement _).bind fun _ => ?_
  exact (parallel_expect "end").discard.bind fun _ => parallel_pure (Nat.zero_le _)

theorem parallel_function : Parallel first second start 0 function function fun _ => 1 :=
  (parallel_expect "fun").discard.bind fun _ => parallel_afterFun

/-- A word stands before everything that can be wrong with a global. -/
theorem follows_global {cursor : Cursor}
    (begins : (cursor.isAt "val" || cursor.isAt "var") = true) :
    Follows second 1 global global (fun _ => 1) cursor := by
  refine .accept (fun isVar => ?_) fun notVar => ?_
  · exact parallel_afterMutability true _ rfl (Nat.zero_le _) (Cursor.reaches_of_isAt isVar).within
  · have isVal : cursor.isAt "val" = true := by simpa [notVar] using begins
    refine (follows_expect isVal).bind fun _ middle reaches => ?_
    exact parallel_afterMutability false middle rfl (Nat.zero_le _) reaches.within

theorem follows_function {cursor : Cursor} (begins : cursor.isAt "fun" = true) :
    Follows second 1 function function (fun _ => 1) cursor :=
  (follows_expect begins).bind fun _ middle reaches =>
    parallel_afterFun middle rfl (Nat.zero_le _) reaches.within

theorem parallel_global? :
    Parallel first second start 1 global? global? fun found => found.isSome.toNat := by
  intro cursor isFirst far within
  -- The first word tells whether a global begins; if it does, the error comes behind that word.
  refine .peek (.peek ?_)
  cases begins : cursor.isAt "val" || cursor.isAt "var" with
  | true =>
    exact (follows_global begins).bind fun _ middle reaches =>
      ⟨.refl reaches.within, fun _ => rfl⟩
  | false => exact ⟨.refl within, fun _ => rfl⟩

theorem parallel_function? :
    Parallel first second start 1 function? function? fun found => found.isSome.toNat := by
  intro cursor isFirst far within
  refine .peek ?_
  cases begins : cursor.isAt "fun" with
  | true =>
    exact (follows_function begins).bind fun _ middle reaches =>
      ⟨.refl reaches.within, fun _ => rfl⟩
  | false => exact ⟨.refl within, fun _ => rfl⟩

theorem program_eq_error {cursor after : Cursor} {error : SyntaxError} :
    program cursor = .error error after ↔
      collect global? cursor = .error error after ∨
        ∃ globals middle, collect global? cursor = .ok globals middle ∧
          (collect function? middle = .error error after ∨
            ∃ functions token, collect function? middle = .ok functions after ∧
              after.current? = some token ∧
              error = { cause := .unexpected token.value, position := token.start }) := by
  refine EStateM.bind_eq_error.trans (or_congr_right (exists₂_congr fun globals middle =>
    and_congr_right fun _ => EStateM.bind_eq_error.trans (or_congr_right ⟨?_, ?_⟩)))
  · rintro ⟨functions, last, ran, failed⟩
    rw [bind_current?] at failed
    cases found : last.current? with
    | none =>
      rw [found] at failed
      cases failed
    | some token =>
      rw [found] at failed
      cases failed
      exact ⟨functions, token, ran, found, rfl⟩
  · rintro ⟨functions, token, ran, found, rfl⟩
    refine ⟨functions, after, ran, ?_⟩
    rw [bind_current?, found]
    rfl

end Primer.Parse
