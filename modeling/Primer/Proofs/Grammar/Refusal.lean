import Primer.Proofs.Grammar.Decodes

/-! Which literals the grammar refuses.

A literal is passed as an operand only, and there it is decoded. So reading a program breaks off at
the first broken literal that it comes to, unless something else is wrong before.
-/

set_option autoImplicit false

namespace Primer

namespace Parse

variable {α : Type}

/-! ### Operands -/

theorem literal_eq {cursor : Cursor} {token : Token} (found : cursor.current? = some token)
    (value? : List Char → Option Literal) (error : String → SyntaxError.Cause) :
    literal value? error cursor = match value? token.value.toList with
      | some value => .ok (.literal value none) cursor.next
      | none => .error { cause := error token.value, position := token.stop } cursor.next := by
  change EStateM.bind advance _ cursor = _
  unfold EStateM.bind
  rw [advance_eq found]
  dsimp only
  cases value? token.value.toList with
  | some value => rfl
  | none =>
    rw [← Cursor.offset_next found]
    rfl

theorem decoded_literal {cursor : Cursor} {token : Token} {value? : List Char → Option Literal}
    {error : String → SyntaxError.Cause} (found : cursor.current? = some token)
    (read : (¬ token.Broken ∧ (value? token.value.toList).isSome) ∨
      (token.Broken ∧ value? token.value.toList = none ∧ error = .badLiteral)) :
    Decoded cursor (literal value? error cursor) := by
  rw [literal_eq found]
  rcases read with ⟨whole, some⟩ | ⟨broken, none, rfl⟩
  · obtain ⟨value, read⟩ := Option.isSome_iff_exists.mp some
    rw [read]
    exact Cursor.clears_next found whole
  · rw [none]
    exact .inr ⟨cursor, token, .refl cursor, found, broken, rfl, rfl⟩

section operands

variable {inner : Parse Expr} (inside : Decodes inner)

include inside

theorem decodes_afterName (name : String) : Decodes (afterName inner name) := by
  refine (decodes_accept (by decide)).bind fun called => ?_
  cases called with
  | true => exact (decodes_separated inside (by decide)).bind fun _ => decodes_pure _
  | false =>
    refine (decodes_accept (by decide)).bind fun indexed => ?_
    cases indexed with
    | true =>
      refine inside.bind fun index => ?_
      exact decodes_ended (by decide) _
    | false => exact decodes_pure _

theorem decodes_word : Decodes (word inner) := by
  refine (decodes_accept (by decide)).bind fun isNil => ?_
  cases isNil with
  | true => exact decodes_pure _
  | false =>
    refine (decodes_accept (by decide)).bind fun isTrue => ?_
    cases isTrue with
    | true => exact decodes_pure _
    | false =>
      refine (decodes_accept (by decide)).bind fun isFalse => ?_
      cases isFalse with
      | true => exact decodes_pure _
      | false =>
        refine decodes_current?.bind fun found => ?_
        cases found.any Token.isReserved with
        | true =>
          have refused : Decodes (expectedExpression : Parse Unit) := decodes_expectedExpression
          exact refused.bind fun _ => decodes_identifier.bind fun name =>
            decodes_afterName inside name
        | false => exact decodes_identifier.bind fun name => decodes_afterName inside name

theorem decodes_group : Decodes (group inner) := by
  refine (decodes_expect (by decide)).discard.bind fun _ => inside.bind fun _ => ?_
  exact decodes_ended (by decide) _

theorem decodes_list : Decodes (list inner) := by
  refine (decodes_expect (by decide)).discard.bind fun _ => ?_
  exact (decodes_separated inside (by decide)).bind fun _ => decodes_pure _

theorem decodes_primary : Decodes (primary inner) := by
  intro cursor readable
  unfold primary
  rw [bind_current?]
  cases found : cursor.current? with
  | none => exact decodes_expectedExpression cursor readable
  | some token =>
    have fair := readable token (Array.mem_of_getElem? found)
    obtain ⟨kind, value, start, stop⟩ := token
    cases kind with
    | identifier => exact decodes_word inside cursor readable
    | integer =>
      exact decoded_literal found (.inl ⟨by simp [Token.Broken],
        Literal.integer?_isSome fair.shaped⟩)
    | decimal =>
      refine decoded_literal found (.inl ⟨by simp [Token.Broken], ?_⟩)
      rw [Literal.decimal?, Option.isSome_map]
      exact fair.counted rfl
    | character =>
      apply decoded_literal found
      rcases Literal.character?_cases fair.shaped with ⟨bad, none⟩ | ⟨fine, c, some⟩
      · exact .inr ⟨⟨.inl rfl, bad⟩, none, rfl⟩
      · exact .inl ⟨fun broken => fine broken.2, Option.isSome_of_eq_some some⟩
    | string =>
      apply decoded_literal found
      have none_iff := Literal.string?_eq_none_iff fair.shaped
      cases read : Literal.string? value.toList with
      | none => exact .inr ⟨⟨.inr rfl, none_iff.mp read⟩, rfl, rfl⟩
      | some => exact .inl ⟨fun broken => by simp [none_iff.mpr broken.2] at read, rfl⟩
    | operator =>
      refine (decodes_peek "(").bind (fun opens => ?_) cursor readable
      cases opens with
      | true => exact decodes_group inside
      | false =>
        refine (decodes_peek "[").bind fun lists => ?_
        cases lists with
        | true => exact decodes_list inside
        | false => exact decodes_expectedExpression

end operands

theorem decodes_operator? (level : Level) : Decodes (operator? level) := by
  intro cursor readable
  unfold operator?
  rw [bind_current?]
  cases found : cursor.current?.bind Token.operator? with
  | none => exact Cursor.Clears.refl cursor
  | some operator =>
    by_cases same : operator.level = level
    · simp only [same, if_true]
      obtain ⟨token, isCurrent, spells⟩ := Option.bind_eq_some_iff.mp found
      -- Only what is quoted can be broken.
      have whole : ¬ token.Broken := by
        rintro ⟨quoted, -⟩
        unfold Token.operator? at spells
        split at spells
        · next isOperator => simp [isOperator] at quoted
        · cases spells
      have passed : Decoded cursor (discard advance cursor) :=
        (decoded_advance isCurrent whole).bind fun _ after _ _ => Cursor.Clears.refl after
      exact passed.bind fun _ after _ _ => Cursor.Clears.refl after
    · simp only [same, if_false]
      exact Cursor.Clears.refl cursor

theorem decodes_joined (level : Level) {operand : Parse Expr} (operands : Decodes operand) :
    Decodes (joined level operand) := by
  refine operands.bind fun first => decodes_iterate (fun left => ?_) first
  refine (decodes_operator? level).bind fun found => ?_
  cases found with
  | none => exact decodes_pure _
  | some operator => exact operands.bind fun _ => decodes_pure _

theorem decodes_expression : Decodes expression :=
  decodes_nested fun _ inside => decodes_joined _ (decodes_joined _ (decodes_joined _
    (decodes_joined _ (decodes_primary inside))))

/-! ### Statements -/

theorem decodes_typeAnnotation : Decodes typeAnnotation := by
  refine (decodes_accept (by decide)).bind fun given => ?_
  cases given with
  | true => exact decodes_identifier.bind fun _ => decodes_pure _
  | false => exact decodes_pure _

theorem decodes_initializer : Decodes initializer := by
  refine (decodes_accept (by decide)).bind fun given => ?_
  cases given with
  | true => exact decodes_expression.bind fun _ => decodes_pure _
  | false => exact decodes_pure _

theorem decodes_declaration : Decodes declaration := by
  refine (decodes_expect (by decide)).discard.bind fun _ => decodes_identifier.bind fun _ => ?_
  refine decodes_typeAnnotation.bind fun _ => decodes_initializer.bind fun _ => ?_
  exact decodes_ended (by decide) _

theorem decodes_returns : Decodes returns := by
  refine (decodes_expect (by decide)).discard.bind fun _ => decodes_expression.bind fun _ => ?_
  exact decodes_ended (by decide) _

theorem decodes_simple : Decodes simple := by
  refine decodes_expression.bind fun _ => (decodes_accept (by decide)).bind fun assigned => ?_
  cases assigned with
  | true =>
    refine decodes_expression.bind fun _ => ?_
    exact decodes_ended (by decide) _
  | false => exact decodes_ended (by decide) _

section blocks

variable {inner : Parse Stmt} (inside : Decodes inner)

include inside

theorem decodes_block (ends : List String) : Decodes (block inner ends) := by
  rw [block_eq]
  refine decodes_collect (decodes_current?.bind fun found => ?_)
  cases ends.any fun word => found.any fun token => token.value == word with
  | true => exact decodes_pure _
  | false =>
    have next : Decodes (do return some (← inner)) := inside.bind fun _ => decodes_pure _
    cases found.isNone with
    | true =>
      have refused : Decodes (expected (ends.getLast?.getD "end") : Parse Unit) :=
        decodes_expected _
      exact refused.bind fun _ => next
    | false => exact next

theorem decodes_matchingCase? : Decodes (matchingCase? inner) := by
  refine (decodes_accept (by decide)).bind fun given => ?_
  cases given with
  | true =>
    refine decodes_expression.bind fun _ => (decodes_expect (by decide)).discard.bind fun _ => ?_
    exact (decodes_block inside _).bind fun _ => decodes_pure _
  | false => exact decodes_pure _

theorem decodes_conditional : Decodes (conditional inner) := by
  refine (decodes_expect (by decide)).discard.bind fun _ => decodes_expression.bind fun _ => ?_
  refine (decodes_expect (by decide)).discard.bind fun _ => ?_
  refine (decodes_block inside _).bind fun _ => (decodes_accept (by decide)).bind fun given => ?_
  cases given with
  | true =>
    refine (decodes_block inside _).bind fun _ => ?_
    exact decodes_ended (by decide) _
  | false => exact decodes_ended (by decide) _

theorem decodes_loop : Decodes (loop inner) := by
  refine (decodes_expect (by decide)).discard.bind fun _ => decodes_expression.bind fun _ => ?_
  refine (decodes_expect (by decide)).discard.bind fun _ => ?_
  refine (decodes_block inside _).bind fun _ => ?_
  exact decodes_ended (by decide) _

theorem decodes_switch : Decodes (switch inner) := by
  refine (decodes_expect (by decide)).discard.bind fun _ => decodes_expression.bind fun _ => ?_
  refine (decodes_collect (decodes_matchingCase? inside)).bind fun _ => ?_
  refine (decodes_expect (by decide)).discard.bind fun _ => ?_
  refine (decodes_expect (by decide)).discard.bind fun _ => ?_
  refine (decodes_block inside _).bind fun _ => ?_
  exact decodes_ended (by decide) _

theorem decodes_form : Decodes (form inner) := by
  refine (decodes_peek "let").bind fun isLet => ?_
  cases isLet with
  | true => exact decodes_declaration
  | false =>
    refine (decodes_peek "if").bind fun isIf => ?_
    cases isIf with
    | true => exact decodes_conditional inside
    | false =>
      refine (decodes_peek "while").bind fun isWhile => ?_
      cases isWhile with
      | true => exact decodes_loop inside
      | false =>
        refine (decodes_peek "switch").bind fun isSwitch => ?_
        cases isSwitch with
        | true => exact decodes_switch inside
        | false =>
          refine (decodes_peek "return").bind fun isReturn => ?_
          cases isReturn with
          | true => exact decodes_returns
          | false => exact decodes_simple

end blocks

theorem decodes_statement : Decodes statement :=
  decodes_nested fun _ inside => decodes_form inside

/-! ### Programs -/

theorem decodes_afterMutability (mutable : Bool) : Decodes (afterMutability mutable) := by
  refine decodes_identifier.bind fun name => decodes_typeAnnotation.bind fun _ => ?_
  refine decodes_initializer.bind fun value => ?_
  cases !mutable && value.isNone with
  | true =>
    have refused : Decodes (fail (.missingValue name) : Parse Unit) := decodes_fail rfl
    refine refused.bind fun _ => ?_
    exact decodes_ended (by decide) _
  | false => exact decodes_ended (by decide) _

theorem decodes_global? : Decodes global? := by
  have global : Decodes global := by
    refine (decodes_accept (by decide)).bind fun mutable => ?_
    cases mutable with
    | true => exact decodes_afterMutability true
    | false =>
      exact (decodes_expect (by decide)).discard.bind fun _ => decodes_afterMutability false
  refine (decodes_peek "val").bind fun isVal => (decodes_peek "var").bind fun isVar => ?_
  cases isVal || isVar with
  | true => exact global.bind fun _ => decodes_pure _
  | false => exact decodes_pure _

theorem decodes_parameter : Decodes parameter := by
  refine decodes_identifier.bind fun _ => (decodes_expect (by decide)).discard.bind fun _ => ?_
  exact decodes_identifier.bind fun _ => decodes_pure _

theorem decodes_function : Decodes function := by
  refine (decodes_expect (by decide)).discard.bind fun _ => decodes_identifier.bind fun _ => ?_
  refine (decodes_expect (by decide)).discard.bind fun _ => ?_
  refine (decodes_separated decodes_parameter (by decide)).bind fun _ => ?_
  refine decodes_typeAnnotation.bind fun _ => (decodes_expect (by decide)).discard.bind fun _ => ?_
  refine (decodes_block decodes_statement _).bind fun _ => ?_
  exact decodes_ended (by decide) _

theorem decodes_function? : Decodes function? := by
  refine (decodes_peek "fun").bind fun isFun => ?_
  cases isFun with
  | true => exact decodes_function.bind fun _ => decodes_pure _
  | false => exact decodes_pure _

theorem decodes_program : Decodes program := by
  refine (decodes_collect decodes_global?).bind fun _ => ?_
  refine (decodes_collect decodes_function?).bind fun _ => decodes_current?.bind fun found => ?_
  cases found with
  | none => exact decodes_pure _
  | some token => exact decodes_throw rfl

/-- Where an operand is a broken literal, the rule for operands refuses it. -/
theorem primary_of_broken (inner : Parse Expr) {cursor : Cursor} {token : Token}
    (found : cursor.current? = some token) (shaped : token.kind.Shapes token.value.toList)
    (broken : token.Broken) : primary inner cursor = .error token.refusal cursor.next := by
  unfold primary
  rw [bind_current?, found]
  obtain ⟨kind, value, start, stop⟩ := token
  obtain ⟨rfl | rfl, bad⟩ := broken
  · rcases Literal.character?_cases shaped with ⟨-, none⟩ | ⟨fine, -⟩
    · change literal Literal.character? .badLiteral cursor = _
      rw [literal_eq found, none]
      rfl
    · exact absurd bad fine
  · change literal Literal.string? .badLiteral cursor = _
    rw [literal_eq found, (Literal.string?_eq_none_iff shaped).mpr bad]
    rfl

/-- Only the last token that a rule passes can be broken, and then the rule has refused it. -/
theorem Decoded.of_broken {cursor : Cursor} {result : EStateM.Result SyntaxError Cursor α}
    {index : Nat} {token : Token} (decoded : Decoded cursor result)
    (begins : cursor.position ≤ index) (passed : index < (after result).position)
    (found : cursor.tokens[index]? = some token) (broken : token.Broken) :
    ∃ last, result = .error token.refusal last := by
  cases result with
  | ok value last => exact absurd broken (decoded.whole index token begins passed found)
  | error error last =>
    rcases decoded with ⟨-, cleared⟩ | ⟨last, refused, cleared, isCurrent, -, rfl, rfl⟩
    · exact absurd broken (cleared.whole index token begins passed found)
    · by_cases early : index < last.position
      · exact absurd broken (cleared.whole index token begins early found)
      · -- The token that was refused is the last one in front of where the rule stopped.
        obtain rfl : index = last.position :=
          Nat.le_antisymm (Nat.lt_succ_iff.mp passed) (Nat.le_of_not_lt early)
        rw [← cleared.tokens] at found
        obtain rfl : token = refused := Option.some.inj (found.symm.trans isCurrent)
        exact ⟨_, rfl⟩

end Parse

namespace Program

open Lexeme

/-- The tokens that are passed until the program is read or an error found. -/
def passed (tokens : List Token) : List Token :=
  tokens.take (Parse.after (Parse.program (.ofTokens tokens))).position

theorem mem_passed {tokens : List Token} {token : Token} :
    token ∈ passed tokens ↔
      ∃ index < (Parse.after (Parse.program (.ofTokens tokens))).position,
        (Cursor.ofTokens tokens).tokens[index]? = some token := by
  rw [passed, List.mem_iff_getElem?]
  constructor
  · rintro ⟨index, found⟩
    rw [List.getElem?_take] at found
    split at found
    · next before => exact ⟨index, before, by simpa [Cursor.ofTokens] using found⟩
    · cases found
  · rintro ⟨index, before, found⟩
    refine ⟨index, ?_⟩
    rw [List.getElem?_take, if_pos before]
    simpa [Cursor.ofTokens] using found

/-- The classes of literals and the decoders agree. Numbers are read; a character or a string is
refused for a backslash in front of a character that it gives no meaning to, and for nothing else.
That the places of a decimal can be counted is taken for granted. -/
theorem literals_decoded {source : String} {tokens : List Token}
    (scanned : Token.scan source = .ok tokens)
    (counted : ∀ token ∈ tokens, IsDecimal token.value.toList →
      (Decimal.ofText? token.value.toList).isSome) :
    (∀ error, ofTokens tokens = .error error →
      (∀ text, error.cause ≠ .badNumber text) ∧
        ∀ text, error.cause = .badLiteral text →
          ∃ token ∈ passed tokens, token.Broken ∧ error = token.refusal) ∧
    (∀ token ∈ tokens, token.Broken →
      (∀ inner cursor, cursor.current? = some token →
        Parse.primary inner cursor = .error token.refusal cursor.next) ∧
      (token ∈ passed tokens → ofTokens tokens = .error token.refusal)) ∧
    ∀ token ∈ tokens, token.kind = .character → ¬ token.Broken →
      ∃ c, Literal.character? token.value.toList = some (.character c) := by
  have shaped := Token.shapes_of_scan scanned
  have readable : ∀ token ∈ (Cursor.ofTokens tokens).tokens, token.Readable := by
    intro token member
    have listed : token ∈ tokens := by simpa [Cursor.ofTokens] using member
    refine ⟨shaped token listed, fun isDecimal => counted token listed ?_⟩
    have text := shaped token listed
    rwa [isDecimal] at text
  have decoded := Parse.decodes_program (.ofTokens tokens) readable
  refine ⟨fun error failed => ?_, fun token member broken => ⟨?_, fun reached => ?_⟩, ?_⟩
  · obtain ⟨last, ran⟩ := ofTokens_eq_error.mp failed
    rw [ran] at decoded
    rcases decoded with ⟨other, -⟩ | ⟨last, token, cleared, found, broken, rfl, rfl⟩
    · exact ⟨fun text same => by simp [same, SyntaxError.Cause.isLiteral] at other,
        fun text same => by simp [same, SyntaxError.Cause.isLiteral] at other⟩
    · refine ⟨fun text same => ?_, fun text _ => ⟨token, mem_passed.mpr ?_, broken, rfl⟩⟩
      · cases same
      refine ⟨last.position, ?_, cleared.tokens ▸ found⟩
      rw [ran]
      exact Nat.lt_succ_self last.position
  · exact fun inner cursor found =>
      Parse.primary_of_broken inner found (shaped token member) broken
  · obtain ⟨index, before, found⟩ := mem_passed.mp reached
    exact ofTokens_eq_error.mpr (decoded.of_broken (Nat.zero_le _) before found broken)
  · intro token member isCharacter whole
    have text := shaped token member
    rw [isCharacter] at text
    rcases Literal.character?_cases text with ⟨bad, -⟩ | ⟨-, c, some⟩
    · exact absurd ⟨.inl isCharacter, bad⟩ whole
    · exact ⟨c, some⟩

end Program

namespace Sample

/-- `val a = 1.50; val b = '\q';` -/
def misquoted : List Token :=
  [⟨.identifier, "val", 0, 3⟩, ⟨.identifier, "a", 4, 5⟩, ⟨.operator, "=", 6, 7⟩,
    ⟨.decimal, "1.50", 8, 12⟩, ⟨.operator, ";", 12, 13⟩, ⟨.identifier, "val", 14, 17⟩,
    ⟨.identifier, "b", 18, 19⟩, ⟨.operator, "=", 20, 21⟩, ⟨.character, "'\\q'", 22, 26⟩,
    ⟨.operator, ";", 26, 27⟩]

theorem misquoted_refused :
    Token.scan "val a = 1.50; val b = '\\q';" = .ok misquoted ∧
      (∀ token ∈ misquoted, Lexeme.IsDecimal token.value.toList →
        (Decimal.ofText? token.value.toList).isSome) ∧
      Program.ofTokens misquoted = .error { cause := .badLiteral "'\\q'", position := 26 } := by
  have scanned : Token.scan "val a = 1.50; val b = '\\q';" = .ok misquoted := by
    with_unfolding_all rfl
  have counted : ∀ token ∈ misquoted, Lexeme.IsDecimal token.value.toList →
      (Decimal.ofText? token.value.toList).isSome := by
    have short : ∀ token ∈ misquoted, token.value.toList.length < Nat.pow 2 63 := by decide
    exact fun token member shaped => Decimal.ofText?_isSome shaped (short token member)
  let token : Token := ⟨.character, "'\\q'", 22, 26⟩
  have member : token ∈ misquoted := by decide
  have inside : token.inside = ['\\', 'q'] := by decide
  have broken : token.Broken := ⟨.inl rfl, inside ▸ .here (by decide)⟩
  have reached : token ∈ Program.passed misquoted := by
    have nine : (Parse.after (Parse.program (.ofTokens misquoted))).position = 9 := by
      with_unfolding_all rfl
    rw [Program.passed, nine]
    decide
  obtain ⟨-, refused, -⟩ := Program.literals_decoded scanned counted
  exact ⟨scanned, counted, (refused token member broken).2 reached⟩

end Sample

end Primer
