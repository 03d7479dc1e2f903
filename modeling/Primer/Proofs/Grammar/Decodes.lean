import Primer.Proofs.Grammar.Ensures
import Primer.Proofs.Grammar.Moves
import Primer.Proofs.Token.Decoding
import Primer.Proofs.Token.Scan

/-! Rules that decode the literals they pass.

Of the tokens that such a rule passes none is a broken literal, except for the last one where the
rule fails for its sake. There is one rule of reasoning for each way to put rules together.
-/

set_option autoImplicit false

namespace Primer

def SyntaxError.Cause.isLiteral : Cause → Bool
  | badNumber _ | badLiteral _ => true
  | _ => false

namespace Token

def inside (token : Token) : List Char :=
  token.value.toList.tail.dropLast

/-- A character or a string with an escape sequence that has no meaning. -/
def Broken (token : Token) : Prop :=
  (token.kind = .character ∨ token.kind = .string) ∧ Text.BadlyEscaped token.inside

def refusal (token : Token) : SyntaxError :=
  { cause := .badLiteral token.value, position := token.stop }

/-- The text belongs to the class of its kind, and the places of a decimal can be counted. -/
structure Readable (token : Token) : Prop where
  shaped : token.kind.Shapes token.value.toList
  counted : token.kind = .decimal → (Decimal.ofText? token.value.toList).isSome

variable {token : Token}

theorem Readable.whole_of_word (readable : token.Readable)
    (listed : token.value ∈ reservedWords ++ punctuation) : ¬ token.Broken := by
  have regular := regular_of_shapes readable.shaped
  rintro ⟨quoted, -⟩
  rcases List.mem_append.mp listed with word | mark
  · simp [regular.word word] at quoted
  · simp [regular.mark mark] at quoted

end Token

namespace Cursor

/-- The second cursor stands in the same tokens, and none of those in front of it is broken, from
the first cursor on. -/
structure Clears (first second : Cursor) : Prop where
  tokens : second.tokens = first.tokens
  whole : ∀ index token, first.position ≤ index → index < second.position →
    first.tokens[index]? = some token → ¬ token.Broken

variable {first second third cursor : Cursor} {token : Token}

theorem Clears.refl (cursor : Cursor) : cursor.Clears cursor :=
  ⟨rfl, fun _ _ _ _ _ => by omega⟩

theorem Clears.trans (front : first.Clears second) (back : second.Clears third) :
    first.Clears third where
  tokens := back.tokens.trans front.tokens
  whole index token from_ before found := by
    by_cases early : index < second.position
    · exact front.whole index token from_ early found
    · rw [← front.tokens] at found
      exact back.whole index token (Nat.le_of_not_lt early) before found

theorem clears_next (found : cursor.current? = some token) (whole : ¬ token.Broken) :
    cursor.Clears cursor.next where
  tokens := rfl
  whole index other from_ before isOther := by
    obtain rfl : index = cursor.position := Nat.le_antisymm (Nat.lt_succ_iff.mp before) from_
    obtain rfl : token = other := Option.some.inj (found.symm.trans isOther)
    exact whole

theorem offset_next (found : cursor.current? = some token) : cursor.next.offset = token.stop := by
  change (cursor.tokens[cursor.position]?.map Token.stop).getD 0 = token.stop
  have here : cursor.tokens[cursor.position]? = some token := found
  rw [here]
  rfl

end Cursor

namespace Parse

variable {α β σ : Type}

/-- What came of a rule that began at the cursor. The tokens passed are not broken, unless the rule
has refused the last of them. -/
def Decoded (cursor : Cursor) : EStateM.Result SyntaxError Cursor α → Prop
  | .ok _ after => cursor.Clears after
  | .error error after =>
    (error.cause.isLiteral = false ∧ cursor.Clears after) ∨
      ∃ last token, cursor.Clears last ∧ last.current? = some token ∧ token.Broken ∧
        error = token.refusal ∧ after = last.next

/-- Among readable tokens the rule refuses the broken literals that it passes, and no others. -/
def Decodes (rule : Parse α) : Prop :=
  ∀ cursor : Cursor, (∀ token ∈ cursor.tokens, token.Readable) → Decoded cursor (rule cursor)

theorem Decoded.behind {first second : Cursor} (front : first.Clears second)
    {result : EStateM.Result SyntaxError Cursor α} (back : Decoded second result) :
    Decoded first result := by
  cases result with
  | ok value after => exact front.trans back
  | error error after =>
    rcases back with ⟨other, cleared⟩ | ⟨last, token, cleared, refused⟩
    · exact .inl ⟨other, front.trans cleared⟩
    · exact .inr ⟨last, token, front.trans cleared, refused⟩

theorem Decoded.bind {rule : Parse α} {next : α → Parse β} {cursor : Cursor}
    (first : Decoded cursor (rule cursor))
    (rest : ∀ value after, rule cursor = .ok value after → cursor.Clears after →
      Decoded after (next value after)) : Decoded cursor ((rule >>= next) cursor) := by
  change Decoded cursor (EStateM.bind rule next cursor)
  unfold EStateM.bind
  cases ran : rule cursor with
  | ok value after =>
    rw [ran] at first
    exact (rest value after ran first).behind first
  | error error after =>
    rw [ran] at first
    exact first

section rules

variable {rule : Parse α} {text : String}

theorem Decodes.bind {next : α → Parse β} (first : Decodes rule)
    (rest : ∀ value, Decodes (next value)) : Decodes (rule >>= next) := by
  intro cursor readable
  refine (first cursor readable).bind fun value after _ cleared => ?_
  exact rest value after (cleared.tokens ▸ readable)

theorem decodes_pure (value : α) : Decodes (pure value : Parse α) :=
  fun cursor _ => Cursor.Clears.refl cursor

theorem Decodes.discard (decodes : Decodes rule) : Decodes (discard rule) :=
  decodes.bind fun _ => decodes_pure _

theorem decodes_fail {cause : SyntaxError.Cause} (other : cause.isLiteral = false) :
    Decodes (fail cause : Parse α) :=
  fun cursor _ => .inl ⟨other, .refl cursor⟩

theorem decodes_throw {error : SyntaxError} (other : error.cause.isLiteral = false) :
    Decodes (throw error : Parse α) :=
  fun cursor _ => .inl ⟨other, .refl cursor⟩

theorem decodes_look (answer : Cursor → α) : Decodes (do return answer (← get)) :=
  fun cursor _ => Cursor.Clears.refl cursor

theorem decodes_current? : Decodes current? :=
  decodes_look Cursor.current?

theorem decodes_peek (text : String) : Decodes (peek text) :=
  decodes_look fun cursor => cursor.isAt text

theorem decodes_expectedExpression : Decodes (expectedExpression : Parse α) :=
  (decodes_look Cursor.describe).bind fun _ => decodes_fail rfl

theorem decodes_expected (wanted : String) : Decodes (expected wanted : Parse α) :=
  (decodes_look Cursor.describe).bind fun _ => decodes_fail rfl

theorem decoded_advance {cursor : Cursor} {token : Token} (found : cursor.current? = some token)
    (whole : ¬ token.Broken) : Decoded cursor (advance cursor) := by
  rw [advance_eq found]
  exact Cursor.clears_next found whole

theorem whole_of_isAt {cursor : Cursor} (readable : ∀ token ∈ cursor.tokens, token.Readable)
    (listed : text ∈ Token.reservedWords ++ Token.punctuation) (isAt : cursor.isAt text = true) :
    ∃ token, cursor.current? = some token ∧ ¬ token.Broken := by
  obtain ⟨token, found, rfl⟩ := Cursor.of_isAt isAt
  exact ⟨token, found, (readable token (Array.mem_of_getElem? found)).whole_of_word listed⟩

theorem decodes_accept (listed : text ∈ Token.reservedWords ++ Token.punctuation) :
    Decodes (accept text) := by
  intro cursor readable
  rw [← bind_pure (accept text), bind_accept]
  cases isAt : cursor.isAt text with
  | false => exact Cursor.Clears.refl cursor
  | true =>
    obtain ⟨token, found, whole⟩ := whole_of_isAt readable listed isAt
    exact Cursor.clears_next found whole

theorem decodes_expect (listed : text ∈ Token.reservedWords ++ Token.punctuation) :
    Decodes (expect text) := by
  intro cursor readable
  change Decoded cursor ((if cursor.isAt text then advance else expected text) cursor)
  cases isAt : cursor.isAt text with
  | false => exact decodes_expected text cursor readable
  | true =>
    obtain ⟨token, found, whole⟩ := whole_of_isAt readable listed isAt
    exact decoded_advance found whole

theorem decodes_ended (listed : text ∈ Token.reservedWords ++ Token.punctuation) (value : α) :
    Decodes (do discard (expect text); return value) :=
  (decodes_expect listed).discard.bind fun _ => decodes_pure value

theorem decodes_identifier : Decodes identifier := by
  intro cursor readable
  unfold identifier
  rw [bind_current?]
  cases found : cursor.current? with
  | none => exact decodes_expected "identifier" cursor readable
  | some token =>
    cases isName : token.isName with
    | false =>
      simp only [isName]
      exact decodes_expected "identifier" cursor readable
    | true =>
      simp only [isName, if_true]
      have whole : ¬ token.Broken := by
        rintro ⟨quoted, -⟩
        simp only [Token.isName, Bool.and_eq_true, beq_iff_eq] at isName
        simp [isName.1] at quoted
      exact (decoded_advance found whole).bind fun _ after _ _ => Cursor.Clears.refl after

end rules

theorem decodes_nested {rule : Parse α → Parse α}
    (step : ∀ inner : Parse α, Decodes inner → Decodes (rule inner)) : Decodes (nested rule) :=
  nested_induction (motive := fun cursor outcome =>
    (∀ token ∈ cursor.tokens, token.Readable) → Decoded cursor outcome)
    decodes_expectedExpression step

theorem decodes_iterate {step : σ → Parse (σ ⊕ β)} (steps : ∀ state, Decodes (step state))
    (state : σ) : Decodes (iterate step state) := by
  apply iterate_induction (motive := fun _ cursor outcome =>
    (∀ token ∈ cursor.tokens, token.Readable) → Decoded cursor outcome)
  · exact fun _ => decodes_expectedExpression
  · intro state cursor error after stepped readable
    have decoded := steps state cursor readable
    rwa [stepped] at decoded
  · intro state cursor result after stepped readable
    have decoded := steps state cursor readable
    rwa [stepped] at decoded
  · intro state cursor later middle outcome stepped rest readable
    have decoded := steps state cursor readable
    rw [stepped] at decoded
    have onwards : ∀ token ∈ middle.tokens, token.Readable := decoded.tokens ▸ readable
    exact (rest onwards).behind decoded

theorem decodes_collect {item? : Parse (Option α)} (items : Decodes item?) :
    Decodes (collect item?) := by
  refine decodes_iterate (fun found => ?_) []
  refine items.bind fun next => ?_
  cases next <;> exact decodes_pure _

theorem decodes_separated {item : Parse α} (items : Decodes item) {close : String}
    (listed : close ∈ Token.reservedWords ++ Token.punctuation) :
    Decodes (separated item close) := by
  refine (decodes_accept listed).bind fun closed => ?_
  cases closed with
  | true => exact decodes_pure _
  | false =>
    refine decodes_iterate (fun found => ?_) []
    refine items.bind fun next => (decodes_accept (by decide)).bind fun more => ?_
    cases more with
    | true =>
      refine (decodes_peek close).bind fun trailing => ?_
      cases trailing with
      | true =>
        have refused : Decodes (fail .trailingComma : Parse Unit) := decodes_fail rfl
        exact refused.bind fun _ => decodes_pure _
      | false => exact decodes_pure _
    | false => exact decodes_ended listed _

end Parse

end Primer
