import Primer.Proofs.Grammar.Rounds
import Primer.Proofs.Success

/-! Postconditions of rules of the grammar.

When every token has a certain property, a rule ensures something of what it returns. There is one
rule of reasoning for each way to put rules together; that a repetition ends is not looked at again.
-/

set_option autoImplicit false

namespace Primer.Parse

variable {α β : Type}

/-- What a rule returns is good, as long as all tokens are `fair`; the tokens stay what they are. -/
def Ensures (fair : Token → Prop) (rule : Parse α) (good : α → Prop) : Prop :=
  ∀ cursor, (∀ token ∈ cursor.tokens, fair token) → ∀ value after,
    rule cursor = .ok value after → after.tokens = cursor.tokens ∧ good value

variable {fair : Token → Prop} {good : α → Prop}

namespace Ensures

variable {rule : Parse α}

theorem mono {weaker : α → Prop} (ensures : Ensures fair rule good)
    (weaken : ∀ value, good value → weaker value) : Ensures fair rule weaker := by
  intro cursor all value after ran
  obtain ⟨same, holds⟩ := ensures cursor all value after ran
  exact ⟨same, weaken value holds⟩

theorem bind {next : α → Parse β} {better : β → Prop} (first : Ensures fair rule good)
    (rest : ∀ value, good value → Ensures fair (next value) better) :
    Ensures fair (rule >>= next) better := by
  intro cursor all result after ran
  obtain ⟨value, middle, firstRan, restRan⟩ := EStateM.bind_eq_ok.mp ran
  obtain ⟨same, holds⟩ := first cursor all value middle firstRan
  obtain ⟨also, done⟩ := rest value holds middle (same ▸ all) result after restRan
  exact ⟨also.trans same, done⟩

end Ensures

theorem ensures_pure {value : α} (holds : good value) :
    Ensures fair (pure value : Parse α) good := by
  rintro cursor - _ _ ⟨rfl⟩
  exact ⟨rfl, holds⟩

theorem ensures_fail (cause : SyntaxError.Cause) : Ensures fair (fail cause : Parse α) good := by
  rintro cursor - _ _ ⟨⟩

theorem ensures_throw (error : SyntaxError) : Ensures fair (throw error : Parse α) good := by
  rintro cursor - _ _ ⟨⟩

theorem ensures_get : Ensures fair (get : Parse Cursor) fun _ => True := by
  rintro cursor - _ _ ⟨rfl⟩
  exact ⟨rfl, trivial⟩

theorem ensures_next : Ensures fair (modify Cursor.next : Parse Unit) fun _ => True := by
  rintro cursor - _ _ ⟨rfl⟩
  exact ⟨rfl, trivial⟩

theorem ensures_describe : Ensures fair describe fun _ => True :=
  ensures_get.bind fun _ _ => ensures_pure trivial

theorem ensures_expectedExpression : Ensures fair (expectedExpression : Parse α) good :=
  ensures_describe.bind fun _ _ => ensures_fail _

theorem ensures_expected (wanted : String) : Ensures fair (expected wanted : Parse α) good :=
  ensures_describe.bind fun _ _ => ensures_fail _

theorem ensures_current? : Ensures fair current? fun found => ∀ token, found = some token →
    fair token := by
  rintro cursor all _ _ ⟨rfl⟩
  refine ⟨rfl, fun token found => all token ?_⟩
  exact Array.mem_of_getElem? found

theorem ensures_peek (text : String) : Ensures fair (peek text) fun _ => True :=
  ensures_get.bind fun _ _ => ensures_pure trivial

theorem advance_eq {cursor : Cursor} {token : Token} (found : cursor.current? = some token) :
    advance cursor = .ok token cursor.next := by
  have looked : current? cursor = .ok (some token) cursor :=
    congrArg (EStateM.Result.ok · cursor) found
  exact EStateM.bind_eq_ok.mpr ⟨some token, cursor, looked, rfl⟩

theorem advance_eq_ok {cursor after : Cursor} {token : Token}
    (ran : advance cursor = .ok token after) :
    cursor.current? = some token ∧ after = cursor.next := by
  unfold advance at ran
  obtain ⟨found, _, ⟨rfl⟩, ran⟩ := EStateM.bind_eq_ok.mp ran
  cases found : cursor.current? with
  | none =>
    rw [found] at ran
    cases ran
  | some current =>
    rw [found] at ran
    obtain ⟨_, _, ⟨rfl⟩, ⟨rfl⟩⟩ := EStateM.bind_eq_ok.mp ran
    exact ⟨rfl, rfl⟩

theorem identifier_eq_ok {cursor after : Cursor} {name : String}
    (ran : identifier cursor = .ok name after) :
    ∃ token, cursor.current? = some token ∧ token.isName = true ∧ name = token.value ∧
      after = cursor.next := by
  unfold identifier at ran
  obtain ⟨found, _, ⟨rfl⟩, ran⟩ := EStateM.bind_eq_ok.mp ran
  cases found : cursor.current? with
  | none =>
    rw [found] at ran
    cases ran
  | some token =>
    rw [found] at ran
    cases isName : token.isName with
    | false =>
      simp only [isName] at ran
      cases ran
    | true =>
      simp only [isName, if_true] at ran
      obtain ⟨read, middle, advanced, ⟨rfl⟩⟩ := EStateM.bind_eq_ok.mp ran
      obtain ⟨also, rfl⟩ := advance_eq_ok advanced
      cases found.symm.trans also
      exact ⟨token, rfl, isName, rfl, rfl⟩

theorem ensures_advance : Ensures fair advance fair := by
  refine ensures_current?.bind fun found all => ?_
  cases found with
  | none => exact ensures_expectedExpression
  | some token => exact ensures_next.bind fun _ _ => ensures_pure (all token rfl)

theorem ensures_accept (text : String) : Ensures fair (accept text) fun _ => True := by
  refine (ensures_peek text).bind fun found _ => ?_
  cases found with
  | true => exact ensures_next.bind fun _ _ => ensures_pure trivial
  | false => exact ensures_pure trivial

theorem ensures_expect (text : String) : Ensures fair (expect text) fun _ => True := by
  refine (ensures_peek text).bind fun found _ => ?_
  cases found with
  | true => exact ensures_advance.mono fun _ _ => trivial
  | false => exact ensures_expected text

theorem ensures_discard {rule : Parse α} (ensures : Ensures fair rule good) :
    Ensures fair (discard rule) fun _ => True :=
  ensures.bind fun _ _ => ensures_pure trivial

theorem ensures_nested {rule : Parse α → Parse α}
    (step : ∀ inner : Parse α, Ensures fair inner good → Ensures fair (rule inner) good) :
    Ensures fair (nested rule) good :=
  nested_induction (motive := fun cursor outcome => (∀ token ∈ cursor.tokens, fair token) →
    ∀ value after, outcome = .ok value after → after.tokens = cursor.tokens ∧ good value)
    ensures_expectedExpression step

theorem ensures_iterate {σ : Type} {step : σ → Parse (σ ⊕ β)} {motive : σ → Prop}
    {better : β → Prop}
    (steps : ∀ state, motive state → Ensures fair (step state) (Sum.elim motive better))
    {state : σ} (start : motive state) : Ensures fair (iterate step state) better := by
  suffices kept : ∀ state cursor, motive state → (∀ token ∈ cursor.tokens, fair token) →
      ∀ value after, iterate step state cursor = .ok value after →
        after.tokens = cursor.tokens ∧ better value from fun cursor => kept state cursor start
  apply iterate_induction (motive := fun state cursor outcome =>
    motive state → (∀ token ∈ cursor.tokens, fair token) →
      ∀ value after, outcome = .ok value after → after.tokens = cursor.tokens ∧ better value)
  · exact fun _ cursor _ => ensures_expectedExpression cursor
  · rintro state cursor error after - - - value last ⟨⟩
  · rintro state cursor result after stepped holds all _ _ ⟨rfl⟩
    exact steps state holds cursor all _ after stepped
  · intro state cursor later middle outcome stepped rest holds all value after isOutcome
    obtain ⟨same, next⟩ := steps state holds cursor all _ middle stepped
    obtain ⟨also, done⟩ := rest next (same ▸ all) value after isOutcome
    exact ⟨also.trans same, done⟩

theorem ensures_collect {item? : Parse (Option α)}
    (items : Ensures fair item? fun found => ∀ item, found = some item → good item) :
    Ensures fair (collect item?) fun found => ∀ item ∈ found, good item := by
  refine ensures_iterate (motive := fun found : List α => ∀ item ∈ found, good item) ?_ nofun
  intro found all
  refine items.bind fun next holds => ?_
  cases next with
  | none => exact ensures_pure fun item member => all item (List.mem_reverse.mp member)
  | some next =>
    refine ensures_pure fun item member => ?_
    rcases List.mem_cons.mp member with rfl | member
    · exact holds item rfl
    · exact all item member

theorem ensures_separated {item : Parse α} (items : Ensures fair item good) (close : String) :
    Ensures fair (separated item close) fun found => ∀ item ∈ found, good item := by
  refine (ensures_accept close).bind fun closed _ => ?_
  cases closed with
  | true => exact ensures_pure nofun
  | false =>
    refine ensures_iterate (motive := fun found : List α => ∀ item ∈ found, good item) ?_ nofun
    intro found all
    refine items.bind fun next holds => ?_
    have longer : ∀ item ∈ next :: found, good item := by
      intro item member
      rcases List.mem_cons.mp member with rfl | member
      · exact holds
      · exact all item member
    refine (ensures_accept ",").bind fun more _ => ?_
    cases more with
    | true =>
      refine (ensures_peek close).bind fun trailing _ => ?_
      cases trailing with
      | true =>
        have refused : Ensures fair (fail .trailingComma : Parse Unit) fun _ => True :=
          ensures_fail _
        exact refused.bind fun _ _ => ensures_pure longer
      | false => exact ensures_pure longer
    | false =>
      refine (ensures_discard (ensures_expect close)).bind fun _ _ => ?_
      exact ensures_pure fun item member => longer item (List.mem_reverse.mp member)

end Primer.Parse
