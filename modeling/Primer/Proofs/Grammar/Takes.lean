import Primer.Proofs.Grammar.Ensures
import Primer.Proofs.Grammar.Phrase
import Primer.Proofs.Token.Scan

/-! Rules of the grammar take phrases.

When a rule returns, it has taken some tokens off the front of what is ahead, and these tokens with
the value are a phrase. There is one rule of reasoning for each way to put rules together.
-/

set_option autoImplicit false

namespace Primer

namespace Cursor

def ahead (cursor : Cursor) : List Token :=
  cursor.tokens.toList.drop cursor.position

def skip (cursor : Cursor) (count : Nat) : Cursor :=
  { cursor with position := cursor.position + count }

variable {cursor : Cursor} {taken rest : List Token} {token : Token}

@[simp] theorem skip_skip (cursor : Cursor) (first second : Nat) :
    (cursor.skip first).skip second = cursor.skip (first + second) := by
  simp [skip, Nat.add_assoc]

theorem ahead_skip (cursor : Cursor) (count : Nat) :
    (cursor.skip count).ahead = cursor.ahead.drop count := by
  simp [ahead, skip]

theorem ahead_skip_length (split : cursor.ahead = taken ++ rest) :
    (cursor.skip taken.length).ahead = rest := by
  rw [ahead_skip, split, List.drop_left]

@[simp] theorem length_ahead (cursor : Cursor) : cursor.ahead.length = cursor.remaining := by
  simp [ahead, remaining]

@[simp] theorem ahead_ofTokens (tokens : List Token) : (ofTokens tokens).ahead = tokens := by
  simp [ahead, ofTokens]

theorem head?_ahead (cursor : Cursor) : cursor.ahead.head? = cursor.current? := by
  simp [ahead, current?]

theorem ahead_eq_cons (found : cursor.current? = some token) :
    cursor.ahead = token :: cursor.next.ahead := by
  have isHead : cursor.ahead.head? = some token := by rw [head?_ahead, found]
  obtain ⟨rest, isAhead⟩ := List.head?_eq_some_iff.mp isHead
  have behind : cursor.next.ahead = rest := @ahead_skip_length cursor [token] rest isAhead
  rw [behind, isAhead]

theorem of_isAt {text : String} (found : cursor.isAt text = true) :
    ∃ token, cursor.current? = some token ∧ token.value = text := by
  unfold isAt at found
  cases isCurrent : cursor.current? with
  | none => simp [isCurrent] at found
  | some token => exact ⟨token, rfl, by simpa [isCurrent] using found⟩

end Cursor

namespace Parse

variable {α β : Type}

/-- Whenever the rule returns a value, the tokens that it took spell the value. -/
def Takes (rule : Parse α) (phrase : List Token → α → Prop) : Prop :=
  ∀ cursor, (∀ token ∈ cursor.ahead, token.Regular) → ∀ value after,
    rule cursor = .ok value after →
      ∃ taken, cursor.ahead = taken ++ after.ahead ∧ after = cursor.skip taken.length ∧
        phrase taken value

variable {rule : Parse α} {phrase : List Token → α → Prop}

theorem ahead_append {cursor middle after : Cursor} {front back : List Token}
    (split : cursor.ahead = front ++ middle.ahead) (isMiddle : middle = cursor.skip front.length)
    (also : middle.ahead = back ++ after.ahead) (isAfter : after = middle.skip back.length) :
    cursor.ahead = front ++ back ++ after.ahead ∧ after = cursor.skip (front ++ back).length := by
  constructor
  · rw [split, also, List.append_assoc]
  · rw [isAfter, isMiddle, Cursor.skip_skip, List.length_append]

/-! ### Steps -/

namespace Takes

theorem mono {wider : List Token → α → Prop} (takes : Takes rule phrase)
    (widen : ∀ taken value, (∀ token ∈ taken, token.Regular) → phrase taken value →
      wider taken value) : Takes rule wider := by
  intro cursor regular value after ran
  obtain ⟨taken, split, isAfter, holds⟩ := takes cursor regular value after ran
  refine ⟨taken, split, isAfter, widen taken value (fun token member => ?_) holds⟩
  exact regular token (split ▸ List.mem_append_left _ member)

/-- The second rule takes what completes the phrase of the first. -/
theorem bind {next : α → Parse β} {whole : List Token → β → Prop} (first : Takes rule phrase)
    (rest : ∀ front value, phrase front value →
      Takes (next value) fun back result => whole (front ++ back) result) :
    Takes (rule >>= next) whole := by
  intro cursor regular result after ran
  obtain ⟨value, middle, firstRan, restRan⟩ := EStateM.bind_eq_ok.mp ran
  obtain ⟨front, split, isMiddle, holds⟩ := first cursor regular value middle firstRan
  have behind : ∀ token ∈ middle.ahead, token.Regular :=
    fun token member => regular token (split ▸ List.mem_append_right _ member)
  obtain ⟨back, also, isAfter, done⟩ := rest front value holds middle behind result after restRan
  obtain ⟨whole, isLast⟩ := ahead_append split isMiddle also isAfter
  exact ⟨front ++ back, whole, isLast, done⟩

end Takes

theorem takes_pure {value : α} (holds : phrase [] value) : Takes (pure value : Parse α) phrase := by
  rintro cursor - _ _ ⟨rfl⟩
  exact ⟨[], rfl, rfl, holds⟩

def Refuses (rule : Parse α) : Prop :=
  ∀ cursor value after, rule cursor ≠ .ok value after

theorem refuses_fail (cause : SyntaxError.Cause) : Refuses (fail cause : Parse α) := nofun

theorem refuses_throw (error : SyntaxError) : Refuses (throw error : Parse α) := nofun

theorem refuses_expectedExpression : Refuses (expectedExpression : Parse α) := nofun

theorem refuses_expected (wanted : String) : Refuses (expected wanted : Parse α) := nofun

theorem Refuses.takes (refuses : Refuses rule) : Takes rule phrase :=
  fun cursor _ value after ran => absurd ran (refuses cursor value after)

theorem Refuses.bind {next : α → Parse β} {whole : List Token → β → Prop}
    (refuses : Refuses rule) : Takes (rule >>= next) whole := by
  intro cursor _ result after ran
  obtain ⟨value, middle, firstRan, -⟩ := EStateM.bind_eq_ok.mp ran
  exact absurd firstRan (refuses cursor value middle)

def Looks (rule : Parse α) : Prop :=
  ∀ cursor value after, rule cursor = .ok value after → after = cursor

theorem Looks.bind {next : α → Parse β} {whole : List Token → β → Prop} (looks : Looks rule)
    (rest : ∀ value, Takes (next value) whole) : Takes (rule >>= next) whole := by
  have nothing : Takes rule fun taken _ => taken = [] := by
    intro cursor _ value after ran
    cases looks cursor value after ran
    exact ⟨[], rfl, rfl, rfl⟩
  refine nothing.bind fun front value isNothing => ?_
  subst isNothing
  exact rest value

theorem looks_get : Looks (get : Parse Cursor) := by
  rintro cursor _ _ ⟨rfl⟩
  rfl

theorem looks_current? : Looks current? := by
  rintro cursor _ _ ⟨rfl⟩
  rfl

theorem looks_peek (text : String) : Looks (peek text) := by
  rintro cursor _ _ ⟨rfl⟩
  rfl

theorem takes_advance : Takes advance fun taken token => taken = [token] := by
  intro cursor _ token after ran
  obtain ⟨found, rfl⟩ := advance_eq_ok ran
  exact ⟨[token], Cursor.ahead_eq_cons found, rfl, rfl⟩

theorem takes_accept (text : String) : Takes (accept text) fun taken accepted =>
    if accepted then ∃ token, taken = [token] ∧ token.value = text else taken = [] := by
  intro cursor _ accepted after ran
  unfold accept at ran
  obtain ⟨found, _, ⟨rfl⟩, ran⟩ := EStateM.bind_eq_ok.mp ran
  cases isAt : cursor.isAt text with
  | true =>
    rw [isAt] at ran
    obtain ⟨_, _, ⟨rfl⟩, ⟨rfl⟩⟩ := EStateM.bind_eq_ok.mp ran
    obtain ⟨token, found, isText⟩ := Cursor.of_isAt isAt
    exact ⟨[token], Cursor.ahead_eq_cons found, rfl, token, rfl, isText⟩
  | false =>
    rw [isAt] at ran
    cases ran
    exact ⟨[], rfl, rfl, rfl⟩

theorem Takes.accept {text : String} {next : Bool → Parse α}
    (given : ∀ token : Token, token.value = text →
      Takes (next true) fun taken value => phrase (token :: taken) value)
    (missing : Takes (next false) phrase) : Takes (accept text >>= next) phrase := by
  refine (takes_accept text).bind fun front accepted took => ?_
  cases accepted with
  | true =>
    obtain ⟨token, rfl, isText⟩ := took
    exact given token isText
  | false =>
    cases took
    exact missing

theorem takes_expect (text : String) : Takes (expect text) fun taken token =>
    taken = [token] ∧ token.value = text := by
  intro cursor regular token after ran
  unfold expect at ran
  obtain ⟨found, _, ⟨rfl⟩, ran⟩ := EStateM.bind_eq_ok.mp ran
  cases isAt : cursor.isAt text with
  | true =>
    rw [isAt] at ran
    obtain ⟨taken, split, isAfter, rfl⟩ := takes_advance cursor regular token after ran
    obtain ⟨found, rfl⟩ := advance_eq_ok ran
    obtain ⟨other, also, isText⟩ := Cursor.of_isAt isAt
    rw [found] at also
    cases also
    exact ⟨[token], split, isAfter, rfl, isText⟩
  | false =>
    rw [isAt] at ran
    cases ran

theorem Takes.expect {text : String} {next : Unit → Parse α}
    (rest : ∀ token : Token, token.value = text →
      Takes (next ()) fun taken value => phrase (token :: taken) value) :
    Takes (discard (expect text) >>= next) phrase := by
  have taken : Takes (discard (Parse.expect text)) fun taken _ =>
      ∃ token, taken = [token] ∧ token.value = text :=
    (takes_expect text).bind fun front token took => takes_pure ⟨token, by simp [took.1], took.2⟩
  refine taken.bind fun front _ took => ?_
  obtain ⟨token, rfl, isText⟩ := took
  exact rest token isText

theorem takes_identifier : Takes identifier fun taken name =>
    ∃ token : Token, taken = [token] ∧ token.isName = true ∧ name = token.value := by
  intro cursor regular name after ran
  obtain ⟨token, found, isName, isValue, isAfter⟩ := identifier_eq_ok ran
  refine ⟨[token], ?_, isAfter, token, rfl, isName, isValue⟩
  rw [isAfter]
  exact Cursor.ahead_eq_cons found

theorem Takes.identifier {next : String → Parse α}
    (rest : ∀ token : Token, token.isName = true →
      Takes (next token.value) fun taken value => phrase (token :: taken) value) :
    Takes (identifier >>= next) phrase := by
  refine takes_identifier.bind fun front name took => ?_
  obtain ⟨token, rfl, isName, rfl⟩ := took
  exact rest token isName

/-! ### Repetition -/

theorem takes_nested {rule : Parse α → Parse α}
    (step : ∀ inner : Parse α, Takes inner phrase → Takes (rule inner) phrase) :
    Takes (nested rule) phrase :=
  nested_induction (motive := fun cursor outcome => (∀ token ∈ cursor.ahead, token.Regular) →
    ∀ value after, outcome = .ok value after → ∃ taken, cursor.ahead = taken ++ after.ahead ∧
      after = cursor.skip taken.length ∧ phrase taken value)
    refuses_expectedExpression.takes step

/-- What a repetition takes from a state on: what its first step takes, then what it takes from the
next state on. -/
theorem takes_iterate {σ : Type} {step : σ → Parse (σ ⊕ β)} {good : σ → List Token → β → Prop}
    (steps : ∀ state, Takes (step state) fun taken outcome =>
      match outcome with
      | .inl later => ∀ more result, good later more result → good state (taken ++ more) result
      | .inr result => good state taken result)
    (state : σ) : Takes (iterate step state) (good state) := by
  apply iterate_induction (motive := fun state cursor outcome =>
    (∀ token ∈ cursor.ahead, token.Regular) → ∀ value after, outcome = .ok value after →
      ∃ taken, cursor.ahead = taken ++ after.ahead ∧ after = cursor.skip taken.length ∧
        good state taken value)
  · exact fun _ => refuses_expectedExpression.takes
  · rintro state cursor error after - - value last ⟨⟩
  · rintro state cursor result after stepped regular _ _ ⟨rfl⟩
    exact steps state cursor regular _ after stepped
  · intro state cursor later middle outcome stepped rest regular value after isOutcome
    obtain ⟨front, split, isMiddle, holds⟩ := steps state cursor regular _ middle stepped
    -- What is ahead of the next round is part of what is ahead now.
    have behind : ∀ token ∈ middle.ahead, token.Regular :=
      fun token member => regular token (split ▸ List.mem_append_right _ member)
    obtain ⟨back, also, isAfter, done⟩ := rest behind value after isOutcome
    obtain ⟨whole, isLast⟩ := ahead_append split isMiddle also isAfter
    exact ⟨front ++ back, whole, isLast, holds back value done⟩

open Phrase

theorem takes_collect {item? : Parse (Option α)} {item : List Token → α → Prop}
    (items : Takes item? (Perhaps item)) : Takes (collect item?) (Many item) := by
  refine (@takes_iterate _ _ _ (fun (found : List α) taken result =>
    ∃ values, result = found.reverse ++ values ∧ Many item taken values) ?_ []).mono ?_
  · intro found
    refine items.bind fun front next took => ?_
    cases took with
    | none => exact takes_pure ⟨[], by simp, .nil⟩
    | some given =>
      refine takes_pure fun more result holds => ?_
      obtain ⟨values, rfl, many⟩ := holds
      rw [List.append_nil]
      exact ⟨_ :: values, by simp, .cons given many⟩
  · rintro taken _ - ⟨values, rfl, many⟩
    exact many

theorem takes_separated {item : Parse α} (items : Takes item phrase) (close : String) :
    Takes (separated item close) (Enclosed phrase close) := by
  refine Takes.accept (fun token closes => takes_pure (.none closes)) ?_
  refine (@takes_iterate _ _ _ (fun (found : List α) taken result =>
    ∃ values, result = found.reverse ++ values ∧ Items phrase close taken values) ?_ []).mono ?_
  · intro found
    refine items.bind fun front value spells => ?_
    refine Takes.accept (fun comma isComma => ?_) ?_
    · refine (looks_peek close).bind fun trailing => ?_
      cases trailing with
      | true => exact (refuses_fail .trailingComma).bind
      | false =>
        refine takes_pure fun more result holds => ?_
        obtain ⟨values, rfl, listed⟩ := holds
        exact ⟨value :: values, by simp, by simpa using .more spells isComma listed⟩
    · refine Takes.expect fun closing closes => ?_
      exact takes_pure ⟨[value], by simp, .last spells closes⟩
  · rintro taken _ - ⟨values, rfl, listed⟩
    exact .some listed

end Parse

end Primer
