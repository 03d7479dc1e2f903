import Primer.Proofs.Grammar.Rounds
import Primer.Proofs.Grammar.Takes

/-! How far rules of the grammar move the cursor, and how far they look.

A rule goes on through the tokens and not past their end, whether it returns or fails. Where it
returns it has passed at least so many tokens; where it fails the error shows at the end of the
last token that it passed. It looks at no token behind the one where it stands in the end: on
another list with the same tokens up to there it does the same. Since rules contain rules, two of
them are compared at a time, each on a list of its own.
-/

set_option autoImplicit false

namespace Primer

namespace Cursor

variable {first second third cursor : Cursor} {count more : Nat}

def Within (cursor : Cursor) : Prop :=
  cursor.position ≤ cursor.tokens.size

/-- The second cursor stands in the same tokens, at least `count` of them further on. -/
structure Reaches (count : Nat) (first second : Cursor) : Prop where
  tokens : second.tokens = first.tokens
  onwards : first.position + count ≤ second.position
  within : second.Within

theorem Reaches.refl (within : cursor.Within) : Reaches 0 cursor cursor :=
  ⟨rfl, Nat.le_refl _, within⟩

theorem Reaches.trans (front : Reaches count first second) (back : Reaches more second third) :
    Reaches (count + more) first third where
  tokens := back.tokens.trans front.tokens
  onwards := by
    have start := front.onwards
    have rest := back.onwards
    omega
  within := back.within

theorem Reaches.mono (reaches : Reaches more first second) (less : count ≤ more) :
    Reaches count first second :=
  { reaches with onwards := Nat.le_trans (Nat.add_le_add_left less _) reaches.onwards }

theorem reaches_next {token : Token} (found : cursor.current? = some token) :
    Reaches 1 cursor cursor.next where
  tokens := rfl
  onwards := Nat.le_refl _
  within := (Array.getElem?_eq_some_iff.mp found).1

theorem reaches_of_isAt {text : String} (found : cursor.isAt text = true) :
    Reaches 1 cursor cursor.next := by
  obtain ⟨token, isCurrent, -⟩ := of_isAt found
  exact reaches_next isCurrent

/-- The offset behind a token is the end of the last one passed. -/
theorem offset_mem (within : cursor.Within) (passed : 0 < cursor.position) :
    ∃ token ∈ cursor.tokens, cursor.offset = token.stop := by
  obtain ⟨tokens, position⟩ := cursor
  cases position with
  | zero => cases passed
  | succ previous =>
    have inside : previous < tokens.size := within
    exact ⟨tokens[previous], Array.getElem_mem inside, by simp [offset, inside]⟩

/-! ### Other tokens -/

def on (cursor : Cursor) (tokens : Array Token) : Cursor :=
  { cursor with tokens }

/-- The other list has the same tokens in front of the cursor and at it, or ends there as well. -/
def Shares (cursor : Cursor) (tokens : Array Token) : Prop :=
  ∀ index ≤ cursor.position, tokens[index]? = cursor.tokens[index]?

section shares

variable {tokens : Array Token}

theorem shares_self (cursor : Cursor) : cursor.Shares cursor.tokens :=
  fun _ _ => rfl

theorem Shares.earlier (shares : second.Shares tokens) (reaches : Reaches count first second) :
    first.Shares tokens := by
  intro index before
  have onwards := reaches.onwards
  rw [shares index (by omega), reaches.tokens]

theorem Shares.current? (shares : cursor.Shares tokens) :
    (cursor.on tokens).current? = cursor.current? :=
  shares cursor.position (Nat.le_refl _)

theorem Shares.isAt (shares : cursor.Shares tokens) (text : String) :
    (cursor.on tokens).isAt text = cursor.isAt text := by
  unfold Cursor.isAt
  rw [shares.current?]

theorem Shares.describe (shares : cursor.Shares tokens) :
    (cursor.on tokens).describe = cursor.describe := by
  unfold Cursor.describe
  rw [shares.current?]

theorem Shares.offset (shares : cursor.Shares tokens) :
    (cursor.on tokens).offset = cursor.offset := by
  obtain ⟨own, position⟩ := cursor
  cases position with
  | zero => rfl
  | succ previous =>
    have token : tokens[previous]? = own[previous]? := shares previous (Nat.le_succ previous)
    change (tokens[previous]?.map Token.stop).getD 0 = (own[previous]?.map Token.stop).getD 0
    rw [token]

theorem Shares.lt_size (shares : cursor.Shares tokens) (within : cursor.Within) {index : Nat}
    (passed : index < cursor.position) : index < tokens.size := by
  have inside : index < cursor.tokens.size := Nat.lt_of_lt_of_le passed within
  have same := shares index (Nat.le_of_lt passed)
  rw [Array.getElem?_eq_getElem inside] at same
  exact (Array.getElem?_eq_some_iff.mp same).1

/-- Going on counts as consuming tokens in the other list as it does in the own one. -/
theorem Shares.remaining_lt (shares : second.Shares tokens) (reaches : Reaches 1 first second) :
    (second.on tokens).remaining < (first.on tokens).remaining := by
  have onwards := reaches.onwards
  have inside := shares.lt_size reaches.within (Nat.lt_of_succ_le onwards)
  change tokens.size - second.position < tokens.size - first.position
  omega

theorem Reaches.remaining_lt (reaches : Reaches 1 first second) :
    second.remaining < first.remaining := by
  have less := (shares_self second).remaining_lt reaches
  change second.tokens.size - second.position < second.tokens.size - first.position at less
  unfold remaining
  rwa [← reaches.tokens]

end shares

end Cursor

namespace Parse

variable {α β σ : Type}

def after : EStateM.Result SyntaxError Cursor α → Cursor
  | .ok _ cursor | .error _ cursor => cursor

def outcomeOn (tokens : Array Token) :
    EStateM.Result SyntaxError Cursor α → EStateM.Result SyntaxError Cursor α
  | .ok value cursor => .ok value (cursor.on tokens)
  | .error error cursor => .error error (cursor.on tokens)

/-- What came of a rule that began at the cursor. A value is returned at least so many tokens
further on, depending on the value. An error stands at least `failing` tokens further on, and shows
at the end of the last of them. -/
def Lands (cursor : Cursor) (failing : Nat) (count : α → Nat) :
    EStateM.Result SyntaxError Cursor α → Prop
  | .ok value after => cursor.Reaches (count value) after
  | .error error after => cursor.Reaches failing after ∧ error.position = after.offset

/-- The rule lands so far from the cursor, and the other rule, at the same place of the other list,
does the same as far as it sees the same tokens. -/
structure Follows (tokens : Array Token) (failing : Nat) (rule other : Parse α) (count : α → Nat)
    (cursor : Cursor) : Prop where
  lands : Lands cursor failing count (rule cursor)
  same : (after (rule cursor)).Shares tokens →
    other (cursor.on tokens) = outcomeOn tokens (rule cursor)

/-- One rule follows the other from wherever they begin within the tokens, from a place on. -/
def Parallel (first second : Array Token) (start failing : Nat) (rule other : Parse α)
    (count : α → Nat) : Prop :=
  ∀ cursor : Cursor, cursor.tokens = first → start ≤ cursor.position → cursor.Within →
    Follows second failing rule other count cursor

def Moves (failing : Nat) (rule : Parse α) (count : α → Nat) : Prop :=
  ∀ cursor : Cursor, cursor.Within → Lands cursor failing count (rule cursor)

variable {first second : Array Token} {start failing : Nat} {rule other : Parse α}
  {count : α → Nat} {total : β → Nat}

theorem Lands.reaches {cursor : Cursor} {result : EStateM.Result SyntaxError Cursor α}
    (lands : Lands cursor failing count result) : cursor.Reaches 0 (after result) := by
  cases result with
  | ok value middle => exact lands.mono (Nat.zero_le _)
  | error error middle => exact lands.1.mono (Nat.zero_le _)

theorem Lands.behind {cursor middle : Cursor} {passed : Nat} (front : cursor.Reaches passed middle)
    {result : EStateM.Result SyntaxError Cursor β}
    (lands : Lands middle (failing - passed) (fun value => total value - passed) result) :
    Lands cursor failing total result := by
  cases result with
  | ok value after =>
    have enough : total value ≤ passed + (total value - passed) := by omega
    exact (front.trans lands).mono enough
  | error error after => exact ⟨(front.trans lands.1).mono (by omega), lands.2⟩

theorem Lands.earlier {cursor middle : Cursor} {passed : Nat}
    (front : cursor.Reaches passed middle) {result : EStateM.Result SyntaxError Cursor β}
    (lands : Lands middle failing total result) : Lands cursor failing total result := by
  cases result with
  | ok value after => exact (front.trans lands).mono (Nat.le_add_left _ _)
  | error error after => exact ⟨(front.trans lands.1).mono (Nat.le_add_left _ _), lands.2⟩

/-- On the same tokens both rules do the same. -/
theorem Follows.eq {cursor : Cursor}
    (follows : Follows cursor.tokens failing rule other count cursor) :
    other cursor = rule cursor := by
  have stays := follows.lands.reaches.tokens
  have same := follows.same
  rw [← stays] at same
  have whole := same (Cursor.shares_self _)
  have here : cursor.on (after (rule cursor)).tokens = cursor := by rw [stays]; rfl
  rw [here] at whole
  rw [whole]
  cases rule cursor <;> rfl

theorem Moves.of_parallel
    (parallel : ∀ tokens, Parallel tokens tokens 0 failing rule rule count) :
    Moves failing rule count :=
  fun cursor within => (parallel _ cursor rfl (Nat.zero_le _) within).lands

/-! ### One rule after the other -/

theorem Follows.bind {next next' : α → Parse β} {cursor : Cursor}
    (front : Follows second failing rule other count cursor)
    (back : ∀ value middle, cursor.Reaches (count value) middle →
      Follows second (failing - count value) (next value) (next' value)
        (fun result => total result - count value) middle) :
    Follows second failing (rule >>= next) (other >>= next') total cursor := by
  obtain ⟨lands, same⟩ := front
  change Follows second failing (EStateM.bind rule next) (EStateM.bind other next') total cursor
  cases ran : rule cursor with
  | error error middle =>
    rw [ran] at lands same
    have whole : EStateM.bind rule next cursor = .error error middle := by
      unfold EStateM.bind
      rw [ran]
    refine ⟨by rw [whole]; exact lands, fun shares => ?_⟩
    rw [whole] at shares ⊢
    unfold EStateM.bind
    rw [same shares]
    rfl
  | ok value middle =>
    rw [ran] at lands same
    have reaches : cursor.Reaches (count value) middle := lands
    obtain ⟨onwards, alike⟩ := back value middle reaches
    have whole : EStateM.bind rule next cursor = next value middle := by
      unfold EStateM.bind
      rw [ran]
    refine ⟨by rw [whole]; exact .behind reaches onwards, fun shares => ?_⟩
    rw [whole] at shares ⊢
    unfold EStateM.bind
    rw [same (shares.earlier onwards.reaches)]
    exact alike shares

theorem Parallel.bind {next next' : α → Parse β}
    (front : Parallel first second start failing rule other count)
    (back : ∀ value, Parallel first second start (failing - count value) (next value) (next' value)
      fun result => total result - count value) :
    Parallel first second start failing (rule >>= next) (other >>= next') total := by
  intro cursor isFirst far within
  refine (front cursor isFirst far within).bind fun value middle reaches => ?_
  exact back value middle (reaches.tokens.trans isFirst)
    (Nat.le_trans far (Nat.le_trans (Nat.le_add_right _ _) reaches.onwards)) reaches.within

theorem Parallel.passing {next next' : α → Parse β}
    (front : Parallel first second start failing rule other fun _ => 1)
    (back : ∀ value, Parallel first second (start + 1) (failing - 1) (next value) (next' value)
      fun result => total result - 1) :
    Parallel first second start failing (rule >>= next) (other >>= next') total := by
  intro cursor isFirst far within
  refine (front cursor isFirst far within).bind fun value middle reaches => ?_
  exact back value middle (reaches.tokens.trans isFirst)
    (Nat.le_trans (Nat.add_le_add_right far 1) reaches.onwards) reaches.within

theorem parallel_pure {value : α} (none : count value ≤ 0) :
    Parallel first second start failing (pure value) (pure value) count :=
  fun _ _ _ within => ⟨(Cursor.Reaches.refl within).mono none, fun _ => rfl⟩

theorem follows_look {answer : Cursor → α} {cursor : Cursor} (within : cursor.Within)
    (same : cursor.Shares second → answer (cursor.on second) = answer cursor) :
    Follows second failing (do return answer (← get)) (do return answer (← get)) (fun _ => 0)
      cursor :=
  ⟨.refl within, fun shares => congrArg (EStateM.Result.ok · (cursor.on second)) (same shares)⟩

theorem Follows.look {answer : Cursor → α} {next next' : α → Parse β} {cursor : Cursor}
    (same : cursor.Shares second → answer (cursor.on second) = answer cursor)
    (rest : Follows second failing (next (answer cursor)) (next' (answer cursor)) total cursor) :
    Follows second failing ((do return answer (← get)) >>= next)
      ((do return answer (← get)) >>= next') total cursor := by
  refine ⟨rest.lands, fun shares => ?_⟩
  have here : cursor.Shares second := shares.earlier rest.lands.reaches
  change next' (answer (cursor.on second)) (cursor.on second) = _
  rw [same here]
  exact rest.same shares

theorem parallel_current? :
    Parallel first second start failing current? current? fun _ => 0 :=
  fun _ _ _ within => follows_look within fun shares => shares.current?

theorem parallel_describe :
    Parallel first second start failing describe describe fun _ => 0 :=
  fun _ _ _ within => follows_look within fun shares => shares.describe

theorem parallel_peek (text : String) :
    Parallel first second start failing (peek text) (peek text) fun _ => 0 :=
  fun _ _ _ within => follows_look within fun shares => shares.isAt text

theorem parallel_fail (cause : SyntaxError.Cause) :
    Parallel first second start 0 (fail cause : Parse α) (fail cause) count := by
  intro cursor _ _ within
  refine ⟨⟨.refl within, rfl⟩, fun shares => ?_⟩
  have here : cursor.Shares second := shares
  unfold fail
  rw [here.offset]
  rfl

theorem parallel_expectedExpression :
    Parallel first second start 0 (expectedExpression : Parse α) expectedExpression count :=
  parallel_describe.bind fun _ => parallel_fail _

theorem parallel_expected (wanted : String) :
    Parallel first second start 0 (expected wanted : Parse α) (expected wanted) count :=
  parallel_describe.bind fun _ => parallel_fail _

theorem Parallel.discard {least : Nat}
    (parallel : Parallel first second start failing rule other fun _ => least) :
    Parallel first second start failing (discard rule) (discard other) fun _ => least :=
  parallel.bind fun _ => parallel_pure (Nat.le_of_eq (Nat.sub_self least))

/-! ### Tokens -/

section tokens

variable {cursor : Cursor} {text : String}

theorem bind_current? (next : Option Token → Parse α) (cursor : Cursor) :
    (current? >>= next) cursor = next cursor.current? cursor := rfl

theorem Follows.current? {next next' : Option Token → Parse β}
    (rest : Follows second failing (next cursor.current?) (next' cursor.current?) total cursor) :
    Follows second failing (current? >>= next) (current? >>= next') total cursor :=
  .look (fun shares => shares.current?) rest

theorem Follows.peek {next next' : Bool → Parse β}
    (rest : Follows second failing (next (cursor.isAt text)) (next' (cursor.isAt text)) total
      cursor) :
    Follows second failing (peek text >>= next) (peek text >>= next') total cursor :=
  .look (fun shares => shares.isAt text) rest

theorem parallel_advance :
    Parallel first second start 0 advance advance fun _ => 1 := by
  intro cursor isFirst far within
  refine .current? ?_
  cases found : cursor.current? with
  | none => exact parallel_expectedExpression cursor isFirst far within
  | some token => exact ⟨Cursor.reaches_next found, fun _ => rfl⟩

theorem parallel_accept (text : String) :
    Parallel first second start failing (accept text) (accept text) Bool.toNat := by
  intro cursor isFirst far within
  refine .peek ?_
  cases found : cursor.isAt text with
  | false => exact ⟨.refl within, fun _ => rfl⟩
  | true => exact ⟨Cursor.reaches_of_isAt found, fun _ => rfl⟩

theorem parallel_expect (text : String) :
    Parallel first second start 0 (expect text) (expect text) fun _ => 1 := by
  refine (parallel_peek text).bind fun found => ?_
  cases found with
  | true => exact parallel_advance
  | false => exact parallel_expected text

theorem parallel_identifier :
    Parallel first second start 0 identifier identifier fun _ => 1 := by
  refine parallel_current?.bind fun found => ?_
  cases found with
  | none => exact parallel_expected _
  | some token =>
    cases isName : token.isName with
    | true =>
      simp only [isName, if_true]
      exact parallel_advance.bind fun _ => parallel_pure (Nat.le_refl _)
    | false =>
      simp only [isName]
      exact parallel_expected _

theorem bind_accept (text : String) (next : Bool → Parse α) (cursor : Cursor) :
    (accept text >>= next) cursor =
      if cursor.isAt text then next true cursor.next else next false cursor := by
  change ((if cursor.isAt text = true then _ else _ : Parse Bool) >>= next) cursor = _
  cases cursor.isAt text <;> rfl

theorem Follows.accept {next next' : Bool → Parse β}
    (taken : cursor.isAt text = true → Follows second (failing - 1) (next true) (next' true)
      (fun result => total result - 1) cursor.next)
    (missing : cursor.isAt text = false →
      Follows second failing (next false) (next' false) total cursor) :
    Follows second failing (accept text >>= next) (accept text >>= next') total cursor := by
  cases found : cursor.isAt text with
  | true =>
    have whole : (Parse.accept text >>= next) cursor = next true cursor.next := by
      rw [bind_accept, found]
      rfl
    have reaches := Cursor.reaches_of_isAt found
    obtain ⟨lands, same⟩ := taken found
    refine ⟨by rw [whole]; exact .behind reaches lands, fun shares => ?_⟩
    rw [whole] at shares ⊢
    rw [bind_accept, ((shares.earlier lands.reaches).earlier reaches).isAt, found]
    exact same shares
  | false =>
    have whole : (Parse.accept text >>= next) cursor = next false cursor := by
      rw [bind_accept, found]
      rfl
    obtain ⟨lands, same⟩ := missing found
    refine ⟨by rw [whole]; exact lands, fun shares => ?_⟩
    rw [whole] at shares ⊢
    rw [bind_accept, (shares.earlier lands.reaches).isAt, found]
    exact same shares

theorem follows_expect (found : cursor.isAt text = true) :
    Follows second failing (discard (expect text)) (discard (expect text)) (fun _ => 1) cursor := by
  have passes : Follows second failing (expect text) (expect text) (fun _ => 1) cursor := by
    refine .peek ?_
    rw [found]
    obtain ⟨token, isCurrent, -⟩ := Cursor.of_isAt found
    refine .current? ?_
    rw [isCurrent]
    exact ⟨Cursor.reaches_next isCurrent, fun _ => rfl⟩
  exact passes.bind fun _ _ reaches => ⟨.refl reaches.within, fun _ => rfl⟩

end tokens

/-! ### Repetition -/

/-- What a rule contains is at least a token further on, so it is available. -/
theorem follows_nested {rule : Parse α → Parse α} {other : Parse α} {cursor : Cursor}
    (step : ∀ inner other : Parse α,
      Parallel cursor.tokens second (cursor.position + 1) 0 inner other count →
        Parallel cursor.tokens second cursor.position 0 (rule inner) (rule other) count)
    (inside : Parallel cursor.tokens second (cursor.position + 1) 0 (nested rule) other count)
    (within : cursor.Within) : Follows second 0 (nested rule) (rule other) count cursor := by
  suffices guarded : Parallel cursor.tokens second (cursor.position + 1) 0
      (fun inner => if inner.remaining < cursor.remaining then nested rule inner
        else expectedExpression inner) other count by
    obtain ⟨lands, same⟩ := step _ _ guarded cursor rfl (Nat.le_refl _) within
    constructor <;> rw [nested]
    · exact lands
    · exact same
  intro inner isFirst further innerWithin
  have reaches : cursor.Reaches 1 inner := ⟨isFirst, further, innerWithin⟩
  obtain ⟨lands, same⟩ := inside inner isFirst further innerWithin
  constructor <;> simp only [reaches.remaining_lt, if_true]
  · exact lands
  · exact same

/-- A rule that may contain itself, by induction on the tokens left. -/
theorem parallel_nested {rule : Parse α → Parse α}
    (step : ∀ start (inner other : Parse α),
      Parallel first second (start + 1) 0 inner other count →
        Parallel first second start 0 (rule inner) (rule other) count) :
    Parallel first second start 0 (nested rule) (nested rule) count := by
  intro cursor
  induction left : cursor.remaining using Nat.strongRecOn generalizing start cursor with
  | _ _ ih =>
    rintro rfl - within
    suffices inside : Parallel cursor.tokens second (cursor.position + 1) 0 (nested rule)
        (fun inner => if inner.remaining < (cursor.on second).remaining then nested rule inner
          else expectedExpression inner) count by
      obtain ⟨lands, same⟩ := follows_nested (step cursor.position) inside within
      refine ⟨lands, fun shares => ?_⟩
      have whole := same shares
      rwa [nested]
    intro inner isFirst further innerWithin
    have reaches : cursor.Reaches 1 inner := ⟨isFirst, further, innerWithin⟩
    obtain ⟨lands, same⟩ := ih inner.remaining (left ▸ reaches.remaining_lt) inner rfl isFirst
      (Nat.le_refl _) innerWithin
    refine ⟨lands, fun shares => ?_⟩
    -- The tokens passed since then are there in the other list too.
    simp only [(shares.earlier lands.reaches).remaining_lt reaches, if_true]
    exact same shares

/-- Each round of a repetition that is not its last passes a token. -/
theorem parallel_iterate {step step' : σ → Parse (σ ⊕ β)}
    (steps : ∀ state, Parallel first second start failing (step state) (step' state)
      (Sum.elim (fun _ => 1) total)) (state : σ) :
    Parallel first second start failing (iterate step state) (iterate step' state) total := by
  intro cursor
  induction left : cursor.remaining using Nat.strongRecOn generalizing cursor state with
  | _ _ ih =>
    intro isFirst far within
    obtain ⟨lands, same⟩ := steps state cursor isFirst far within
    cases ran : step state cursor with
    | error error middle =>
      have whole : iterate step state cursor = .error error middle := by rw [iterate, ran]
      rw [ran] at lands same
      refine ⟨by rw [whole]; exact lands, fun shares => ?_⟩
      rw [whole] at shares ⊢
      rw [iterate, same shares]
      rfl
    | ok outcome middle =>
      rw [ran] at lands same
      cases outcome with
      | inr result =>
        have whole : iterate step state cursor = .ok result middle := by rw [iterate, ran]
        refine ⟨by rw [whole]; exact lands, fun shares => ?_⟩
        rw [whole] at shares ⊢
        rw [iterate, same shares]
        rfl
      | inl later =>
        have passed : cursor.Reaches 1 middle := lands
        have less := passed.remaining_lt
        have whole : iterate step state cursor = iterate step later middle := by
          rw [iterate, ran]
          simp only [less, if_true]
        obtain ⟨onwards, alike⟩ := ih middle.remaining (left ▸ less) later middle rfl
          (passed.tokens.trans isFirst) (Nat.le_trans far (Nat.le_trans (Nat.le_add_right _ _)
            passed.onwards)) passed.within
        refine ⟨by rw [whole]; exact .earlier passed onwards, fun shares => ?_⟩
        rw [whole] at shares ⊢
        have there := shares.earlier onwards.reaches
        rw [iterate, same there]
        simp only [outcomeOn, there.remaining_lt passed, if_true]
        exact alike shares

theorem parallel_gather {item? item?' : Parse (Option α)}
    (items : Parallel first second start failing item? item?' fun found => found.isSome.toNat)
    (found : List α) :
    Parallel first second start failing (gather item? found) (gather item?' found)
      (Sum.elim (fun _ => 1) fun _ => 0) := by
  refine items.bind fun next => ?_
  cases next with
  | none => exact parallel_pure (Nat.le_refl _)
  | some next => exact parallel_pure (Nat.le_refl _)

theorem parallel_collect {item? item?' : Parse (Option α)}
    (items : Parallel first second start failing item? item?' fun found => found.isSome.toNat) :
    Parallel first second start failing (collect item?) (collect item?') fun _ => 0 :=
  parallel_iterate (parallel_gather items) []

theorem parallel_enumerate {item item' : Parse α}
    (items : Parallel first second start 0 item item' fun _ => 1) (close : String)
    (found : List α) :
    Parallel first second start 0 (enumerate item close found) (enumerate item' close found)
      (Sum.elim (fun _ => 1) fun _ => 1) := by
  refine items.bind fun next => (parallel_accept ",").bind fun more => ?_
  cases more with
  | true =>
    refine (parallel_peek close).bind fun trailing => ?_
    cases trailing with
    | true =>
      have refused : Parallel first second start 0 (fail .trailingComma : Parse Unit)
        (fail .trailingComma) fun _ => 0 := parallel_fail _
      exact refused.bind fun _ => parallel_pure (Nat.le_refl _)
    | false => exact parallel_pure (Nat.le_refl _)
  | false =>
    exact (parallel_expect close).discard.bind fun _ => parallel_pure (Nat.le_refl _)

theorem parallel_separated {item item' : Parse α}
    (items : Parallel first second start 0 item item' fun _ => 1) (close : String) :
    Parallel first second start 0 (separated item close) (separated item' close) fun _ => 1 := by
  refine (parallel_accept close).bind fun closed => ?_
  cases closed with
  | true => exact parallel_pure (Nat.le_refl _)
  | false => exact parallel_iterate (parallel_enumerate items close) []

end Parse

end Primer
