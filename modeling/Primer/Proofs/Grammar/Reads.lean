import Primer.Proofs.Grammar.Takes

/-! Rules of the grammar read phrases.

Where the tokens of a phrase are ahead, and what is behind them does not continue it, the rule takes
just these tokens and returns what they stand for. As in the other direction there is one rule of
reasoning for each way to put rules together.
-/

set_option autoImplicit false

namespace Primer

open Phrase

namespace Cursor

variable {cursor : Cursor} {token : Token} {taken rest : List Token}

def leads (tokens : List Token) : Option String :=
  tokens.head?.map Token.value

@[simp] theorem leads_nil : leads [] = none := rfl

@[simp] theorem leads_cons (token : Token) (rest : List Token) :
    leads (token :: rest) = some token.value := rfl

theorem isAt_eq (cursor : Cursor) (text : String) :
    cursor.isAt text = (leads cursor.ahead == some text) := by
  unfold isAt leads
  rw [head?_ahead]
  cases cursor.current? <;> simp

theorem current?_of_ahead (front : cursor.ahead = token :: rest) :
    cursor.current? = some token := by
  rw [← head?_ahead, front, List.head?_cons]

end Cursor

namespace Parse

open Cursor

variable {α β : Type}

/-- With `taken` and then `rest` ahead, the rule takes `taken` and returns the value. -/
def Reads (rule : Parse α) (taken : List Token) (value : α) (rest : List Token) : Prop :=
  ∀ cursor : Cursor, cursor.ahead = taken ++ rest → (∀ token ∈ taken ++ rest, token.Regular) →
    rule cursor = .ok value (cursor.skip taken.length)

/-- With fewer than `room` tokens ahead, the rule reads every phrase in front of what `stops` it. -/
def Covers (room : Nat) (rule : Parse α) (phrase : List Token → α → Prop)
    (stops : List Token → Prop) : Prop :=
  ∀ taken value rest, phrase taken value → stops rest → (taken ++ rest).length < room →
    Reads rule taken value rest

variable {rule : Parse α} {taken front back rest : List Token} {value : α} {token : Token}
  {text : String}

/-! ### Steps -/

namespace Reads

theorem of_regular (reads : (∀ token ∈ taken ++ rest, token.Regular) →
    Reads rule taken value rest) : Reads rule taken value rest :=
  fun cursor ahead regular => reads regular cursor ahead regular

theorem bind {next : α → Parse β} {result : β} (first : Reads rule front value (back ++ rest))
    (second : Reads (next value) back result rest) :
    Reads (rule >>= next) (front ++ back) result rest := by
  intro cursor ahead regular
  rw [List.append_assoc] at ahead regular
  have ran := second _ (ahead_skip_length ahead)
    fun token member => regular token (List.mem_append_right _ member)
  rw [skip_skip, ← List.length_append] at ran
  exact EStateM.bind_eq_ok.mpr ⟨value, _, first cursor ahead regular, ran⟩

/-- The second rule takes nothing more. -/
theorem finish {next : α → Parse β} {result : β} (first : Reads rule taken value rest)
    (second : Reads (next value) [] result rest) : Reads (rule >>= next) taken result rest := by
  have whole := @bind _ _ _ taken [] rest value next result first second
  rwa [List.append_nil] at whole

end Reads

theorem reads_pure : Reads (pure value : Parse α) [] value rest :=
  fun _ _ _ => rfl

theorem reads_discard (reads : Reads rule taken value rest) :
    Reads (discard rule) taken () rest :=
  reads.finish reads_pure

theorem reads_get {next : Cursor → Parse β} {result : β}
    (second : ∀ cursor : Cursor, cursor.ahead = taken ++ rest →
      Reads (next cursor) taken result rest) :
    Reads (get >>= next) taken result rest := by
  intro cursor ahead regular
  exact EStateM.bind_eq_ok.mpr ⟨cursor, cursor, rfl, second cursor ahead cursor ahead regular⟩

theorem Reads.current {next : Option Token → Parse β} {result : β}
    (second : Reads (next (taken ++ rest).head?) taken result rest) :
    Reads (current? >>= next) taken result rest := by
  intro cursor ahead regular
  refine EStateM.bind_eq_ok.mpr ⟨_, cursor, ?_, second cursor ahead regular⟩
  rw [← ahead, head?_ahead]
  rfl

theorem Reads.peek {next : Bool → Parse β} {result : β}
    (second : Reads (next (leads (taken ++ rest) == some text)) taken result rest) :
    Reads (peek text >>= next) taken result rest := by
  intro cursor ahead regular
  refine EStateM.bind_eq_ok.mpr ⟨_, cursor, ?_, second cursor ahead regular⟩
  rw [← ahead, ← isAt_eq]
  rfl

theorem Reads.seen {next : Bool → Parse β} {result : β}
    (here : leads (taken ++ rest) = some text) (second : Reads (next true) taken result rest) :
    Reads (Parse.peek text >>= next) taken result rest := by
  refine .peek ?_
  rwa [here, beq_self_eq_true]

theorem Reads.unseen {next : Bool → Parse β} {result : β}
    (other : leads (taken ++ rest) ≠ some text) (second : Reads (next false) taken result rest) :
    Reads (Parse.peek text >>= next) taken result rest := by
  refine .peek ?_
  rwa [beq_false_of_ne other]

theorem reads_advance : Reads advance [token] token rest :=
  fun _ ahead _ => advance_eq (current?_of_ahead ahead)

theorem reads_accept (isText : token.value = text) : Reads (accept text) [token] true rest := by
  refine Reads.seen (by simp [isText]) ?_
  exact fun _ _ _ => rfl

theorem reads_pass (other : leads rest ≠ some text) : Reads (accept text) [] false rest := by
  refine Reads.unseen other ?_
  exact reads_pure

theorem reads_expect (isText : token.value = text) : Reads (expect text) [token] token rest := by
  refine Reads.seen (by simp [isText]) ?_
  exact reads_advance

theorem reads_identifier (isName : token.isName = true) :
    Reads identifier [token] token.value rest := by
  refine Reads.current ?_
  simp only [List.cons_append, List.head?_cons, isName]
  exact reads_advance.finish reads_pure

section steps

variable {result : β}

theorem Reads.accept {next : Bool → Parse β} (isText : token.value = text)
    (second : Reads (next true) back result rest) :
    Reads (accept text >>= next) (token :: back) result rest :=
  (reads_accept isText).bind second

theorem Reads.pass {next : Bool → Parse β} (other : leads (back ++ rest) ≠ some text)
    (second : Reads (next false) back result rest) :
    Reads (Parse.accept text >>= next) back result rest :=
  (reads_pass other).bind second

theorem Reads.expect {next : Unit → Parse β} (isText : token.value = text)
    (second : Reads (next ()) back result rest) :
    Reads (discard (expect text) >>= next) (token :: back) result rest := by
  exact (reads_discard (reads_expect isText)).bind second

theorem Reads.identifier {next : String → Parse β} (isName : token.isName = true)
    (second : Reads (next token.value) back result rest) :
    Reads (identifier >>= next) (token :: back) result rest :=
  (reads_identifier isName).bind second

end steps

/-! ### Repetition -/

/-- To read a phrase, a rule that contains itself may use that it reads all phrases with fewer
tokens ahead. -/
theorem reads_nested {rule : Parse α → Parse α} {phrase : List Token → α → Prop}
    {stops : List Token → Prop}
    (step : ∀ taken value rest, phrase taken value → stops rest → ∀ inner : Parse α,
      Covers (taken ++ rest).length inner phrase stops → Reads (rule inner) taken value rest)
    (spells : phrase taken value) (stopped : stops rest) :
    Reads (nested rule) taken value rest := by
  induction size : (taken ++ rest).length using Nat.strongRecOn
    generalizing taken value rest with
  | _ count ih =>
    intro cursor ahead regular
    rw [nested]
    refine step taken value rest spells stopped _ ?_ cursor ahead regular
    intro front other behind also stoppedToo less inner innerAhead innerRegular
    have fewer : inner.remaining < cursor.remaining := by
      rw [← length_ahead, ← length_ahead, innerAhead, ahead]
      exact less
    simp only [fewer, if_true]
    exact ih _ (size ▸ less) also stoppedToo rfl inner innerAhead innerRegular

theorem reads_iterate_done {σ : Type} {step : σ → Parse (σ ⊕ β)} {state : σ} {result : β}
    (last : Reads (step state) taken (.inr result) rest) :
    Reads (iterate step state) taken result rest := by
  intro cursor ahead regular
  rw [iterate, last cursor ahead regular]

theorem reads_iterate_next {σ : Type} {step : σ → Parse (σ ⊕ β)} {state later : σ} {result : β}
    (nonempty : front ≠ []) (first : Reads (step state) front (.inl later) (back ++ rest))
    (others : Reads (iterate step later) back result rest) :
    Reads (iterate step state) (front ++ back) result rest := by
  intro cursor ahead regular
  rw [List.append_assoc] at ahead regular
  have behind := ahead_skip_length ahead
  have less : (cursor.skip front.length).remaining < cursor.remaining := by
    have positive := List.length_pos_iff.mpr nonempty
    rw [← length_ahead, ← length_ahead, behind, ahead, @List.length_append _ front]
    omega
  have ran := others _ behind fun token member => regular token (List.mem_append_right _ member)
  rw [iterate, first cursor ahead regular]
  simp only [less, if_true]
  rw [ran, skip_skip, List.length_append]

/-- A phrase begins with a token, which is spelled otherwise than the given words. -/
def Opens (phrase : List Token → α → Prop) (words : List String) : Prop :=
  ∀ taken value, phrase taken value → (∀ token ∈ taken, token.Regular) →
    ∃ first more, taken = first :: more ∧ first.value ∉ words

namespace Opens

variable {phrase : List Token → α → Prop} {words : List String} {close : String}

theorem leads_ne (opens : Opens phrase words) {word : String} (spells : phrase taken value)
    (listed : word ∈ words) (regular : ∀ token ∈ taken, token.Regular) :
    leads (taken ++ rest) ≠ some word := by
  obtain ⟨first, more, rfl, differs⟩ := opens taken value spells regular
  rintro isWord
  exact differs (Option.some.inj isWord ▸ listed)

theorem fewer {others : List String} (opens : Opens phrase words)
    (subset : ∀ word ∈ others, word ∈ words) : Opens phrase others := by
  intro taken value spells regular
  obtain ⟨first, more, isTaken, differs⟩ := opens taken value spells regular
  exact ⟨first, more, isTaken, fun listed => differs (subset _ listed)⟩

theorem items (opens : Opens phrase words) : Opens (Items phrase close) words := by
  intro taken values listed regular
  cases listed with
  | last head =>
    obtain ⟨first, more, rfl, differs⟩ := opens _ _ head fun token member =>
      regular token (List.mem_append_left _ member)
    exact ⟨first, _, rfl, differs⟩
  | more head =>
    obtain ⟨first, more, rfl, differs⟩ := opens _ _ head fun token member =>
      regular token (List.mem_append_left _ member)
    exact ⟨first, _, rfl, differs⟩

end Opens

section lists

variable {step : List α → Parse (List α ⊕ List α)} {phrase : List Token → α → Prop}
  {values : List α} {stops : List Token → Prop} {close : String}

theorem reads_iterate_many (opens : Opens phrase [])
    (leading : ∀ front value behind, phrase front value → stops (front ++ behind))
    (steps : ∀ found front value behind, phrase front value → stops behind →
      (front ++ behind).length ≤ (taken ++ rest).length →
      Reads (step found) front (.inl (value :: found)) behind)
    (finish : ∀ found, Reads (step found) [] (.inr found.reverse) rest) (stopped : stops rest)
    (many : Many phrase taken values) (found : List α) :
    Reads (iterate step found) taken (found.reverse ++ values) rest := by
  induction many generalizing found with
  | nil =>
    rw [List.append_nil]
    exact reads_iterate_done (finish found)
  | @cons front back value values head others ih =>
    refine .of_regular fun regular => ?_
    obtain ⟨token, more, isFront, -⟩ := opens front value head fun token member =>
      regular token (by simp [member])
    -- Behind an item stands the next one or the end of them all.
    have behind : stops (back ++ rest) := by
      cases others with
      | nil => exact stopped
      | cons first => simpa using leading _ _ _ first
    have read := steps found front value (back ++ rest) head behind (by simp)
    have later := ih (fun found _ _ _ also stoppedToo less => steps found _ _ _ also stoppedToo (by
      simp only [List.length_append] at less ⊢
      omega)) (value :: found)
    exact reads_iterate_next (by simp [isFront]) read (by simpa using later)

theorem reads_iterate_items (opens : Opens phrase [close])
    (steps : ∀ found front value comma behind, phrase front value → comma.value = "," →
      leads behind ≠ some close → (front ++ comma :: behind).length ≤ (taken ++ rest).length →
      Reads (step found) (front ++ [comma]) (.inl (value :: found)) behind)
    (finish : ∀ found front value closing, phrase front value → closing.value = close →
      (front ++ closing :: rest).length ≤ (taken ++ rest).length →
      Reads (step found) (front ++ [closing]) (.inr (value :: found).reverse) rest)
    (items : Items phrase close taken values) (found : List α) :
    Reads (iterate step found) taken (found.reverse ++ values) rest := by
  induction items generalizing found with
  | last head closes =>
    rw [← List.reverse_cons]
    exact reads_iterate_done (finish found _ _ _ head closes (by simp))
  | @more front back value values comma head isComma others ih =>
    refine .of_regular fun regular => ?_
    -- After a comma the list is not closed, for an item must follow.
    have notClosed : leads (back ++ rest) ≠ some close :=
      opens.items.leads_ne others (List.mem_singleton.mpr rfl) fun token member =>
        regular token (by simp [member])
    have read := steps found front value comma (back ++ rest) head isComma notClosed (by simp)
    have later := ih (fun found _ _ _ _ also comma ends less =>
      steps found _ _ _ _ also comma ends (by
        simp only [List.length_append, List.length_cons] at less ⊢
        omega)) (fun found _ _ _ also closes less => finish found _ _ _ also closes (by
        simp only [List.length_append, List.length_cons] at less ⊢
        omega)) (value :: found)
    have whole := reads_iterate_next (by simp) read (by simpa using later)
    simpa using whole

theorem reads_collect {item? : Parse (Option α)} (stops : List Token → Prop)
    (opens : Opens phrase [])
    (leading : ∀ front value behind, phrase front value → stops (front ++ behind))
    (items : ∀ front value behind, phrase front value → stops behind →
      (front ++ behind).length ≤ (taken ++ rest).length → Reads item? front (some value) behind)
    (finish : Reads item? [] none rest) (stopped : stops rest) (many : Many phrase taken values) :
    Reads (collect item?) taken values rest := by
  refine reads_iterate_many opens leading ?_ (fun found => ?_) stopped many []
  · intro found front value behind head stoppedToo less
    refine (items front value behind head stoppedToo less).finish ?_
    exact reads_pure
  · refine finish.finish ?_
    exact reads_pure

theorem reads_separated {item : Parse α} (opens : Opens phrase [close]) (plain : close ≠ ",")
    (items : ∀ front value behind, phrase front value →
      leads behind = some "," ∨ leads behind = some close →
      (front ++ behind).length ≤ (taken ++ rest).length → Reads item front value behind)
    (enclosed : Enclosed phrase close taken values) :
    Reads (separated item close) taken values rest := by
  cases enclosed with
  | none closes => exact .accept closes reads_pure
  | some listed =>
    refine .of_regular fun regular => ?_
    have notClosed : leads (taken ++ rest) ≠ some close :=
      opens.items.leads_ne listed (List.mem_singleton.mpr rfl) fun token member =>
        regular token (List.mem_append_left _ member)
    refine .pass notClosed ?_
    refine reads_iterate_items opens ?_ ?_ listed []
    · intro found front value comma behind head isComma notClosed less
      refine (items front value (comma :: behind) head (.inl (by simp [isComma])) less).bind ?_
      refine .accept isComma (.unseen notClosed ?_)
      exact reads_pure
    · intro found front value closing head closes less
      refine (items front value (closing :: rest) head (.inr (by simp [closes])) less).bind ?_
      refine .pass (by simp [closes, plain]) ?_
      exact .expect closes reads_pure

end lists

end Parse

end Primer
