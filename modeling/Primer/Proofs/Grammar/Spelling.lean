import Primer.Proofs.Grammar.Reads
import Primer.Proofs.Grammar.Rounds

/-! The grammar of expressions.

An expression is made of operands, joined by operators of four levels. The rule for expressions
takes only what this grammar spells, and it reads all of it in front of a token that cannot go on
with an expression.
-/

set_option autoImplicit false

namespace Primer

namespace Phrase

def constants : List (String × Literal) :=
  [("nil", .nil), ("true", .boolean true), ("false", .boolean false)]

def literal? (token : Token) : Option Literal :=
  match token.kind with
  | .integer => Literal.integer? token.value.toList
  | .decimal => Literal.decimal? token.value.toList
  | .character => Literal.character? token.value.toList
  | .string => Literal.string? token.value.toList
  | .identifier | .operator => none

inductive Operand (expression : List Token → Expr → Prop) : List Token → Expr → Prop where
  | constant {token : Token} {value : Literal} (listed : (token.value, value) ∈ constants) :
    Operand expression [token] (.literal value none)
  | literal {token : Token} {value : Literal} (spells : literal? token = some value) :
    Operand expression [token] (.literal value none)
  | named {name : Token} (isName : name.isName = true) :
    Operand expression [name] (.named name.value none none)
  | element {name opening closing : Token} {inside : List Token} {index : Expr}
      (isName : name.isName = true) (opens : opening.value = "[")
      (spells : expression inside index) (closes : closing.value = "]") :
      Operand expression (name :: opening :: (inside ++ [closing]))
        (.element name.value index none none)
  | call {name opening : Token} {inside : List Token} {arguments : List Expr}
      (isName : name.isName = true) (opens : opening.value = "(")
      (enclosed : Enclosed expression ")" inside arguments) :
      Operand expression (name :: opening :: inside) (.call name.value arguments none none)
  | group {opening closing : Token} {inside : List Token} {inner : Expr}
      (opens : opening.value = "(") (spells : expression inside inner)
      (closes : closing.value = ")") :
      Operand expression (opening :: (inside ++ [closing])) (.group inner none)
  | list {opening : Token} {inside : List Token} {elements : List Expr}
      (opens : opening.value = "[") (enclosed : Enclosed expression "]" inside elements) :
      Operand expression (opening :: inside) (.list elements none none)

inductive Joined (level : Level) (operand : List Token → Expr → Prop) :
    List Token → Expr → Prop where
  | operand {taken : List Token} {expr : Expr} (spells : operand taken expr) :
    Joined level operand taken expr
  | binary {front back : List Token} {token : Token} {operator : Operator} {left right : Expr}
      (joined : Joined level operand front left) (isOperator : token.operator? = some operator)
      (sameLevel : operator.level = level) (spells : operand back right) :
      Joined level operand (front ++ token :: back) (.binary operator left right none)

inductive Spelling : List Token → Expr → Prop where
  | mk {taken : List Token} {expr : Expr} (joined : Joined .logical (Joined .comparison
      (Joined .additive (Joined .multiplicative (Operand Spelling)))) taken expr) :
      Spelling taken expr

end Phrase

theorem Level.rank_next {level : Level} (joins : level ≠ .primary) :
    level.next.rank = level.rank + 1 := by
  cases level <;> first | contradiction | rfl

open Phrase

namespace Parse

/-! ### Soundness -/

variable {inner rule : Parse Expr} {phrase : List Token → Expr → Prop}

theorem literal_eq_ok {value? : List Char → Option Literal} {error : String → SyntaxError.Cause}
    {cursor after : Cursor} {expr : Expr} (ran : literal value? error cursor = .ok expr after) :
    ∃ token value, cursor.current? = some token ∧ value? token.value.toList = some value ∧
      expr = .literal value none ∧ after = cursor.next := by
  unfold literal at ran
  obtain ⟨token, middle, advanced, ran⟩ := EStateM.bind_eq_ok.mp ran
  obtain ⟨found, rfl⟩ := advance_eq_ok advanced
  cases isValue : value? token.value.toList with
  | none =>
    rw [isValue] at ran
    cases ran
  | some value =>
    rw [isValue] at ran
    cases ran
    exact ⟨token, value, found, isValue, rfl, rfl⟩

theorem takes_afterName (inside : Takes inner phrase) {name : Token} (isName : name.isName) :
    Takes (afterName inner name.value) fun taken => Operand phrase (name :: taken) := by
  refine Takes.accept (fun opening opens => ?_) ?_
  · refine (takes_separated inside ")").bind fun inside arguments enclosed => ?_
    exact takes_pure (by simpa using .call isName opens enclosed)
  · refine Takes.accept (fun opening opens => ?_) (takes_pure (.named isName))
    refine inside.bind fun inside index spells => ?_
    refine Takes.expect fun closing closes => ?_
    exact takes_pure (.element isName opens spells closes)

theorem takes_word (inside : Takes inner phrase) : Takes (word inner) (Operand phrase) := by
  refine Takes.accept (fun token isNil => takes_pure (.constant (by simp [isNil, constants]))) ?_
  refine Takes.accept (fun token isTrue => takes_pure (.constant (by simp [isTrue, constants]))) ?_
  refine Takes.accept
    (fun token isFalse => takes_pure (.constant (by simp [isFalse, constants]))) ?_
  refine looks_current?.bind fun found => ?_
  cases found.any Token.isReserved with
  | true => exact refuses_expectedExpression.bind
  | false => exact Takes.identifier fun name isName => takes_afterName inside isName

theorem takes_group (inside : Takes inner phrase) : Takes (group inner) (Operand phrase) := by
  refine Takes.expect fun opening opens => ?_
  refine inside.bind fun inside expr spells => ?_
  refine Takes.expect fun closing closes => ?_
  exact takes_pure (.group opens spells closes)

theorem takes_list (inside : Takes inner phrase) : Takes (list inner) (Operand phrase) := by
  refine Takes.expect fun opening opens => ?_
  refine (takes_separated inside "]").bind fun inside elements enclosed => ?_
  exact takes_pure (by simpa using .list opens enclosed)

theorem takes_bracketed (inside : Takes inner phrase) :
    Takes (do
      if ← peek "(" then group inner
      else if ← peek "[" then list inner
      else expectedExpression) (Operand phrase) := by
  refine (looks_peek "(").bind fun opens => ?_
  cases opens with
  | true => exact takes_group inside
  | false =>
    refine (looks_peek "[").bind fun starts => ?_
    cases starts with
    | true => exact takes_list inside
    | false => exact refuses_expectedExpression.takes

theorem takes_literal {cursor after : Cursor} {token : Token} {expr : Expr}
    {value? : List Char → Option Literal} {error : String → SyntaxError.Cause}
    (found : cursor.current? = some token) (same : literal? token = value? token.value.toList)
    (ran : literal value? error cursor = .ok expr after) :
    ∃ taken, cursor.ahead = taken ++ after.ahead ∧ after = cursor.skip taken.length ∧
      Operand phrase taken expr := by
  obtain ⟨other, value, also, isValue, rfl, rfl⟩ := literal_eq_ok ran
  rw [found] at also
  cases also
  exact ⟨[token], Cursor.ahead_eq_cons found, rfl, .literal (same ▸ isValue)⟩

/-- The kind of the first token tells which operand it begins. -/
theorem takes_primary (inside : Takes inner phrase) :
    Takes (primary inner) (Operand phrase) := by
  intro cursor regular expr after ran
  unfold primary at ran
  obtain ⟨found, _, ⟨rfl⟩, ran⟩ := EStateM.bind_eq_ok.mp ran
  cases found : cursor.current? with
  | none =>
    rw [found] at ran
    cases ran
  | some token =>
    rw [found] at ran
    cases kind : token.kind with
    | identifier =>
      simp only [Option.map_some, kind] at ran
      exact takes_word inside cursor regular expr after ran
    | integer | decimal | character | string =>
      simp only [Option.map_some, kind] at ran
      exact takes_literal found (by simp only [literal?, kind]) ran
    | operator =>
      simp only [Option.map_some, kind] at ran
      exact takes_bracketed inside cursor regular expr after ran

theorem takes_operator? (level : Level) : Takes (operator? level) (Perhaps fun taken operator =>
    ∃ token : Token, taken = [token] ∧ token.operator? = some operator ∧
      operator.level = level) := by
  intro cursor _ found? after ran
  unfold operator? at ran
  obtain ⟨current, _, ⟨rfl⟩, ran⟩ := EStateM.bind_eq_ok.mp ran
  cases found : cursor.current? with
  | none =>
    rw [found] at ran
    cases ran
    exact ⟨[], rfl, rfl, .none⟩
  | some token =>
    cases isOperator : token.operator? with
    | none =>
      simp only [found, Option.bind_some, isOperator] at ran
      cases ran
      exact ⟨[], rfl, rfl, .none⟩
    | some operator =>
      by_cases same : operator.level = level
      · simp only [found, Option.bind_some, isOperator, same, if_true] at ran
        obtain ⟨_, middle, discarded, ⟨rfl⟩⟩ := EStateM.bind_eq_ok.mp ran
        obtain ⟨read, _, advanced, ⟨rfl⟩⟩ := EStateM.bind_eq_ok.mp discarded
        obtain ⟨also, rfl⟩ := advance_eq_ok advanced
        exact ⟨[token], Cursor.ahead_eq_cons found, rfl, .some ⟨token, rfl, isOperator, same⟩⟩
      · simp only [found, Option.bind_some, isOperator, same, if_false] at ran
        cases ran
        exact ⟨[], rfl, rfl, .none⟩

theorem takes_joined {level : Level} (operands : Takes rule phrase) :
    Takes (joined level rule) (Joined level phrase) := by
  refine operands.bind fun front first spells => ?_
  refine (@takes_iterate _ _ _ (fun left taken result => ∀ front,
    Joined level phrase front left → Joined level phrase (front ++ taken) result) ?_ first).mono
    fun taken result _ holds => holds front (.operand spells)
  intro left
  refine (takes_operator? level).bind fun taken found took => ?_
  cases took with
  | none => exact takes_pure fun front joined => by simpa using joined
  | some given =>
    obtain ⟨token, rfl, isOperator, same⟩ := given
    refine operands.bind fun back right spells => ?_
    refine takes_pure fun more result holds front joined => ?_
    have longer := holds _ (.binary joined isOperator same spells)
    simpa using longer

/-- What the rule takes has every property that the forms of expressions hand on. -/
theorem takes_formed (formed : ∀ taken expr, (∀ token ∈ taken, token.Regular) →
    Joined .logical (Joined .comparison (Joined .additive (Joined .multiplicative
      (Operand phrase)))) taken expr → phrase taken expr) :
    Takes expression phrase := by
  refine takes_nested fun inner inside => ?_
  exact Takes.mono (takes_joined (takes_joined (takes_joined (takes_joined
    (takes_primary inside))))) formed

theorem takes_expression : Takes expression Spelling :=
  takes_formed fun _ _ _ joined => .mk joined

/-! ### Completeness -/

open Cursor

def delimiters : List String :=
  ["val", "var", "fun", "let", "if", "do", "else", "end", "while", "return", "switch", "case",
    "default", ")", "]", ",", ":", ";", "="]

/-- What cannot go on with an expression of the given level. -/
def Quiet (level : Level) (rest : List Token) : Prop :=
  ∀ token, rest.head? = some token → token.value ≠ "(" ∧ token.value ≠ "[" ∧
    ∀ operator, token.operator? = some operator → operator.level.rank < level.rank

variable {taken rest : List Token} {expr : Expr} {token : Token} {level next : Level} {room : Nat}

theorem symbol_of_operator? {operator : Operator} (isOperator : token.operator? = some operator) :
    token.value = operator.symbol := by
  unfold Token.operator? at isOperator
  split at isOperator
  case isFalse => cases isOperator
  case isTrue =>
    have same := List.find?_some isOperator
    exact (beq_iff_eq.mp same).symm

theorem symbol_ne (operator : Operator) :
    operator.symbol ≠ "(" ∧ operator.symbol ≠ "[" ∧ operator.symbol ∉ delimiters := by
  cases operator <;> decide

theorem quiet_nil : Quiet level [] := nofun

theorem quiet_of_leads {word : String} (leading : leads rest = some word)
    (listed : word ∈ delimiters) : Quiet level rest := by
  intro token isHead
  have isWord : token.value = word := by simpa [leads, isHead] using leading
  rw [← isWord] at listed
  refine ⟨fun isText => ?_, fun isText => ?_, fun operator isOperator => ?_⟩
  · exact absurd (isText ▸ listed) (by decide)
  · exact absurd (isText ▸ listed) (by decide)
  · exact absurd (symbol_of_operator? isOperator ▸ listed) (symbol_ne operator).2.2

/-- An operator ends the operands of tighter levels. -/
theorem quiet_of_operator {operator : Operator} (isOperator : token.operator? = some operator)
    (looser : operator.level.rank < level.rank) : Quiet level (token :: rest) := by
  rintro _ ⟨rfl⟩
  obtain ⟨noCall, noIndex, -⟩ := symbol_ne operator
  rw [symbol_of_operator? isOperator]
  refine ⟨noCall, noIndex, fun other also => ?_⟩
  rw [isOperator] at also
  cases also
  exact looser

theorem Quiet.tighter (quiet : Quiet level rest) (less : level.rank ≤ next.rank) :
    Quiet next rest := by
  intro token isHead
  obtain ⟨noCall, noIndex, looser⟩ := quiet token isHead
  exact ⟨noCall, noIndex, fun operator isOperator =>
    Nat.lt_of_lt_of_le (looser operator isOperator) less⟩

theorem Quiet.leads_ne (quiet : Quiet level rest) :
    leads rest ≠ some "(" ∧ leads rest ≠ some "[" := by
  unfold leads
  cases rest with
  | nil => simp
  | cons token more =>
    obtain ⟨noCall, noIndex, -⟩ := quiet token rfl
    simpa using ⟨noCall, noIndex⟩

/-! ### What expressions begin with -/

theorem of_isName (isName : token.isName = true) :
    token.kind = .identifier ∧ token.value ∉ Token.reservedWords := by
  unfold Token.isName Token.isReserved at isName
  obtain ⟨isIdentifier, notReserved⟩ := Bool.and_eq_true_iff.mp isName
  have kind := beq_iff_eq.mp isIdentifier
  exact ⟨kind, by simpa [kind] using notReserved⟩

theorem kind_of_delimiter (regular : token.Regular) (listed : token.value ∈ delimiters) :
    token.isName = false ∧ literal? token = none := by
  have parts : ∀ word ∈ delimiters,
      word ∈ Token.reservedWords ∨ word ∈ Token.punctuation := by decide
  constructor
  · refine Bool.eq_false_iff.mpr fun isName => ?_
    obtain ⟨kind, notReserved⟩ := of_isName isName
    rcases parts _ listed with word | mark
    · exact notReserved word
    · rw [regular.mark mark] at kind
      cases kind
  · unfold literal?
    rcases parts _ listed with word | mark
    · rw [regular.word word]
    · rw [regular.mark mark]

theorem opens_operand : Opens (Operand Spelling) delimiters := by
  intro taken expr operand regular
  cases operand with
  | constant listed =>
    refine ⟨_, [], rfl, ?_⟩
    have others : ∀ entry ∈ constants, entry.1 ∉ delimiters := by decide
    exact others _ listed
  | literal spells =>
    refine ⟨_, [], rfl, fun listed => ?_⟩
    rw [(kind_of_delimiter (regular _ List.mem_cons_self) listed).2] at spells
    cases spells
  | named isName | element isName | call isName =>
    refine ⟨_, _, rfl, fun listed => ?_⟩
    rw [(kind_of_delimiter (regular _ List.mem_cons_self) listed).1] at isName
    cases isName
  | group opens | list opens =>
    refine ⟨_, _, rfl, ?_⟩
    rw [opens]
    decide

theorem opens_joined (opens : Opens phrase delimiters) :
    Opens (Joined level phrase) delimiters := by
  intro taken expr joined regular
  induction joined with
  | operand spells => exact opens _ _ spells regular
  | binary _ _ _ _ ih =>
    obtain ⟨first, more, rfl, differs⟩ := ih fun token member =>
      regular token (List.mem_append_left _ member)
    exact ⟨first, _, rfl, differs⟩

theorem opens_spelling : Opens Spelling delimiters := by
  intro taken expr spelling regular
  obtain ⟨joined⟩ := spelling
  exact opens_joined (opens_joined (opens_joined (opens_joined opens_operand))) _ _ joined regular

/-! ### Operands -/

theorem reads_literal {value? : List Char → Option Literal} {error : String → SyntaxError.Cause}
    {value : Literal} (isValue : value? token.value.toList = some value) :
    Reads (literal value? error) [token] (.literal value none) rest := by
  refine reads_advance.bind ?_
  simp only [isValue]
  exact reads_pure

theorem reads_reference {back : List Token} (isName : token.isName = true)
    (second : Reads (do
      if ← accept "(" then
        return .call token.value (← separated inner ")") none none
      if ← accept "[" then
        let index ← inner
        discard (expect "]")
        return .element token.value index none none
      return .named token.value none none) back expr rest) :
    Reads (word inner) (token :: back) expr rest := by
  obtain ⟨kind, notReserved⟩ := of_isName isName
  have other : ∀ text ∈ Token.reservedWords, leads (token :: back ++ rest) ≠ some text := by
    rintro text listed isText
    exact notReserved (Option.some.inj isText ▸ listed)
  refine .pass (other _ (by decide)) ?_
  refine .pass (other _ (by decide)) ?_
  refine .pass (other _ (by decide)) ?_
  refine .current ?_
  have plain : token.isReserved = false := by
    unfold Token.isReserved
    simp [notReserved]
  simp only [List.cons_append, List.head?_cons, Option.any_some, plain]
  exact .identifier isName second

theorem reads_arguments {close : String} {exprs : List Expr}
    (inside : Covers room inner Spelling (Quiet .logical)) (closes : close = ")" ∨ close = "]")
    (enclosed : Enclosed Spelling close taken exprs) (short : (taken ++ rest).length < room) :
    Reads (separated inner close) taken exprs rest := by
  have listed : close ∈ delimiters := by rcases closes with rfl | rfl <;> decide
  have plain : close ≠ "," := by rcases closes with rfl | rfl <;> decide
  refine reads_separated (opens_spelling.fewer (by simpa using listed)) plain ?_ enclosed
  intro front expr behind spells leading less
  refine inside front expr behind spells ?_ (Nat.lt_of_le_of_lt less short)
  rcases leading with comma | closing
  · exact quiet_of_leads comma (by decide)
  · exact quiet_of_leads closing listed

theorem reads_closed {close : String} {closing : Token} {expr : Expr} {result : Expr → Expr}
    (inside : Covers room inner Spelling (Quiet .logical)) (spells : Spelling taken expr)
    (closes : closing.value = close) (listed : close ∈ delimiters)
    (short : (taken ++ closing :: rest).length < room) :
    Reads (do
      let expr ← inner
      discard (expect close)
      return result expr) (taken ++ [closing]) (result expr) rest := by
  have behind : Quiet .logical (closing :: rest) :=
    quiet_of_leads (leads_cons closing rest) (closes ▸ listed)
  exact (inside taken expr (closing :: rest) spells behind short).bind (.expect closes reads_pure)

theorem reads_constant {token : Token} {value : Literal}
    (listed : (token.value, value) ∈ constants) :
    Reads (word inner) [token] (.literal value none) rest := by
  simp only [constants, List.mem_cons, Prod.mk.injEq, List.not_mem_nil, or_false] at listed
  rcases listed with ⟨isNil, rfl⟩ | ⟨isTrue, rfl⟩ | ⟨isFalse, rfl⟩
  · exact .accept isNil reads_pure
  · exact .pass (by simp [isTrue]) (.accept isTrue reads_pure)
  · exact .pass (by simp [isFalse]) (.pass (by simp [isFalse]) (.accept isFalse reads_pure))

theorem reads_primary (inside : Covers room inner Spelling (Quiet .logical)) :
    Covers (room + 1) (primary inner) (Operand Spelling) (Quiet .primary) := by
  intro taken expr rest operand quiet short
  refine .of_regular fun regular => ?_
  refine .current ?_
  cases operand with
  | @constant token value listed =>
    have words : ∀ entry ∈ constants, entry.1 ∈ Token.reservedWords := by decide
    have kind := (regular token List.mem_cons_self).word (words _ listed)
    simp only [List.cons_append, List.head?_cons, Option.map_some, kind]
    exact reads_constant listed
  | @literal token value spells =>
    simp only [List.cons_append, List.head?_cons, Option.map_some]
    unfold literal? at spells
    cases kind : token.kind <;> simp only [kind] at spells ⊢
    case identifier | operator => cases spells
    all_goals exact reads_literal spells
  | named isName =>
    simp only [List.cons_append, List.head?_cons, Option.map_some, (of_isName isName).1]
    refine reads_reference isName (.pass quiet.leads_ne.1 (.pass quiet.leads_ne.2 reads_pure))
  | @element name opening closing front index isName opens spells closes =>
    simp only [List.cons_append, List.head?_cons, Option.map_some, (of_isName isName).1]
    refine reads_reference isName (.pass (by simp [opens]) (.accept opens ?_))
    refine reads_closed inside spells closes (by decide) ?_
    simp only [List.length_append, List.length_cons] at short ⊢
    omega
  | @call name opening front arguments isName opens enclosed =>
    simp only [List.cons_append, List.head?_cons, Option.map_some, (of_isName isName).1]
    refine reads_reference isName (.accept opens ?_)
    refine (reads_arguments inside (.inl rfl) enclosed ?_).finish reads_pure
    simp only [List.length_append, List.length_cons] at short ⊢
    omega
  | @group opening closing front inner opens spells closes =>
    have kind := (regular opening List.mem_cons_self).mark (opens ▸ by decide)
    simp only [List.cons_append, List.head?_cons, Option.map_some, kind]
    refine .seen (by simp [opens]) (.expect opens ?_)
    refine reads_closed inside spells closes (by decide) ?_
    simp only [List.length_append, List.length_cons] at short ⊢
    omega
  | @list opening front elements opens enclosed =>
    have kind := (regular opening List.mem_cons_self).mark (opens ▸ by decide)
    simp only [List.cons_append, List.head?_cons, Option.map_some, kind]
    refine .unseen (by simp [opens]) (.seen (by simp [opens]) (.expect opens ?_))
    refine (reads_arguments inside (.inr rfl) enclosed ?_).finish reads_pure
    simp only [List.length_append, List.length_cons] at short ⊢
    omega

/-! ### Operators -/

theorem reads_operator {operator : Operator} (isOperator : token.operator? = some operator) :
    Reads (operator? operator.level) [token] (some operator) rest := by
  refine .current ?_
  simp only [List.cons_append, List.head?_cons, Option.bind_some, isOperator, if_true]
  exact (reads_discard reads_advance).finish reads_pure

theorem reads_no_operator (quiet : Quiet level rest) : Reads (operator? level) [] none rest := by
  refine .current ?_
  rw [List.nil_append]
  cases found : rest.head?.bind Token.operator? with
  | none => exact reads_pure
  | some operator =>
    obtain ⟨token, isHead, isOperator⟩ := Option.bind_eq_some_iff.mp found
    have looser := (quiet token isHead).2.2 operator isOperator
    -- An operator may follow, but none of this level.
    have other : operator.level ≠ level := fun same => by
      rw [same] at looser
      exact Nat.lt_irrefl _ looser
    simp only [other, if_false]
    exact reads_pure

/-- The tokens of a left operand come first. What the loop reads behind it is `back`. -/
theorem reads_joined_from {back : List Token} {result : Expr} (less : level.rank < next.rank)
    (operands : Covers room rule phrase (Quiet next)) (joined : Joined level phrase taken expr)
    (behind : Quiet next (back ++ rest)) (short : (taken ++ back ++ rest).length < room)
    (loop : Reads (iterate (operate level rule) expr) back result rest) :
    Reads (Parse.joined level rule) (taken ++ back) result rest := by
  induction joined generalizing back with
  | @operand front expr spells =>
    rw [joined_eq]
    exact (operands front expr (back ++ rest) spells behind (by simpa using short)).bind loop
  | @binary front other token operator left right joined isOperator same spells ih =>
    subst same
    have next := operands other right (back ++ rest) spells behind (by
      simp only [List.length_append, List.length_cons] at short ⊢
      omega)
    -- This operand is read in the round behind the rounds for the operands to its left.
    have turn : Reads (operate operator.level rule left) (token :: other)
        (.inl (.binary operator left right none)) (back ++ rest) := by
      refine (reads_operator isOperator).bind ?_
      exact next.finish reads_pure
    have whole := ih (quiet_of_operator isOperator less)
      (by simpa using short) (reads_iterate_next (List.cons_ne_nil _ _) turn loop)
    simpa using whole

theorem covers_joined (joins : level ≠ .primary)
    (operands : Covers room rule phrase (Quiet level.next)) :
    Covers room (joined level rule) (Joined level phrase) (Quiet level) := by
  intro taken expr rest spells quiet short
  have less : level.rank < level.next.rank := Level.rank_next joins ▸ Nat.lt_succ_self _
  have last : Reads (operate level rule expr) [] (.inr expr) rest := by
    refine (reads_no_operator quiet).finish ?_
    exact reads_pure
  have behind : Quiet level.next ([] ++ rest) := quiet.tighter (Nat.le_of_lt less)
  have whole := reads_joined_from less operands spells behind (by simpa using short)
    (reads_iterate_done last)
  rwa [List.append_nil] at whole

theorem reads_expression (spelling : Spelling taken expr) (quiet : Quiet .logical rest) :
    Reads expression taken expr rest := by
  -- One level after the other, from the operands outwards.
  refine reads_nested ?_ spelling quiet
  intro taken expr rest spelling quiet inner inside
  obtain ⟨joined⟩ := spelling
  refine covers_joined (by decide) (covers_joined (by decide) (covers_joined (by decide)
    (covers_joined (by decide) (reads_primary inside)))) taken expr rest joined quiet ?_
  exact Nat.lt_succ_self _

/-- The language of the rule for expressions is what the grammar of expressions spells. -/
theorem recognised_iff (regular : ∀ token ∈ taken, token.Regular) :
    Expr.Recognised taken expr ↔ Spelling taken expr := by
  constructor
  · intro recognised
    -- The rule has read all tokens, so what it took is the whole list.
    obtain ⟨front, split, same, spelling⟩ :=
      takes_expression (Cursor.ofTokens taken) (by simpa using regular) _ _ recognised
    have isFront : taken = front := by
      rw [ahead_ofTokens] at split
      simpa [ahead] using split
    exact isFront ▸ spelling
  · intro spelling
    have ran := reads_expression spelling quiet_nil (Cursor.ofTokens taken) (by simp)
      (by simpa using regular)
    simpa [Expr.Recognised, skip, ofTokens] using ran

end Parse

end Primer
