import Primer.Proofs.Grammar.Proper
import Primer.Proofs.Grammar.Bare
import Primer.Proofs.Grammar.Spelling

/-! The tree of an expression and its tokens determine each other.

Read from left to right, the tree has what its tokens spell. Of all trees with these pieces it is
the one in which the left operand of an operator binds at least as tightly as the operator, and the
right one more tightly. The rule for expressions stops only where no operator follows.
-/

set_option autoImplicit false

namespace Primer

open Phrase

/-- What one token of an expression contributes to its tree. -/
inductive Piece where
  | literal (value : Literal)
  | name (name : String)
  | operator (operator : Operator)
  | mark (text : String)
  deriving Repr, DecidableEq

def Phrase.brackets : List String :=
  ["(", ")", "[", "]", ","]

def Token.piece? (token : Token) : Option Piece :=
  match token.kind with
  | .identifier =>
    match constants.lookup token.value with
    | some value => some (.literal value)
    | none => if token.isName then some (.name token.value) else none
  | .operator =>
    match token.operator? with
    | some operator => some (.operator operator)
    | none => if brackets.contains token.value then some (.mark token.value) else none
  | .integer | .decimal | .character | .string => (literal? token).map .literal

mutual

def Expr.pieces : Expr → List Piece
  | .literal value _ => [.literal value]
  | .group inner _ => .mark "(" :: (inner.pieces ++ [.mark ")"])
  | .binary operator left right _ => left.pieces ++ .operator operator :: right.pieces
  | .named name _ _ => [.name name]
  | .element name index _ _ => .name name :: .mark "[" :: (index.pieces ++ [.mark "]"])
  | .call name arguments _ _ => .name name :: .mark "(" :: (Expr.piecesOf arguments ++ [.mark ")"])
  | .list elements _ _ => .mark "[" :: (Expr.piecesOf elements ++ [.mark "]"])

def Expr.piecesOf : List Expr → List Piece
  | [] => []
  | [last] => last.pieces
  | first :: second :: rest => first.pieces ++ .mark "," :: Expr.piecesOf (second :: rest)

end

def Phrase.Shows (taken : List Token) (pieces : List Piece) : Prop :=
  taken.map Token.piece? = pieces.map some

section pieces

variable {token : Token} {front back taken : List Token} {first second : List Piece}

theorem Phrase.Shows.append (left : Shows front first) (right : Shows back second) :
    Shows (front ++ back) (first ++ second) := by
  unfold Shows at *
  rw [List.map_append, List.map_append, left, right]

theorem Phrase.Shows.cons {piece : Piece} (head : token.piece? = some piece)
    (tail : Shows back second) : Shows (token :: back) (piece :: second) := by
  unfold Shows at *
  rw [List.map_cons, List.map_cons, head, tail]

theorem Phrase.shows_nil : Shows [] [] := rfl

theorem piece?_of_constant {value : Literal} (regular : token.Regular)
    (listed : (token.value, value) ∈ constants) : token.piece? = some (.literal value) := by
  have words : ∀ entry ∈ constants, entry.1 ∈ Token.reservedWords := by decide
  have found : ∀ entry ∈ constants, constants.lookup entry.1 = some entry.2 := by decide
  unfold Token.piece?
  rw [regular.word (words _ listed)]
  simp only [found _ listed]

theorem piece?_of_literal {value : Literal} (spells : literal? token = some value) :
    token.piece? = some (.literal value) := by
  unfold Token.piece?
  have given := spells
  unfold literal? at spells
  cases kind : token.kind <;> simp only [kind] at spells ⊢
  case identifier | operator => cases spells
  all_goals rw [given, Option.map_some]

theorem piece?_of_isName (isName : token.isName = true) :
    token.piece? = some (.name token.value) := by
  obtain ⟨kind, notReserved⟩ := Parse.of_isName isName
  have words : ∀ entry ∈ constants, entry.1 ∈ Token.reservedWords := by decide
  have other : constants.lookup token.value = none := by
    apply List.lookup_eq_none_iff.mpr
    intro entry listed
    exact bne_iff_ne.mpr fun same => notReserved (same ▸ words entry listed)
  unfold Token.piece?
  simp only [kind, other, isName, if_true]

theorem kind_of_operator? {operator : Operator} (isOperator : token.operator? = some operator) :
    token.kind = .operator := by
  unfold Token.operator? at isOperator
  split at isOperator
  · assumption
  · cases isOperator

theorem piece?_of_operator? {operator : Operator} (isOperator : token.operator? = some operator) :
    token.piece? = some (.operator operator) := by
  unfold Token.piece?
  simp only [kind_of_operator? isOperator, isOperator]

theorem piece?_of_mark {text : String} (regular : token.Regular) (isText : token.value = text)
    (listed : text ∈ brackets) : token.piece? = some (.mark text) := by
  have marks : ∀ mark ∈ brackets,
      mark ∈ Token.punctuation ∧ Operator.ofSymbol? mark = none := by decide
  subst isText
  obtain ⟨mark, plain⟩ := marks _ listed
  have kind := regular.mark mark
  unfold Token.piece? Token.operator?
  simp only [kind, if_true, plain, List.contains_iff_mem.mpr listed]

theorem of_piece? {piece : Piece} (shown : token.piece? = some piece) :
    match piece with
    | .literal value => (token.value, value) ∈ constants ∨ literal? token = some value
    | .name name => token.isName = true ∧ token.value = name
    | .operator operator => token.operator? = some operator
    | .mark text => token.value = text := by
  unfold Token.piece? at shown
  split at shown
  · split at shown
    · next value found =>
      cases shown
      obtain ⟨before, after, split, -⟩ := List.lookup_eq_some_iff.mp found
      exact .inl (split ▸ List.mem_append_right _ List.mem_cons_self)
    · split at shown
      · next isName =>
        cases shown
        exact ⟨isName, rfl⟩
      · cases shown
  · split at shown
    · next operator isOperator =>
      cases shown
      exact isOperator
    · split at shown
      · cases shown
        rfl
      · cases shown
  all_goals
    obtain ⟨value, spells, rfl⟩ := Option.map_eq_some_iff.mp shown
    exact .inr spells

end pieces

section splitting

variable {taken : List Token} {piece : Piece} {first second : List Piece}

theorem Phrase.Shows.of_append (shown : Shows taken (first ++ second)) :
    ∃ front back, taken = front ++ back ∧ Shows front first ∧ Shows back second := by
  unfold Shows at shown
  rw [List.map_append] at shown
  obtain ⟨front, back, rfl, left, right⟩ := List.map_eq_append_iff.mp shown
  exact ⟨front, back, rfl, left, right⟩

theorem Phrase.Shows.of_cons (shown : Shows taken (piece :: second)) :
    ∃ token rest, taken = token :: rest ∧ token.piece? = some piece ∧ Shows rest second := by
  unfold Shows at shown
  rw [List.map_cons] at shown
  obtain ⟨token, rest, rfl, head, tail⟩ := List.map_eq_cons_iff.mp shown
  exact ⟨token, rest, rfl, head, tail⟩

theorem Phrase.Shows.of_nil (shown : Shows taken []) : taken = [] :=
  List.map_eq_nil_iff.mp shown

end splitting

/-! ### From left to right -/

theorem Expr.piecesOf_cons {first : Expr} {rest : List Expr} (more : rest ≠ []) :
    Expr.piecesOf (first :: rest) = first.pieces ++ .mark "," :: Expr.piecesOf rest := by
  cases rest with
  | nil => exact absurd rfl more
  | cons second rest => rfl

section soundness

variable {taken : List Token} {expr : Expr}

theorem Phrase.shows_of_items {close : String} {exprs : List Expr} (listed : close ∈ brackets)
    (regular : ∀ token ∈ taken, token.Regular)
    (items : Items (fun taken expr => Shows taken expr.pieces) close taken exprs) :
    Shows taken (Expr.piecesOf exprs ++ [.mark close]) := by
  induction items with
  | @last front expr closing head closes =>
    have ends := piece?_of_mark (regular closing (by simp)) closes listed
    exact head.append (.cons ends shows_nil)
  | @more front back expr exprs comma head isComma others ih =>
    have between := piece?_of_mark (regular comma (by simp)) isComma (by decide)
    have nonempty : exprs ≠ [] := by cases others <;> exact List.cons_ne_nil _ _
    rw [Expr.piecesOf_cons nonempty, List.append_assoc, List.cons_append]
    exact head.append (.cons between (ih fun token member => regular token (by simp [member])))

theorem Phrase.shows_of_enclosed {close : String} {exprs : List Expr} (listed : close ∈ brackets)
    (regular : ∀ token ∈ taken, token.Regular)
    (enclosed : Enclosed (fun taken expr => Shows taken expr.pieces) close taken exprs) :
    Shows taken (Expr.piecesOf exprs ++ [.mark close]) := by
  cases enclosed with
  | none closes =>
    exact .cons (piece?_of_mark (regular _ List.mem_cons_self) closes listed) shows_nil
  | some items => exact shows_of_items listed regular items

theorem Phrase.shows_of_operand (regular : ∀ token ∈ taken, token.Regular)
    (operand : Operand (fun taken expr => Shows taken expr.pieces) taken expr) :
    Shows taken expr.pieces := by
  cases operand with
  | constant listed =>
    exact .cons (piece?_of_constant (regular _ List.mem_cons_self) listed) shows_nil
  | literal spells => exact .cons (piece?_of_literal spells) shows_nil
  | named isName => exact .cons (piece?_of_isName isName) shows_nil
  | element isName opens spells closes =>
    refine .cons (piece?_of_isName isName) (.cons ?_ (spells.append (.cons ?_ shows_nil)))
    · exact piece?_of_mark (regular _ (by simp)) opens (by decide)
    · exact piece?_of_mark (regular _ (by simp)) closes (by decide)
  | call isName opens enclosed =>
    refine .cons (piece?_of_isName isName) (.cons ?_ (shows_of_enclosed (by decide) ?_ enclosed))
    · exact piece?_of_mark (regular _ (by simp)) opens (by decide)
    · exact fun token member => regular token (by simp [member])
  | group opens spells closes =>
    refine .cons ?_ (spells.append (.cons ?_ shows_nil))
    · exact piece?_of_mark (regular _ (by simp)) opens (by decide)
    · exact piece?_of_mark (regular _ (by simp)) closes (by decide)
  | list opens enclosed =>
    refine .cons ?_ (shows_of_enclosed (by decide) ?_ enclosed)
    · exact piece?_of_mark (regular _ (by simp)) opens (by decide)
    · exact fun token member => regular token (by simp [member])

theorem Phrase.shows_of_joined {level : Level} {phrase : List Token → Expr → Prop}
    (operands : ∀ taken expr, (∀ token ∈ taken, token.Regular) → phrase taken expr →
      Shows taken expr.pieces)
    (regular : ∀ token ∈ taken, token.Regular) (joined : Joined level phrase taken expr) :
    Shows taken expr.pieces := by
  induction joined with
  | operand spells => exact operands _ _ regular spells
  | binary _ isOperator _ spells ih =>
    refine (ih fun token member => regular token (by simp [member])).append ?_
    refine .cons (piece?_of_operator? isOperator) (operands _ _ ?_ spells)
    exact fun token member => regular token (by simp [member])

theorem Parse.takes_pieces : Takes expression fun taken expr => Shows taken expr.pieces := by
  refine takes_formed fun taken expr regular joined => ?_
  refine shows_of_joined (fun _ _ regular joined => ?_) regular joined
  refine shows_of_joined (fun _ _ regular joined => ?_) regular joined
  refine shows_of_joined (fun _ _ regular joined => ?_) regular joined
  exact shows_of_joined (fun _ _ regular operand => shows_of_operand regular operand) regular joined

end soundness

/-! ### From the pieces to the tree -/

/-- What is spelled at a level. -/
def Phrase.Leveled : Level → List Token → Expr → Prop
  | .primary => Operand Spelling
  | .multiplicative => Joined .multiplicative (Operand Spelling)
  | .additive => Joined .additive (Joined .multiplicative (Operand Spelling))
  | .comparison => Joined .comparison (Joined .additive (Joined .multiplicative (Operand Spelling)))
  | .logical => Joined .logical (Joined .comparison (Joined .additive (Joined .multiplicative
      (Operand Spelling))))

section completeness

variable {taken : List Token} {expr : Expr} {level tighter : Level}

theorem Phrase.leveled_eq (joins : level ≠ .primary) :
    Leveled level = Joined level (Leveled level.next) := by
  cases level <;> first | contradiction | rfl

theorem Level.eq_of_rank (same : level.rank = tighter.rank) : level = tighter := by
  cases level <;> cases tighter <;> first | rfl | cases same

theorem Level.rank_le_primary (level : Level) : level.rank ≤ Level.primary.rank := by
  cases level <;> decide

/-- What is spelled at a tighter level needs no operator at a looser one. -/
theorem Phrase.Leveled.looser (less : level.rank ≤ tighter.rank)
    (spells : Leveled tighter taken expr) : Leveled level taken expr := by
  induction gap : tighter.rank - level.rank generalizing level with
  | zero =>
    have same : level = tighter := Level.eq_of_rank (by omega)
    exact same ▸ spells
  | succ gap ih =>
    have joins : level ≠ .primary := by
      rintro rfl
      have most := tighter.rank_le_primary
      omega
    have next := Level.rank_next joins
    rw [leveled_eq joins]
    exact .operand (ih (by omega) (by omega))

theorem Phrase.Leveled.spelling (spells : Leveled level taken expr) : Spelling taken expr := by
  have logical : Leveled .logical taken expr := spells.looser (Nat.zero_le _)
  exact .mk logical

/-- Where there is nothing to enclose, only the closing token is there. -/
theorem Phrase.enclosed_of_items {close : String} {exprs : List Expr}
    (shown : Shows taken (Expr.piecesOf exprs ++ [.mark close]))
    (items : exprs ≠ [] → Items Spelling close taken (Expr.bareAll exprs)) :
    Enclosed Spelling close taken (Expr.bareAll exprs) := by
  cases exprs with
  | nil =>
    obtain ⟨closing, rest, rfl, closes, nothing⟩ := shown.of_cons
    cases nothing.of_nil
    exact .none (of_piece? closes)
  | cons first rest => exact .some (items (List.cons_ne_nil _ _))

theorem Operator.level_ne (operator : Operator) : operator.level ≠ .primary := by
  cases operator <;> decide

mutual

theorem Expr.leveled_of_pieces : (expr : Expr) → Parse.Spells (fun _ => True) expr →
    ∀ {taken : List Token}, Shows taken expr.pieces → Leveled expr.level taken expr.bare
  | .literal value _, _, taken, shown => by
    obtain ⟨token, rest, rfl, isPiece, tail⟩ := shown.of_cons
    cases tail.of_nil
    rcases of_piece? isPiece with listed | spells
    · exact .constant listed
    · exact .literal spells
  | .group inner _, layered, taken, shown => by
    obtain ⟨opening, rest, rfl, opens, shown⟩ := shown.of_cons
    obtain ⟨front, back, rfl, inside, shown⟩ := shown.of_append
    obtain ⟨closing, rest, rfl, closes, shown⟩ := shown.of_cons
    cases shown.of_nil
    exact .group (of_piece? opens) (inner.leveled_of_pieces layered.2 inside).spelling
      (of_piece? closes)
  | .binary operator left right _, layered, taken, shown => by
    obtain ⟨⟨noLooser, tighter⟩, leftLayered, rightLayered⟩ := layered
    obtain ⟨front, back, rfl, leftShown, shown⟩ := shown.of_append
    obtain ⟨token, rest, rfl, isOperator, rightShown⟩ := shown.of_cons
    have next := Level.rank_next operator.level_ne
    change Leveled operator.level _ _
    -- The left operand may be joined at the level of the operator, the right one only inside it.
    have joined := (left.leveled_of_pieces leftLayered leftShown).looser noLooser
    rw [leveled_eq operator.level_ne] at joined ⊢
    refine .binary joined (of_piece? isOperator) rfl ?_
    exact (right.leveled_of_pieces rightLayered rightShown).looser (by omega)
  | .named name _ _, _, taken, shown => by
    obtain ⟨token, rest, rfl, isPiece, tail⟩ := shown.of_cons
    cases tail.of_nil
    obtain ⟨isName, rfl⟩ := of_piece? isPiece
    exact .named isName
  | .element name index _ _, layered, taken, shown => by
    obtain ⟨token, rest, rfl, isPiece, shown⟩ := shown.of_cons
    obtain ⟨opening, rest, rfl, opens, shown⟩ := shown.of_cons
    obtain ⟨front, back, rfl, inside, shown⟩ := shown.of_append
    obtain ⟨closing, rest, rfl, closes, shown⟩ := shown.of_cons
    cases shown.of_nil
    obtain ⟨isName, rfl⟩ := of_piece? isPiece
    exact .element isName (of_piece? opens) (index.leveled_of_pieces layered.2 inside).spelling
      (of_piece? closes)
  | .call name arguments _ _, layered, taken, shown => by
    obtain ⟨token, rest, rfl, isPiece, shown⟩ := shown.of_cons
    obtain ⟨opening, inside, rfl, opens, enclosed⟩ := shown.of_cons
    obtain ⟨isName, rfl⟩ := of_piece? isPiece
    exact .call isName (of_piece? opens) (enclosed_of_items enclosed fun nonempty =>
      Expr.items_of_pieces arguments layered.2 nonempty enclosed)
  | .list elements _ _, layered, taken, shown => by
    obtain ⟨opening, inside, rfl, opens, enclosed⟩ := shown.of_cons
    exact .list (of_piece? opens) (enclosed_of_items enclosed fun nonempty =>
      Expr.items_of_pieces elements layered.2 nonempty enclosed)

theorem Expr.items_of_pieces : (exprs : List Expr) →
    Expr.EveryIn (Expr.Spelled fun _ => True) exprs → exprs ≠ [] →
    ∀ {taken : List Token} {close : String}, Shows taken (Expr.piecesOf exprs ++ [.mark close]) →
      Items Spelling close taken (Expr.bareAll exprs)
  | [], _, nonempty, _, _, _ => absurd rfl nonempty
  | [last], layered, _, taken, close, shown => by
    obtain ⟨front, back, rfl, inside, shown⟩ := shown.of_append
    obtain ⟨closing, rest, rfl, closes, nothing⟩ := shown.of_cons
    cases nothing.of_nil
    exact .last (last.leveled_of_pieces layered.1 inside).spelling (of_piece? closes)
  | first :: second :: rest, layered, _, taken, close, shown => by
    rw [Expr.piecesOf_cons (List.cons_ne_nil _ _), List.append_assoc] at shown
    obtain ⟨front, back, rfl, inside, shown⟩ := shown.of_append
    obtain ⟨comma, back, rfl, isComma, shown⟩ := shown.of_cons
    exact .more (first.leveled_of_pieces layered.1 inside).spelling (of_piece? isComma)
      (Expr.items_of_pieces (second :: rest) layered.2 (List.cons_ne_nil _ _) shown)

end

end completeness

/-! ### Where expressions end -/

/-- No operator of this level or a tighter one comes next. -/
def Cursor.Slack (level : Level) (cursor : Cursor) : Prop :=
  ∀ operator, cursor.current?.bind Token.operator? = some operator →
    operator.level.rank < level.rank

namespace Parse

variable {level : Level} {operand : Parse Expr}

def Exhausts (level : Level) (rule : Parse Expr) : Prop :=
  ∀ cursor expr after, rule cursor = .ok expr after → after.Slack level

theorem of_operator?_none {cursor after : Cursor}
    (ran : operator? level cursor = .ok none after) :
    after = cursor ∧
      ∀ operator, cursor.current?.bind Token.operator? = some operator →
        operator.level ≠ level := by
  unfold operator? at ran
  obtain ⟨current, _, ⟨rfl⟩, ran⟩ := EStateM.bind_eq_ok.mp ran
  cases found : cursor.current?.bind Token.operator? with
  | none =>
    rw [found] at ran
    cases ran
    exact ⟨rfl, nofun⟩
  | some operator =>
    rw [found] at ran
    by_cases same : operator.level = level
    · simp only [same, if_true] at ran
      obtain ⟨_, _, -, ⟨⟩⟩ := EStateM.bind_eq_ok.mp ran
    · simp only [same, if_false] at ran
      cases ran
      exact ⟨rfl, fun other isOther => Option.some.inj isOther ▸ same⟩

/-- An operand leaves only looser operators behind it; the loop takes those of its own level. -/
theorem slack_of_loop (joins : level ≠ .primary) (operands : Exhausts level.next operand)
    {left : Expr} {cursor : Cursor} (slack : cursor.Slack level.next) {expr : Expr} {after : Cursor}
    (ran : iterate (operate level operand) left cursor = .ok expr after) : after.Slack level := by
  revert slack expr after
  apply iterate_induction (motive := fun _ cursor outcome => cursor.Slack level.next →
    ∀ {expr after}, outcome = .ok expr after → after.Slack level)
  · rintro left cursor - expr after ⟨⟩
  · rintro left cursor error last - - expr after ⟨⟩
  · rintro left cursor result last round slack _ _ ⟨rfl⟩
    obtain ⟨found, looked, operated, rest⟩ := EStateM.bind_eq_ok.mp round
    cases found with
    | none =>
      cases rest
      obtain ⟨rfl, others⟩ := of_operator?_none operated
      -- What comes next is looser than the next tighter level, and not of this one.
      intro operator comes
      have looser := slack operator comes
      have differs : operator.level.rank ≠ level.rank := fun same =>
        others operator comes (Level.eq_of_rank same)
      rw [Level.rank_next joins] at looser
      omega
    | some operator => obtain ⟨right, _, -, ⟨⟩⟩ := EStateM.bind_eq_ok.mp rest
  · intro left cursor later middle outcome round onwards _
    obtain ⟨found, looked, operated, rest⟩ := EStateM.bind_eq_ok.mp round
    cases found with
    | none => cases rest
    | some operator =>
      obtain ⟨right, _, operandRan, ⟨rfl⟩⟩ := EStateM.bind_eq_ok.mp rest
      exact onwards (operands _ _ _ operandRan)

theorem exhausts_joined (joins : level ≠ .primary) (operands : Exhausts level.next operand) :
    Exhausts level (joined level operand) := by
  intro cursor expr after ran
  rw [joined_eq] at ran
  obtain ⟨first, middle, firstRan, ran⟩ := EStateM.bind_eq_ok.mp ran
  exact slack_of_loop joins operands (operands _ _ _ firstRan) ran

theorem exhausts_primary (rule : Parse Expr) : Exhausts .primary rule := by
  intro cursor expr after ran operator comes
  cases operator <;> decide

theorem exhausts_levels (rule : Parse Expr) :
    Exhausts .logical (joined .logical (joined .comparison (joined .additive
      (joined .multiplicative rule)))) := by
  have multiplicative : Exhausts .multiplicative (joined .multiplicative rule) :=
    exhausts_joined (by decide) (exhausts_primary rule)
  have additive : Exhausts .additive (joined .additive (joined .multiplicative rule)) :=
    exhausts_joined (by decide) multiplicative
  have comparison : Exhausts .comparison
      (joined .comparison (joined .additive (joined .multiplicative rule))) :=
    exhausts_joined (by decide) additive
  exact exhausts_joined (by decide) comparison

theorem exhausts_expression : Exhausts .logical expression := by
  intro cursor expr after ran
  unfold expression at ran
  rw [nested] at ran
  exact exhausts_levels _ cursor expr after ran

/-! ### Exactness -/

/-- The rule for expressions finds the one tree with the pieces of its tokens that is built along
the levels, and goes on as far as the expression does. -/
theorem expression_exact (cursor : Cursor) (regular : ∀ token ∈ cursor.ahead, token.Regular) :
    (∀ (expr : Expr) (after : Cursor), expression cursor = .ok expr after →
      ∃ taken, cursor.ahead = taken ++ after.ahead ∧ after = cursor.skip taken.length ∧
        taken.map Token.piece? = expr.pieces.map some ∧
        expr.Every (Expr.Spelled fun _ => True) ∧
        after.current?.bind Token.operator? = none) ∧
    (∀ (expr : Expr) (taken rest : List Token), expr.Every (Expr.Spelled fun _ => True) →
      taken.map Token.piece? = expr.pieces.map some → cursor.ahead = taken ++ rest →
      (∀ token, rest.head? = some token →
        token.operator? = none ∧ token.value ≠ "(" ∧ token.value ≠ "[") →
      expression cursor = .ok expr.bare (cursor.skip taken.length)) := by
  constructor
  · intro expr after ran
    obtain ⟨taken, split, isAfter, shown⟩ := takes_pieces cursor regular expr after ran
    have layered : Ensures (fun _ => True) expression (Spells fun _ => True) :=
      ensures_expression fun _ _ _ => trivial
    refine ⟨taken, split, isAfter, shown, (layered cursor (fun _ _ => trivial) _ _ ran).2, ?_⟩
    cases comes : after.current?.bind Token.operator? with
    | none => rfl
    | some operator =>
      -- No level is looser than that of the logical operators.
      exact absurd (exhausts_expression _ _ _ ran operator comes) (Nat.not_lt_zero _)
  · intro expr taken rest layered shown split behind
    have quiet : Quiet .logical rest := by
      intro token isHead
      obtain ⟨plain, noCall, noIndex⟩ := behind token isHead
      exact ⟨noCall, noIndex, fun operator isOperator => absurd (plain ▸ isOperator) nofun⟩
    have spelling := (expr.leveled_of_pieces layered shown).spelling
    exact reads_expression spelling quiet cursor split (split ▸ regular)

end Parse

namespace Sample

def chainTokens : List Token :=
  [⟨.identifier, "a", 0, 1⟩, ⟨.operator, "-", 2, 3⟩, ⟨.identifier, "b", 4, 5⟩,
    ⟨.operator, "*", 6, 7⟩, ⟨.integer, "2", 8, 9⟩, ⟨.operator, "-", 10, 11⟩,
    ⟨.identifier, "f", 12, 13⟩, ⟨.operator, "(", 13, 14⟩, ⟨.identifier, "x", 14, 15⟩,
    ⟨.operator, ")", 15, 16⟩, ⟨.operator, ";", 16, 17⟩]

/-- `(a - (b * 2)) - f(x)` -/
def chain : Expr :=
  .binary .subtract
    (.binary .subtract (.named "a" none none)
      (.binary .multiply (.named "b" none none) (.literal (.integer 2) none) none) none)
    (.call "f" [.named "x" none none] none none) none

/-- No other tree with these pieces is built along the levels. -/
theorem chain_exact :
    (∀ token ∈ (Cursor.ofTokens chainTokens).ahead, token.Regular) ∧
      (∃ taken, chainTokens = taken ++ [⟨.operator, ";", 16, 17⟩] ∧
        taken.map Token.piece? = chain.pieces.map some) ∧
      chain.Every (Expr.Spelled fun _ => True) ∧
      ∀ other : Expr, other.Every (Expr.Spelled fun _ => True) → other.pieces = chain.pieces →
        other.bare = chain := by
  have scanned : Token.scan "a - b * 2 - f(x);" = .ok chainTokens := by with_unfolding_all rfl
  have regular : ∀ token ∈ (Cursor.ofTokens chainTokens).ahead, token.Regular := by
    rw [Cursor.ahead_ofTokens]
    exact Token.regular_of_scan scanned
  have parsed : Parse.expression (Cursor.ofTokens chainTokens) =
      .ok chain { tokens := chainTokens.toArray, position := 10 } := by with_unfolding_all rfl
  obtain ⟨finds, alone⟩ := Parse.expression_exact (Cursor.ofTokens chainTokens) regular
  obtain ⟨taken, split, isAfter, shown, layered, -⟩ := finds _ _ parsed
  rw [Cursor.ahead_ofTokens] at split
  refine ⟨regular, ⟨taken, split, shown⟩, layered, fun other also same => ?_⟩
  rw [← same] at shown
  have ran := alone other taken [⟨.operator, ";", 16, 17⟩] also shown split (by decide)
  rw [parsed] at ran
  exact (EStateM.Result.ok.inj ran).1.symm

end Sample

end Primer
