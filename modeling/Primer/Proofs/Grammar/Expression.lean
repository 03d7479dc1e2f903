import Primer.Proofs.Grammar.Ensures
import Primer.Proofs.Tree.Every

/-! Expressions that the grammar can spell.

What every form of the grammar hands on from its parts holds of every expression that is read. In
particular, the left operand of an operator binds at least as tightly as the operator and the right
one more tightly, and names come from tokens that can serve as names.
-/

set_option autoImplicit false

namespace Primer

def Expr.level : Expr → Level
  | .binary operator _ _ _ => operator.level
  | _ => .primary

/-- What the grammar makes sure of at a node, if the tokens that can serve as names are `named`. -/
def Expr.Spelled (named : String → Prop) : Expr → Prop
  | .binary operator left right _ =>
    operator.level.rank ≤ left.level.rank ∧ operator.level.rank < right.level.rank
  | .named name _ _ | .element name _ _ _ | .call name _ _ _ => named name
  | .literal _ _ | .group _ _ | .list _ _ _ => True

namespace Parse

variable {fair : Token → Prop} {named : String → Prop} {good : Level → Expr → Prop}

/-- A property of expressions at a level that the forms of the grammar hand on from their parts. -/
structure Builds (named : String → Prop) (good : Level → Expr → Prop) : Prop where
  literal : ∀ value, good .primary (.literal value none)
  single : ∀ {name}, named name → good .primary (.named name none none)
  element : ∀ {name index}, named name → good .logical index →
    good .primary (.element name index none none)
  call : ∀ {name arguments}, named name → (∀ argument ∈ arguments, good .logical argument) →
    good .primary (.call name arguments none none)
  group : ∀ {inner}, good .logical inner → good .primary (.group inner none)
  list : ∀ {elements}, (∀ element ∈ elements, good .logical element) →
    good .primary (.list elements none none)
  binary : ∀ {operator left right tighter}, operator.level.rank < tighter.rank →
    good operator.level left → good tighter right →
    good operator.level (.binary operator left right none)
  looser : ∀ {level tighter expr}, level.rank ≤ tighter.rank → good tighter expr → good level expr

section rules

variable {inner : Parse Expr}

theorem ensures_literal (builds : Builds named good) (value? : List Char → Option Literal)
    (error : String → SyntaxError.Cause) : Ensures fair (literal value? error) (good .primary) := by
  refine (ensures_advance).bind fun token _ => ?_
  cases found : value? token.value.toList with
  | some value => exact ensures_pure (builds.literal value)
  | none => exact ensures_fail _

theorem ensures_identifier (names : ∀ token, fair token → token.isName → named token.value) :
    Ensures fair identifier named := by
  intro cursor all name after ran
  obtain ⟨token, found, isName, rfl, rfl⟩ := identifier_eq_ok ran
  exact ⟨rfl, names token (all token (Array.mem_of_getElem? found)) isName⟩

theorem ensures_afterName (builds : Builds named good) {name : String} (isName : named name)
    (inside : Ensures fair inner (good .logical)) :
    Ensures fair (afterName inner name) (good .primary) := by
  refine (ensures_accept "(").bind fun opens _ => ?_
  cases opens with
  | true =>
    refine (ensures_separated inside ")").bind fun arguments all => ?_
    exact ensures_pure (builds.call isName all)
  | false =>
    refine (ensures_accept "[").bind fun starts _ => ?_
    cases starts with
    | true =>
      refine inside.bind fun index holds => ?_
      refine (ensures_discard (ensures_expect "]")).bind fun _ _ => ?_
      exact ensures_pure (builds.element isName holds)
    | false => exact ensures_pure (builds.single isName)

theorem ensures_word (builds : Builds named good)
    (names : ∀ token, fair token → token.isName → named token.value)
    (inside : Ensures fair inner (good .logical)) :
    Ensures fair (word inner) (good .primary) := by
  refine (ensures_accept "nil").bind fun isNil _ => ?_
  cases isNil with
  | true => exact ensures_pure (builds.literal _)
  | false =>
    refine (ensures_accept "true").bind fun isTrue _ => ?_
    cases isTrue with
    | true => exact ensures_pure (builds.literal _)
    | false =>
      refine (ensures_accept "false").bind fun isFalse _ => ?_
      cases isFalse with
      | true => exact ensures_pure (builds.literal _)
      | false =>
        refine ensures_current?.bind fun found _ => ?_
        cases found.any Token.isReserved with
        | true =>
          have refused : Ensures fair (expectedExpression : Parse Unit) fun _ => True :=
            ensures_expectedExpression
          exact refused.bind fun _ _ => (ensures_identifier names).bind fun _ isName =>
            ensures_afterName builds isName inside
        | false =>
          exact (ensures_identifier names).bind fun _ isName =>
            ensures_afterName builds isName inside

theorem ensures_group (builds : Builds named good) (inside : Ensures fair inner (good .logical)) :
    Ensures fair (group inner) (good .primary) := by
  refine (ensures_discard (ensures_expect "(")).bind fun _ _ => ?_
  refine inside.bind fun expr holds => ?_
  refine (ensures_discard (ensures_expect ")")).bind fun _ _ => ?_
  exact ensures_pure (builds.group holds)

theorem ensures_list (builds : Builds named good) (inside : Ensures fair inner (good .logical)) :
    Ensures fair (list inner) (good .primary) := by
  refine (ensures_discard (ensures_expect "[")).bind fun _ _ => ?_
  refine (ensures_separated inside "]").bind fun elements all => ?_
  exact ensures_pure (builds.list all)

theorem ensures_primary (builds : Builds named good)
    (names : ∀ token, fair token → token.isName → named token.value)
    (inside : Ensures fair inner (good .logical)) :
    Ensures fair (primary inner) (good .primary) := by
  refine ensures_current?.bind fun found _ => ?_
  cases found.map Token.kind with
  | none => exact ensures_expectedExpression
  | some kind =>
    cases kind with
    | identifier => exact ensures_word builds names inside
    | integer | decimal | character | string => exact ensures_literal builds _ _
    | operator =>
      refine (ensures_peek "(").bind fun opens _ => ?_
      cases opens with
      | true => exact ensures_group builds inside
      | false =>
        refine (ensures_peek "[").bind fun starts _ => ?_
        cases starts with
        | true => exact ensures_list builds inside
        | false => exact ensures_expectedExpression

theorem ensures_operator? (level : Level) :
    Ensures fair (operator? level) fun found => ∀ operator, found = some operator →
      operator.level = level := by
  refine ensures_current?.bind fun found _ => ?_
  cases found.bind Token.operator? with
  | none => exact ensures_pure nofun
  | some operator =>
    by_cases same : operator.level = level
    · simp only [same, if_true]
      refine (ensures_discard ensures_advance).bind fun _ _ => ?_
      refine ensures_pure fun other isOther => ?_
      cases isOther
      exact same
    · simp only [same, if_false]
      exact ensures_pure nofun

/-- Operands of a level joined to its left: each new operand binds more tightly than the level. -/
theorem ensures_joined (builds : Builds named good) (level : Level) {tighter : Level}
    {operand : Parse Expr} (above : level.rank < tighter.rank)
    (operands : Ensures fair operand (good tighter)) :
    Ensures fair (joined level operand) (good level) := by
  refine operands.bind fun first holds => ?_
  refine ensures_iterate (motive := good level) ?_ (builds.looser (Nat.le_of_lt above) holds)
  intro left leftHolds
  refine (ensures_operator? level).bind fun found atLevel => ?_
  cases found with
  | none => exact ensures_pure leftHolds
  | some operator =>
    obtain rfl := atLevel operator rfl
    refine operands.bind fun right rightHolds => ?_
    exact ensures_pure (builds.binary above leftHolds rightHolds)

theorem ensures_built (builds : Builds named good)
    (names : ∀ token, fair token → token.isName → named token.value) :
    Ensures fair expression (good .logical) := by
  refine ensures_nested fun inner inside => ?_
  have primary := ensures_primary builds names inside
  have multiplicative := ensures_joined builds .multiplicative (by decide) primary
  have additive := ensures_joined builds .additive (by decide) multiplicative
  have comparison := ensures_joined builds .comparison (by decide) additive
  exact ensures_joined builds .logical (by decide) comparison

end rules

abbrev Spells (named : String → Prop) (expr : Expr) : Prop :=
  expr.Every (Expr.Spelled named)

theorem builds_spells : Builds named fun level expr =>
    Spells named expr ∧ level.rank ≤ expr.level.rank where
  literal _ := ⟨trivial, Nat.le_refl _⟩
  single isName := ⟨isName, Nat.le_refl _⟩
  element isName index := ⟨⟨isName, index.1⟩, Nat.le_refl _⟩
  call isName arguments :=
    ⟨⟨isName, Expr.everyIn_of_forall fun expr member => (arguments expr member).1⟩, Nat.le_refl _⟩
  group inner := ⟨⟨trivial, inner.1⟩, Nat.le_refl _⟩
  list elements :=
    ⟨⟨trivial, Expr.everyIn_of_forall fun expr member => (elements expr member).1⟩, Nat.le_refl _⟩
  binary above left right :=
    ⟨⟨⟨left.2, Nat.lt_of_lt_of_le above right.2⟩, left.1, right.1⟩, Nat.le_refl _⟩
  looser below holds := ⟨holds.1, Nat.le_trans below holds.2⟩

theorem ensures_expression (names : ∀ token, fair token → token.isName → named token.value) :
    Ensures fair expression (Spells named) :=
  (ensures_built builds_spells names).mono fun _ holds => holds.1

end Parse

end Primer
