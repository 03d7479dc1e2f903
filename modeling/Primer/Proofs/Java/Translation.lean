import Primer.Java.Translation
import Primer.Proofs.Grammar.Expression
import Primer.Proofs.Java.Reading
import Primer.Proofs.Run.Promises
import Primer.Proofs.Token.Scan
import Primer.Proofs.Typing.Genuine
import Primer.Proofs.Typing.View

/-! How Java groups translated expressions.

The translation adds no parentheses: it relies on Java to group operators as the grammar of programs
does. The two disagree on `&&` and `||`, which programs join from left to right on one level. On any
other operators they agree wherever the operands have the types that checking asks for.
-/

set_option autoImplicit false

namespace Primer

mutual

/-- The operators and operands of a checked expression as its tree groups them. -/
def Expr.grouping : Expr → Java.Grouping
  | .literal value _ => .ofLiteral value.javaText.toList
  | .group inner _ => .parenthesized inner.grouping
  | .binary .power base exponent _ =>
    .unary (.cast "int") (.call "Math.pow" [base.grouping, exponent.grouping])
  | .binary operator left right _ => .binary operator left.grouping right.grouping
  | .named name binding _ => .operand ((binding.map Variable.emittedName).getD name)
  | .element name index binding _ =>
    .element ((binding.map Variable.emittedName).getD name) index.grouping
  | .call name arguments binding _ =>
    .call ((binding.map Signature.emittedName).getD name) (Expr.groupings arguments)
  | .list elements _ _ => .initializer (Expr.groupings elements)

def Expr.groupings : List Expr → List Java.Grouping
  | [] => []
  | first :: rest => first.grouping :: Expr.groupings rest

end

/-- An `&&` whose left operand is an `||` without parentheses. -/
def Expr.Mixes : Expr → Prop
  | .binary .and (.binary .or _ _ _) _ _ => True
  | _ => False

mutual

theorem Expr.grouping_toJava : (expr : Expr) → expr.toJava.grouping = expr.grouping
  | .literal _ _ | .named _ _ _ => rfl
  | .group inner _ => congrArg Java.Grouping.parenthesized inner.grouping_toJava
  | .binary operator left right _ => by
    have leftSame := left.grouping_toJava
    have rightSame := right.grouping_toJava
    cases operator <;> simp [Expr.toJava, Expr.grouping, Java.Expr.grouping, leftSame, rightSame]
  | .element name index binding _ => congrArg (Java.Grouping.element _) index.grouping_toJava
  | .call name arguments binding _ =>
    congrArg (Java.Grouping.call _) (Expr.groupings_allToJava arguments)
  | .list elements _ _ => congrArg Java.Grouping.initializer (Expr.groupings_allToJava elements)

theorem Expr.groupings_allToJava : (exprs : List Expr) →
    Java.Expr.groupings (Expr.allToJava exprs) = Expr.groupings exprs
  | [] => rfl
  | first :: rest => congrArg₂ List.cons first.grouping_toJava (Expr.groupings_allToJava rest)

end

section precedence

variable {operator inner : Operator}

theorem Operator.javaRank_lt_of_level (plain : operator ≠ .power) (innerPlain : inner ≠ .power)
    (above : operator.level.rank < inner.level.rank) : operator.javaRank < inner.javaRank := by
  cases operator <;> cases inner <;> first | contradiction | exact absurd above (by decide) | decide

/-- Only `&&` and `||` share a level in programs and not in Java, comparisons apart. -/
theorem Operator.javaRank_le_iff (plain : operator ≠ .power) (innerPlain : inner ≠ .power)
    (above : operator.level.rank ≤ inner.level.rank)
    (apart : ¬ (operator.level = .comparison ∧ inner.level = .comparison)) :
    operator.javaRank ≤ inner.javaRank ↔ ¬ (operator = .and ∧ inner = .or) := by
  cases operator <;> cases inner <;>
    first | contradiction | exact absurd above (by decide) | exact absurd ⟨rfl, rfl⟩ apart | decide

theorem Operator.of_comparison {left right type : Ty} (compares : operator.level = .comparison)
    (result : operator.resultType? left right = some type) :
    Ty.accepts .comparable left = true ∧ type = .boolean := by
  cases operator <;> cases compares
  all_goals
    simp only [resultType?] at result
    split at result
    case isTrue accepted =>
      cases result
      exact ⟨accepted.1, rfl⟩
    case isFalse => cases result

/-- What a comparison results in cannot be compared. -/
theorem Operator.not_both_comparisons {left right first second type : Ty}
    (result : operator.resultType? left right = some type)
    (innerResult : inner.resultType? first second = some left) :
    ¬ (operator.level = .comparison ∧ inner.level = .comparison) := by
  rintro ⟨compares, innerCompares⟩
  obtain ⟨accepted, -⟩ := Operator.of_comparison compares result
  obtain ⟨-, rfl⟩ := Operator.of_comparison innerCompares innerResult
  exact absurd accepted (by decide)

end precedence

section ranks

variable {names : Names} {operator : Operator} {left right typed : Expr}

open Java.Grouping (unaryRank)

/-- Outside of binary operators everything holds together in Java; so does a power. -/
theorem Expr.rank_of_check {expr : Expr} {type : Ty}
    (checked : expr.check names = .ok (typed, type)) :
    unaryRank ≤ typed.grouping.rank ∨ ∃ operator left right written, operator ≠ .power ∧
      expr = .binary operator left right written ∧ typed.grouping.rank = operator.javaRank := by
  cases Expr.typed_of_check checked with
  | @binary operator left right _ _ written =>
    by_cases power : operator = .power
    · subst power
      exact .inl (Nat.le_refl _)
    · refine .inr ⟨operator, left, right, written, power, rfl, ?_⟩
      cases operator <;> first | exact absurd rfl power | rfl
  | literal passed =>
    unfold Expr.grouping Java.Grouping.ofLiteral
    split
    · exact .inl (Nat.le_refl _)
    · exact .inl (Nat.le_succ _)
  | group | named | element | call => exact .inl (Nat.le_succ _)

theorem Expr.right_tight {type : Ty} (plain : operator ≠ .power)
    (tighter : operator.level.rank < right.level.rank)
    (checked : right.check names = .ok (typed, type)) :
    operator.javaRank < typed.grouping.rank := by
  rcases Expr.rank_of_check checked with tight | ⟨inner, _, _, _, innerPlain, rfl, same⟩
  · exact Nat.lt_of_lt_of_le (Java.Grouping.javaRank_lt_unaryRank operator) tight
  · rw [same]
    exact Operator.javaRank_lt_of_level plain innerPlain tighter

theorem Expr.left_tight_iff (right : Expr) (written : Option Ty) {leftType rightType type : Ty}
    (plain : operator ≠ .power) (tight : operator.level.rank ≤ left.level.rank)
    (checked : left.check names = .ok (typed, leftType))
    (result : operator.resultType? leftType rightType = some type) :
    operator.javaRank ≤ typed.grouping.rank ↔
      ¬ (Expr.binary operator left right written).Mixes := by
  rcases Expr.rank_of_check checked with high | ⟨inner, _, _, _, innerPlain, rfl, same⟩
  · have below := Nat.lt_of_lt_of_le (Java.Grouping.javaRank_lt_unaryRank operator) high
    refine iff_of_true (Nat.le_of_lt below) fun mixes => ?_
    unfold Mixes at mixes
    split at mixes
    case h_1 equal =>
      cases equal
      obtain ⟨_, _, _, _, -, -, -, rfl⟩ := Expr.check_binary checked
      exact Nat.not_succ_le_zero _ high
    case h_2 => exact mixes
  · obtain ⟨_, _, _, _, -, -, innerResult, -⟩ := Expr.check_binary checked
    have apart := Operator.not_both_comparisons result innerResult
    rw [same, Operator.javaRank_le_iff plain innerPlain tight apart, not_iff_not]
    cases operator <;> cases inner <;> simp [Mixes]

end ranks

section translation

def IsName (name : String) : Prop :=
  Lexeme.IsIdentifier name.toList

theorem IsName.isWord {name : String} (isName : IsName name) :
    Java.isWord name.toList = true := by
  obtain ⟨first, rest, spelled, start, parts⟩ := isName
  have start : Java.isWordPart first = true := by
    simp only [Lexeme.isNameStart, Bool.or_eq_true] at start
    simp only [Java.isWordPart, Char.isAlphanum, Bool.or_eq_true]
    exact .inl (start.imp_left .inl)
  rw [spelled]
  refine Java.isWord_of_all (List.cons_ne_nil _ _) fun c member => ?_
  rcases List.mem_cons.mp member with rfl | inside
  · exact start
  · have part := parts c inside
    simp only [Lexeme.isNamePart] at part
    simp only [Java.isWordPart, part, Bool.true_or]

theorem Signature.Genuine.isWord {signature : Signature} {name : String} {arity : Nat}
    (genuine : signature.Genuine (name, arity)) (isName : IsName name) :
    Java.isWord signature.emittedName.toList = true := by
  rcases genuine.emitted with same | rfl
  · rw [same]
    exact isName.isWord
  · decide

/-- The translation can be read, and Java groups it as the tree does unless an `||` stands in front
of an `&&`. -/
structure Expr.Translates (source typed : Expr) : Prop where
  legible : typed.toJava.Legible
  meaning : typed.grouping.Stratified ↔ source.Every fun node => ¬ node.Mixes

structure Expr.AllTranslate (sources typed : List Expr) : Prop where
  legible : Java.Expr.AllLegible (Expr.allToJava typed)
  meaning : Java.Grouping.AllStratified (Expr.groupings typed) ↔
    Expr.EveryIn (fun node => ¬ node.Mixes) sources

theorem Java.Grouping.stratified_ofLiteral (text : List Char) :
    (Java.Grouping.ofLiteral text).Stratified := by
  unfold Java.Grouping.ofLiteral
  split
  · exact ⟨Nat.le_succ _, trivial⟩
  · trivial

variable {names : Names}

/-- The arguments of a power are set apart by the call. -/
theorem Expr.translates_power {base exponent base' exponent' : Expr} {written type : Option Ty}
    (first : base.Translates base') (second : exponent.Translates exponent') :
    (Expr.binary .power base exponent written).Translates
      (.binary .power base' exponent' type) where
  legible := ⟨first.legible, second.legible⟩
  meaning := by
    simp [Expr.grouping, Java.Grouping.Stratified, Java.Grouping.AllStratified, Java.Grouping.rank,
      Expr.Every, Mixes, first.meaning, second.meaning]

theorem Expr.translates_binary {operator : Operator} {left right left' right' : Expr}
    {written : Option Ty} {leftType rightType type : Ty} (plain : operator ≠ .power)
    (tight : operator.level.rank ≤ left.level.rank)
    (tighter : operator.level.rank < right.level.rank)
    (leftChecked : left.check names = .ok (left', leftType))
    (rightChecked : right.check names = .ok (right', rightType))
    (result : operator.resultType? leftType rightType = some type)
    (first : left.Translates left') (second : right.Translates right') :
    (Expr.binary operator left right written).Translates (.binary operator left' right' type) := by
  have java : (Expr.binary operator left' right' type).toJava =
      .binary operator left'.toJava right'.toJava := by
    cases operator <;> first | exact absurd rfl plain | rfl
  have grouping : (Expr.binary operator left' right' type).grouping =
      .binary operator left'.grouping right'.grouping := by
    cases operator <;> first | exact absurd rfl plain | rfl
  refine ⟨?_, ?_⟩
  · rw [java]
    exact ⟨first.legible, second.legible⟩
  · -- The ranks of Java can fail the left operand only; on the right they never do.
    have leftTight := Expr.left_tight_iff right written plain tight leftChecked result
    have rightTight := Expr.right_tight plain tighter rightChecked
    rw [grouping, Java.Grouping.Stratified, Expr.Every, leftTight, first.meaning, second.meaning]
    simp only [rightTight, and_true]

mutual

theorem Expr.translates (genuine : names.Genuine) : (expr : Expr) → Parse.Spells IsName expr →
    ∀ {typed type}, expr.check names = .ok (typed, type) → expr.Translates typed
  | .literal value written, _, _, _, checked => by
    obtain ⟨-, rfl⟩ := Expr.check_literal checked
    refine ⟨trivial, iff_of_true ?_ id⟩
    exact Java.Grouping.stratified_ofLiteral value.javaText.toList
  | .group inner _, spelled, _, _, checked => by
    obtain ⟨inner', innerChecked, rfl⟩ := Expr.check_group checked
    have translates := inner.translates genuine spelled.2 innerChecked
    exact ⟨translates.legible, translates.meaning.trans (and_iff_right id).symm⟩
  | .binary operator left right _, ⟨⟨tight, tighter⟩, leftSpelled, rightSpelled⟩, _, _,
      checked => by
    obtain ⟨left', leftType, right', rightType, leftChecked, rightChecked, result, rfl⟩ :=
      Expr.check_binary checked
    have first := left.translates genuine leftSpelled leftChecked
    have second := right.translates genuine rightSpelled rightChecked
    by_cases power : operator = .power
    · subst power
      exact Expr.translates_power first second
    · exact Expr.translates_binary power tight tighter leftChecked rightChecked result first second
  | .named name _ _, isName, _, _, checked => by
    obtain ⟨binding, found, -, rfl, rfl⟩ := Expr.check_named checked
    have emitted := genuine.getVariable? found
    refine ⟨?_, iff_of_true trivial id⟩
    change Java.isWord binding.emittedName.toList = true
    rw [emitted]
    exact isName.isWord
  | .element name index _ _, ⟨isName, spelled⟩, _, _, checked => by
    obtain ⟨binding, index', indexType, found, -, indexChecked, -, rfl, rfl⟩ :=
      Expr.check_element checked
    have emitted := genuine.getVariable? found
    have translates := index.translates genuine spelled indexChecked
    refine ⟨⟨?_, translates.legible⟩, translates.meaning.trans (and_iff_right id).symm⟩
    change Java.isWord binding.emittedName.toList = true
    rw [emitted]
    exact isName.isWord
  | .call name arguments _ _, ⟨isName, spelled⟩, _, _, checked => by
    obtain ⟨signature, arguments', found, argumentsChecked, rfl, rfl⟩ := Expr.check_call checked
    have declared := genuine.getFunction? found
    obtain ⟨types, all, -⟩ := Expr.checkAll_of_checkArguments declared.counted.symm argumentsChecked
    have translates := Expr.all_translate genuine arguments spelled all
    exact ⟨⟨declared.isWord isName, translates.legible⟩,
      translates.meaning.trans (and_iff_right id).symm⟩
  | .list _ _ _, _, _, _, checked => absurd checked Expr.check_list

theorem Expr.all_translate (genuine : names.Genuine) : (exprs : List Expr) →
    Expr.EveryIn (Expr.Spelled IsName) exprs →
    ∀ {typed types}, Expr.CheckAll names exprs typed types → Expr.AllTranslate exprs typed
  | [], _, [], _, _ => ⟨trivial, iff_of_true trivial trivial⟩
  | [], _, _ :: _, _, checked => checked.elim
  | _ :: _, _, [], _, checked => checked.elim
  | _ :: _, _, _ :: _, [], checked => checked.elim
  | first :: rest, ⟨spelled, others⟩, _ :: _, _ :: _, ⟨firstChecked, restChecked⟩ => by
    have head := first.translates genuine spelled firstChecked
    have tail := Expr.all_translate genuine rest others restChecked
    exact ⟨⟨head.legible, tail.legible⟩, and_congr head.meaning tail.meaning⟩

end

end translation

/-- What Java makes of the text of an expression that has been parsed and checked: the operators and
operands of the tree in the groups of the tree, but only if no `&&` has an `||` without parentheses
as its left operand. -/
theorem Expr.read_translation_iff {source : String} {tokens others : List Token}
    {cursor after : Cursor} {expr typed : Expr} {type : Ty} {program : Program} {place : Place}
    {part : Part Ty} {checker : Checker} (scanned : Token.scan source = .ok tokens)
    (within : cursor.tokens = tokens.toArray) (parsed : Parse.expression cursor = .ok expr after)
    (programParsed : Program.ofTokens others = .ok program)
    (visits : Visits program place part checker)
    (checked : expr.check checker.names = .ok (typed, type)) :
    Java.read typed.toJava.text = some typed.grouping ↔ expr.Every fun node => ¬ node.Mixes := by
  have fair : ∀ token ∈ cursor.tokens, token.Spelled := by
    rw [within]
    exact fun token member => Token.spelled_of_scan scanned token (List.mem_toArray.mp member)
  have named (token : Token) (isSpelled : token.Spelled) (isName : token.isName) :
      IsName token.value := by
    simp only [Token.isName, Bool.and_eq_true, beq_iff_eq] at isName
    exact isSpelled isName.1
  have spelled := (Parse.ensures_expression named cursor fair expr after parsed).2
  have translates := expr.translates (visits.genuine programParsed) spelled checked
  have reads := Java.Expr.read_text_iff translates.legible
  rw [Expr.grouping_toJava] at reads
  exact reads.trans translates.meaning

namespace Sample

def scope : Checker :=
  pick.inBody ((Checker.initial.names.defineVariable "limits" limits).defineFunction "pick" 1 pick)
    ["n"]

theorem visits_scope : ∃ place part, Visits source place part scope := by
  have checks : source.ChecksBody (source.functions.head (by decide)) scope :=
    ⟨[], source.functions.tail, typed.globals, [], _, _, pick, rfl, rfl, rfl, rfl, rfl⟩
  exact ⟨_, _, .body checks⟩

def comparisonTokens : List Token :=
  [⟨.identifier, "limits", 0, 6⟩, ⟨.operator, "[", 6, 7⟩, ⟨.integer, "0", 7, 8⟩,
    ⟨.operator, "]", 8, 9⟩, ⟨.operator, "^", 10, 11⟩, ⟨.integer, "2", 12, 13⟩,
    ⟨.operator, "<", 14, 15⟩, ⟨.identifier, "pick", 16, 20⟩, ⟨.operator, "(", 20, 21⟩,
    ⟨.identifier, "n", 21, 22⟩, ⟨.operator, ")", 22, 23⟩]

def comparison (limits n : Option Variable) (pick : Option Signature)
    (boolean integer : Option Ty) : Expr :=
  .binary .less
    (.binary .power (.element "limits" (.literal (.integer 0) integer) limits integer)
      (.literal (.integer 2) integer) integer)
    (.call "pick" [.named "n" n integer] pick integer) boolean

def comparisonTyped : Expr :=
  comparison (some limits) (some parameter) (some pick) (some .boolean) (some .integer)

/-- A power on the left of a comparison is read back from its text. -/
theorem comparison_reads_back :
    Token.scan "limits[0] ^ 2 < pick(n)" = .ok comparisonTokens ∧
      (∃ after, Parse.expression (Cursor.ofTokens comparisonTokens) =
        .ok (comparison none none none none none) after) ∧
      (comparison none none none none none).check scope.names =
        .ok (comparisonTyped, .boolean) ∧
      comparisonTyped.toJava.text = "(int) Math.pow(limits[0], 2) < pick(n)" ∧
      Java.read comparisonTyped.toJava.text = some comparisonTyped.grouping := by
  have scanned : Token.scan "limits[0] ^ 2 < pick(n)" = .ok comparisonTokens := by
    with_unfolding_all rfl
  have parsedHere : Parse.expression (Cursor.ofTokens comparisonTokens) =
      .ok (comparison none none none none none)
        { tokens := comparisonTokens.toArray, position := 11 } := by
    with_unfolding_all rfl
  have checkedHere : (comparison none none none none none).check scope.names =
      .ok (comparisonTyped, .boolean) := rfl
  obtain ⟨place, part, visits⟩ := visits_scope
  refine ⟨scanned, ⟨_, parsedHere⟩, checkedHere, rfl, ?_⟩
  apply (Expr.read_translation_iff scanned rfl parsedHere parsed visits checkedHere).mpr
  simp [comparison, Expr.Every, Expr.EveryIn, Expr.Mixes]

def mixtureTokens : List Token :=
  [⟨.identifier, "true", 0, 4⟩, ⟨.operator, "||", 5, 7⟩, ⟨.identifier, "false", 8, 13⟩,
    ⟨.operator, "&&", 14, 16⟩, ⟨.identifier, "false", 17, 22⟩]

def mixture (boolean : Option Ty) : Expr :=
  .binary .and
    (.binary .or (.literal (.boolean true) boolean) (.literal (.boolean false) boolean) boolean)
    (.literal (.boolean false) boolean) boolean

/-- What is false in a program is true in Java. -/
theorem mixture_regrouped :
    Token.scan "true || false && false" = .ok mixtureTokens ∧
      (∃ after, Parse.expression (Cursor.ofTokens mixtureTokens) = .ok (mixture none) after) ∧
      (∃ place part, Visits source place part scope) ∧
      (mixture none).check scope.names = .ok (mixture (some .boolean), .boolean) ∧
      (mixture (some .boolean)).grouping =
        .binary .and (.binary .or (.operand "true") (.operand "false")) (.operand "false") ∧
      Java.read (mixture (some .boolean)).toJava.text =
        some (.binary .or (.operand "true") (.binary .and (.operand "false") (.operand "false"))) ∧
      Java.read (mixture (some .boolean)).toJava.text ≠
        some (mixture (some .boolean)).grouping := by
  have scanned : Token.scan "true || false && false" = .ok mixtureTokens := by
    with_unfolding_all rfl
  have parsedHere : Parse.expression (Cursor.ofTokens mixtureTokens) =
      .ok (mixture none) { tokens := mixtureTokens.toArray, position := 5 } := by
    with_unfolding_all rfl
  have grouped : (mixture (some .boolean)).grouping =
      .binary .and (.binary .or (.operand "true") (.operand "false")) (.operand "false") := rfl
  have read : Java.read (mixture (some .boolean)).toJava.text =
      some (.binary .or (.operand "true") (.binary .and (.operand "false") (.operand "false"))) :=
    rfl
  refine ⟨scanned, ⟨_, parsedHere⟩, visits_scope, rfl, grouped, read, ?_⟩
  rw [read, grouped]
  simp

end Sample

end Primer
