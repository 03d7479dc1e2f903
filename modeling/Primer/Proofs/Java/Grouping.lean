import Primer.Java.Tree

/-! How Java groups operators and operands.

Binary operators have six levels in Java and associate to the left on each of them. Reading from
left to right, an operator takes as much of what stands before it as binds at least as tightly.
-/

set_option autoImplicit false

namespace Primer

/-- How tightly Java binds the symbol of an operator, from zero. There `^` is the exclusive or. -/
def Operator.javaRank : Operator → Nat
  | .or => 0
  | .and => 1
  | .power => 2
  | .equal | .notEqual => 3
  | .less | .greater => 4
  | .add | .subtract => 5
  | .multiply | .divide => 6

namespace Java

inductive Unary where
  | minus
  | cast (type : String)
  deriving Repr, DecidableEq

/-- The operators and operands of an expression. -/
inductive Grouping where
  | operand (text : String)
  | parenthesized (inner : Grouping)
  | unary (operator : Unary) (inner : Grouping)
  | element (array : String) (index : Grouping)
  | call (method : String) (arguments : List Grouping)
  | initializer (elements : List Grouping)
  | binary (operator : Operator) (left right : Grouping)
  deriving Repr, Inhabited

namespace Grouping

def unaryRank : Nat := 7

def rank : Grouping → Nat
  | binary operator _ _ => operator.javaRank
  | unary _ _ => unaryRank
  | operand _ | parenthesized _ | element _ _ | call _ _ | initializer _ => unaryRank + 1

mutual

/-- Java can only mean this grouping: no operand binds more loosely than its operator, and a right
operand binds more tightly. -/
def Stratified : Grouping → Prop
  | operand _ => True
  | parenthesized inner => inner.Stratified
  | unary _ inner => unaryRank ≤ inner.rank ∧ inner.Stratified
  | element _ index => index.Stratified
  | call _ elements | initializer elements => AllStratified elements
  | binary operator left right =>
    (operator.javaRank ≤ left.rank ∧ operator.javaRank < right.rank) ∧
      left.Stratified ∧ right.Stratified

def AllStratified : List Grouping → Prop
  | [] => True
  | first :: rest => first.Stratified ∧ AllStratified rest

end

theorem allStratified_append (front back : List Grouping) :
    AllStratified (front ++ back) ↔ AllStratified front ∧ AllStratified back := by
  induction front with
  | nil => simp [AllStratified]
  | cons first rest ih => simp [AllStratified, ih, and_assoc]

theorem allStratified_reverse (groupings : List Grouping) :
    AllStratified groupings.reverse ↔ AllStratified groupings := by
  induction groupings with
  | nil => simp
  | cons first rest ih =>
    rw [List.reverse_cons, allStratified_append, ih]
    simp [AllStratified, and_comm]

def extend : Grouping → Operator → Grouping → Grouping
  | binary outer left inner, operator, right =>
    if outer.javaRank < operator.javaRank then binary outer left (inner.extend operator right)
    else binary operator (binary outer left inner) right
  | whole, operator, right => binary operator whole right

theorem javaRank_lt_unaryRank (operator : Operator) : operator.javaRank < unaryRank := by
  cases operator <;> decide

/-- What binds tightly enough becomes the left operand. -/
theorem extend_of_rank_le {whole : Grouping} {operator : Operator} (right : Grouping)
    (tight : operator.javaRank ≤ whole.rank) :
    whole.extend operator right = binary operator whole right := by
  cases whole with
  | binary outer left inner => exact if_neg (Nat.not_lt.mpr tight)
  | _ => rfl

/-- A tighter operator right behind another one belongs to the right operand of that one. -/
theorem extend_extend {operator tighter : Operator} (right next : Grouping)
    (tight : operator.javaRank < tighter.javaRank) (whole : Grouping) :
    (whole.extend operator right).extend tighter next =
      whole.extend operator (right.extend tighter next) := by
  fun_induction extend whole operator right with
  | case1 outer left inner operator right loose ih =>
    have looser := Nat.lt_trans loose tight
    simp only [extend, if_pos loose, if_pos looser, ih tight]
  | case2 outer left inner operator right loose => simp only [extend, if_neg loose, if_pos tight]
  | case3 whole operator right plain => simp only [extend, if_pos tight]

theorem lt_rank_extend {whole : Grouping} {operator : Operator} {bound : Nat} (right : Grouping)
    (below : bound < whole.rank) (under : bound < operator.javaRank) :
    bound < (whole.extend operator right).rank := by
  fun_cases extend whole operator right with
  | case1 => exact below
  | case2 => exact under
  | case3 => exact under

theorem stratified_extend {whole : Grouping} {operator : Operator} {right : Grouping}
    (tight : operator.javaRank < right.rank) (inside : right.Stratified)
    (before : whole.Stratified) : (whole.extend operator right).Stratified := by
  fun_induction extend whole operator right with
  | case1 outer left inner operator right loose ih =>
    obtain ⟨⟨leftTight, innerTight⟩, leftInside, innerInside⟩ := before
    exact ⟨⟨leftTight, lt_rank_extend right innerTight loose⟩, leftInside,
      ih tight inside innerInside⟩
  | case2 outer left inner operator right loose =>
    exact ⟨⟨Nat.not_lt.mp loose, tight⟩, before, inside⟩
  | case3 whole operator right plain =>
    refine ⟨⟨Nat.le_of_lt ?_, tight⟩, before, inside⟩
    apply Nat.lt_of_lt_of_le (javaRank_lt_unaryRank _)
    cases whole with
    | binary outer left inner => exact absurd rfl (plain outer left inner)
    | _ => simp [rank]

end Grouping

end Java

end Primer
