import Primer.Proofs.Decimal.Value
import Primer.Proofs.Run.Discipline

/-! Comparison of values.

Equality looks through the forms of decimals, at any depth, and is decided by what the values mean.
An order there is between two values of one kind that has one. It is total, and it agrees with
equality although neither is computed from the other.
-/

set_option autoImplicit false

namespace Primer

namespace Value

/-! ### Equality -/

/-- A value without the forms of its decimals. -/
inductive Meaning where
  | nil
  | boolean (value : Bool)
  | integer (value : Int)
  | number (value : ℚ)
  | character (value : Char)
  | string (value : String)
  | sequence (items : List Meaning)

mutual

def meaning : Value → Meaning
  | nil => .nil
  | boolean value => .boolean value
  | integer value => .integer value
  | decimal value => .number value.value
  | character value => .character value
  | string value => .string value
  | sequence items => .sequence (meanings items)

def meanings : List Value → List Meaning
  | [] => []
  | item :: items => item.meaning :: meanings items

end

end Value

namespace Value

mutual

theorem equal_iff : (u v : Value) → (u.equal v ↔ u.meaning = v.meaning)
  | nil, v => by cases v <;> simp [equal, meaning]
  | boolean _, v => by cases v <;> simp [equal, meaning]
  | integer _, v => by cases v <;> simp [equal, meaning]
  | decimal _, v => by cases v <;> simp [equal, meaning, Decimal.equal_iff]
  | character _, v => by cases v <;> simp [equal, meaning]
  | string _, v => by cases v <;> simp [equal, meaning]
  | sequence items, v => by cases v <;> simp [equal, meaning, equalAll_iff items]

theorem equalAll_iff : (us vs : List Value) → (equalAll us vs ↔ meanings us = meanings vs)
  | [], vs => by cases vs <;> simp [equalAll, meanings]
  | u :: us, vs => by cases vs <;> simp [equalAll, meanings, equal_iff u, equalAll_iff us]

end

/-- Two forms of one number are equal inside of a list, too. -/
example : equal (.sequence [.integer 2, .decimal { digits := 150, scale := 2 }])
    (.sequence [.integer 2, .decimal { digits := 15, scale := 1 }]) = true := by
  with_unfolding_all rfl

/-! ### Order -/

/-- How two values of one kind stand to each other. -/
inductive Stands (order : Ordering) : Value → Value → Prop where
  | integer {a b : Int} (compared : compare a b = order) : Stands order (integer a) (integer b)
  | decimal {a b : Decimal} (compared : compare a.value b.value = order) :
    Stands order (decimal a) (decimal b)
  | character {a b : Char} (compared : compare a b = order) :
    Stands order (character a) (character b)
  | string {a b : String} (compared : compare a b = order) : Stands order (string a) (string b)

def Comparable (u v : Value) : Prop :=
  ∃ type : Ty, type.isComparable ∧ u.type? = some type ∧ v.type? = some type

variable {u v w : Value} {order : Ordering}

theorem order?_eq_some_iff : u.order? v = some order ↔ Stands order u v := by
  constructor
  · intro found
    cases u <;> cases v <;> first | contradiction | skip
    case integer => exact .integer (Option.some.inj found)
    case decimal => exact .decimal ((Decimal.order_eq _ _).symm.trans (Option.some.inj found))
    case character => exact .character (Option.some.inj found)
    case string => exact .string (Option.some.inj found)
  · rintro (⟨⟨⟩⟩ | ⟨⟨⟩⟩ | ⟨⟨⟩⟩ | ⟨⟨⟩⟩)
    · rfl
    · exact congrArg some (Decimal.order_eq _ _)
    · rfl
    · rfl

theorem comparable_iff : u.Comparable v ↔ ∃ order, Stands order u v := by
  constructor
  · rintro ⟨type, comparable, first, second⟩
    cases u <;> cases first <;> cases comparable <;> cases v <;> cases second
    · exact ⟨_, .integer rfl⟩
    · exact ⟨_, .decimal rfl⟩
    · exact ⟨_, .character rfl⟩
    · exact ⟨_, .string rfl⟩
  · rintro ⟨order, ⟨⟩ | ⟨⟩ | ⟨⟩ | ⟨⟩⟩ <;> exact ⟨_, rfl, rfl, rfl⟩

namespace Stands

open Std

theorem swap (stands : Stands order u v) : Stands order.swap v u := by
  cases stands with
  | integer compared => exact .integer (compared ▸ OrientedCmp.eq_swap)
  | decimal compared => exact .decimal (compared ▸ OrientedCmp.eq_swap)
  | character compared => exact .character (compared ▸ OrientedCmp.eq_swap)
  | string compared => exact .string (compared ▸ OrientedCmp.eq_swap)

theorem lt_trans (first : Stands .lt u v) (second : Stands .lt v w) : Stands .lt u w := by
  cases first with
  | integer left =>
    cases second with | integer right => exact .integer (TransCmp.lt_trans left right)
  | decimal left =>
    cases second with | decimal right => exact .decimal (TransCmp.lt_trans left right)
  | character left =>
    cases second with | character right => exact .character (TransCmp.lt_trans left right)
  | string left =>
    cases second with | string right => exact .string (TransCmp.lt_trans left right)

theorem equal_eq (stands : Stands order u v) : u.equal v = (order == .eq) := by
  rw [Bool.eq_iff_iff, equal_iff, beq_iff_eq]
  cases stands with
  | integer compared | character compared | string compared =>
    rw [← compared, LawfulEqCmp.compare_eq_iff_eq]
    exact ⟨fun | rfl => rfl, fun | rfl => rfl⟩
  | decimal compared =>
    rw [← compared, LawfulEqCmp.compare_eq_iff_eq]
    exact ⟨Meaning.number.inj, congrArg Meaning.number⟩

/-- What is equal to a value stands to others as it does. -/
theorem of_equal (same : u.equal v) (stands : Stands order v w) : Stands order u w := by
  rw [equal_iff] at same
  cases stands with
  | integer compared =>
    cases u <;> cases same
    exact .integer compared
  | decimal compared =>
    cases u with
    | decimal other => exact .decimal (Meaning.number.inj same ▸ compared)
    | _ => cases same
  | character compared =>
    cases u <;> cases same
    exact .character compared
  | string compared =>
    cases u <;> cases same
    exact .string compared

end Stands

theorem order?_eq_none (apart : ¬ u.Comparable v) : u.order? v = none := by
  cases found : u.order? v with
  | none => rfl
  | some order => exact absurd (comparable_iff.mpr ⟨order, order?_eq_some_iff.mp found⟩) apart

end Value

namespace Operator

open Value

/-! ### Operators -/

def Holds (operator : Operator) (left right : Value) : Prop :=
  operator.apply left right = .ok (.boolean true)

variable {u v w : Value}

theorem apply_equal (u v : Value) : equal.apply u v = .ok (.boolean (u.equal v)) := rfl

theorem apply_notEqual (u v : Value) : notEqual.apply u v = .ok (.boolean (!u.equal v)) := rfl

theorem holds_equal_iff : equal.Holds u v ↔ u.equal v := by
  rw [Holds, apply_equal, Except.ok.injEq, Value.boolean.injEq]

section ordered

variable {operator : Operator} {wanted order : Ordering}

theorem ordered_of_stands (stands : Stands order u v) :
    operator.ordered wanted u v = .ok (.boolean (order == wanted)) := by
  rw [ordered, order?_eq_some_iff.mpr stands]

theorem ordered_of_not_comparable (apart : ¬ u.Comparable v) :
    operator.ordered wanted u v = .error (.badOperands operator u.kind v.kind) := by
  rw [ordered, order?_eq_none apart]
  rfl

theorem ordered_iff : operator.ordered wanted u v = .ok (.boolean true) ↔ Stands wanted u v := by
  constructor
  · intro answered
    by_cases comparable : u.Comparable v
    · obtain ⟨order, stands⟩ := comparable_iff.mp comparable
      rw [ordered_of_stands stands, Except.ok.injEq, Value.boolean.injEq, beq_iff_eq] at answered
      exact answered ▸ stands
    · rw [ordered_of_not_comparable comparable] at answered
      cases answered
  · intro stands
    rw [ordered_of_stands stands, beq_self_eq_true]

end ordered

theorem holds_less_iff : less.Holds u v ↔ Stands .lt u v :=
  ordered_iff

theorem holds_greater_iff : greater.Holds u v ↔ Stands .gt u v :=
  ordered_iff

/-- What a program may rely on when it compares values. -/
structure ComparisonLaws : Prop where
  trichotomy (u v : Value) : u.Comparable v → ∃ order : Ordering,
    less.apply u v = .ok (.boolean (order == .lt)) ∧
    equal.apply u v = .ok (.boolean (order == .eq)) ∧
    greater.apply u v = .ok (.boolean (order == .gt))
  converse (u v : Value) : less.Holds u v ↔ greater.Holds v u
  less_trans (u v w : Value) : less.Holds u v → less.Holds v w → less.Holds u w
  less_of_equal (u v w : Value) : equal.Holds u v → less.Holds v w →
    less.Holds u w ∧ greater.Holds w u
  refused (u v : Value) : ¬ u.Comparable v →
    less.apply u v = .error (.badOperands .less u.kind v.kind) ∧
    greater.apply u v = .error (.badOperands .greater u.kind v.kind)
  answered (u v : Value) : ∃ same : Bool, equal.apply u v = .ok (.boolean same) ∧
    notEqual.apply u v = .ok (.boolean !same)
  equal_refl (u : Value) : equal.Holds u u
  equal_symm (u v : Value) : equal.Holds u v → equal.Holds v u
  equal_trans (u v w : Value) : equal.Holds u v → equal.Holds v w → equal.Holds u w

theorem comparison_lawful : ComparisonLaws where
  trichotomy u v comparable := by
    obtain ⟨order, stands⟩ := comparable_iff.mp comparable
    refine ⟨order, ordered_of_stands stands, ?_, ordered_of_stands stands⟩
    rw [apply_equal, stands.equal_eq]
  converse u v := by
    rw [holds_less_iff, holds_greater_iff]
    exact ⟨Stands.swap, Stands.swap⟩
  less_trans u v w first second := by
    rw [holds_less_iff] at first second ⊢
    exact first.lt_trans second
  less_of_equal u v w same less := by
    rw [holds_equal_iff] at same
    rw [holds_less_iff] at less
    have stands := Stands.of_equal same less
    exact ⟨holds_less_iff.mpr stands, holds_greater_iff.mpr stands.swap⟩
  refused u v apart := ⟨ordered_of_not_comparable apart, ordered_of_not_comparable apart⟩
  answered u v := ⟨u.equal v, apply_equal u v, apply_notEqual u v⟩
  equal_refl u := holds_equal_iff.mpr ((equal_iff u u).mpr rfl)
  equal_symm u v same := by
    rw [holds_equal_iff, equal_iff] at same ⊢
    exact same.symm
  equal_trans u v w first second := by
    rw [holds_equal_iff, equal_iff] at first second ⊢
    exact first.trans second

end Operator

end Primer
