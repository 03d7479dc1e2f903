import Primer.Run.Operator
import Primer.Typing.Operator

/-! Which values stand for a type, and which errors may stop a run.

Types promise the kind of a value. Two things can spoil the promise: a variable or function without
a value counts as `nil`, and an order may be asked for between values that only `Comparable` bounds.
A discipline says which of the two may happen; operators keep within it.
-/

set_option autoImplicit false

namespace Primer

def Value.type? : Value → Option Ty
  | nil => some .nil
  | boolean _ => some .boolean
  | integer _ => some .integer
  | decimal _ => some .decimal
  | character _ => some .character
  | string _ => some .string
  | sequence _ => none

/-- Whether a value of this kind may stand where the type is asked for. -/
def Ty.admits (type : Ty) (value : Value) : Bool :=
  value.type?.any type.accepts

theorem Ty.accepts_trans {target middle actual : Ty} (outer : target.accepts middle)
    (inner : middle.accepts actual) : target.accepts actual := by
  cases target <;> cases middle <;> first | contradiction | (cases actual <;> trivial)

theorem Ty.admits_of_accepts {target actual : Ty} {value : Value} (accepted : target.accepts actual)
    (admitted : actual.admits value) : target.admits value := by
  unfold admits at admitted ⊢
  cases kind : value.type? with
  | none => rw [kind] at admitted; exact admitted
  | some type =>
    rw [kind] at admitted
    exact accepts_trans accepted admitted

structure Discipline where
  /-- Whether `nil` may turn up where a value of any other type is promised. -/
  strayNil : Bool
  /-- Whether an order may be asked for between values of different kinds. -/
  mixedOrder : Bool

namespace Discipline

def exact : Discipline := { strayNil := false, mixedOrder := false }

def mixed : Discipline := { strayNil := false, mixedOrder := true }

def lenient : Discipline := { strayNil := true, mixedOrder := true }

variable (discipline : Discipline)

def Admits (type : Ty) (value : Value) : Prop :=
  type.admits value ∨ discipline.strayNil ∧ value = .nil

/-- Errors that say something about the values of a run. Under no discipline may a run stop because
a name, a list, a receiver or the arguments of a call turn out to be wrong. -/
def Tolerates : RunError → Prop
  | .unknownVariable _ | .unknownFunction _ _ | .notASequence _ | .badReceiver
  | .argumentCount _ _ _ => False
  | .badOperands _ _ _ => discipline.strayNil ∨ discipline.mixedOrder
  | .unexpectedKind _ _ => discipline.strayNil
  | .indexOutOfRange _ _ | .negativeExponent _ | .exponentTooLarge _ | .divisionByZero
  | .exitCodeOutOfRange _ | .output _ => True

def Permits (operator : Operator) (left right : Ty) : Prop :=
  discipline.mixedOrder ∨
    (operator = .less ∨ operator = .greater → left ≠ .comparable ∧ right ≠ .comparable)

def Allows (type : Ty) : Except RunError Value → Prop
  | .ok value => discipline.Admits type value
  | .error error => discipline.Tolerates error

variable {discipline}

theorem admits_of_accepts {target actual : Ty} {value : Value}
    (accepted : target.accepts actual) (admitted : discipline.Admits actual value) :
    discipline.Admits target value :=
  admitted.imp (Ty.admits_of_accepts accepted) id

/-! ### Values of one kind -/

section canonical

variable {value : Value}

theorem Admits.boolean (admitted : discipline.Admits .boolean value) :
    (∃ b, value = .boolean b) ∨ discipline.strayNil ∧ value = .nil := by
  refine admitted.imp_left fun fits => ?_
  cases value with
  | boolean b => exact ⟨b, rfl⟩
  | nil | integer | decimal | character | string | sequence => cases fits

theorem Admits.integer (admitted : discipline.Admits .integer value) :
    (∃ i, value = .integer i) ∨ discipline.strayNil ∧ value = .nil := by
  refine admitted.imp_left fun fits => ?_
  cases value with
  | integer i => exact ⟨i, rfl⟩
  | nil | boolean | decimal | character | string | sequence => cases fits

theorem Admits.decimal (admitted : discipline.Admits .decimal value) :
    (∃ a, value = .decimal a) ∨ discipline.strayNil ∧ value = .nil := by
  refine admitted.imp_left fun fits => ?_
  cases value with
  | decimal a => exact ⟨a, rfl⟩
  | nil | boolean | integer | character | string | sequence => cases fits

theorem Admits.string (admitted : discipline.Admits .string value) :
    (∃ text, value = .string text) ∨ discipline.strayNil ∧ value = .nil := by
  refine admitted.imp_left fun fits => ?_
  cases value with
  | string text => exact ⟨text, rfl⟩
  | nil | boolean | integer | decimal | character | sequence => cases fits

/-- Two integers or two decimals, unless one of the values is a stray `nil`. -/
theorem Admits.numbers {other : Value} {type : Ty} (numeric : type = .integer ∨ type = .decimal)
    (left : discipline.Admits type value) (right : discipline.Admits type other) :
    (∃ i j, type = .integer ∧ value = .integer i ∧ other = .integer j) ∨
      (∃ a b, type = .decimal ∧ value = .decimal a ∧ other = .decimal b) ∨
      discipline.strayNil ∧ (value = .nil ∧ other.type? ≠ some .string ∨
        value.type? ≠ some .string ∧ other = .nil) := by
  -- A `nil` on either side decides the last alternative; the other value is then no string.
  rcases numeric with rfl | rfl
  · rcases left.integer with ⟨i, rfl⟩ | ⟨stray, rfl⟩
    · rcases right.integer with ⟨j, rfl⟩ | ⟨stray, rfl⟩
      · exact .inl ⟨i, j, rfl, rfl, rfl⟩
      · exact .inr (.inr ⟨stray, .inr ⟨nofun, rfl⟩⟩)
    · rcases right.integer with ⟨j, rfl⟩ | ⟨-, rfl⟩
      · exact .inr (.inr ⟨stray, .inl ⟨rfl, nofun⟩⟩)
      · exact .inr (.inr ⟨stray, .inl ⟨rfl, nofun⟩⟩)
  · rcases left.decimal with ⟨a, rfl⟩ | ⟨stray, rfl⟩
    · rcases right.decimal with ⟨b, rfl⟩ | ⟨stray, rfl⟩
      · exact .inr (.inl ⟨a, b, rfl, rfl, rfl⟩)
      · exact .inr (.inr ⟨stray, .inr ⟨nofun, rfl⟩⟩)
    · rcases right.decimal with ⟨b, rfl⟩ | ⟨-, rfl⟩
      · exact .inr (.inr ⟨stray, .inl ⟨rfl, nofun⟩⟩)
      · exact .inr (.inr ⟨stray, .inl ⟨rfl, nofun⟩⟩)

end canonical

/-! ### Operators -/

theorem allows_refuse {type : Ty} {operator : Operator} {left right : Value}
    (slack : discipline.strayNil ∨ discipline.mixedOrder) :
    discipline.Allows type (operator.refuse left right) :=
  slack

theorem allows_ordered {operator : Operator} {wanted : Ordering} {left right : Value} {type : Ty}
    (compared : operator = .less ∨ operator = .greater)
    (permitted : discipline.Permits operator type type) (comparable : Ty.accepts .comparable type)
    (leftAdmitted : discipline.Admits type left) (rightAdmitted : discipline.Admits type right) :
    discipline.Allows .boolean (operator.ordered wanted left right) := by
  unfold Operator.ordered
  cases found : left.order? right with
  | some order => exact .inl rfl
  | none =>
    apply allows_refuse
    rcases permitted with mixed | single
    · exact .inr mixed
    rcases leftAdmitted with leftFits | ⟨stray, -⟩
    · rcases rightAdmitted with rightFits | ⟨stray, -⟩
      · -- Values of one type that has an order can be compared.
        exfalso
        have plain := (single compared).1
        cases type <;> first | contradiction | skip
        all_goals
          cases left <;> first | (cases leftFits; done) | skip
          cases right <;> first | (cases rightFits; done) | cases found
      · exact .inl stray
    · exact .inl stray

theorem allows_sum {left right : Value} {leftType rightType type : Ty}
    (result : Operator.resultType? .add leftType rightType = some type)
    (leftAdmitted : discipline.Admits leftType left)
    (rightAdmitted : discipline.Admits rightType right) :
    discipline.Allows type (Operator.sum left right) := by
  change (if leftType = .string ∨ rightType = .string then some Ty.string
    else if leftType = rightType ∧ (leftType = .integer ∨ leftType = .decimal) then some leftType
    else none) = some type at result
  split at result
  · next textual =>
    cases result
    rcases textual with rfl | rfl
    · rcases leftAdmitted.string with ⟨text, rfl⟩ | ⟨stray, rfl⟩
      · exact .inl rfl
      · cases right <;> first | exact .inl rfl | exact .inl stray
    · -- Whatever a string is added to is spelled out, a stray `nil` too.
      rcases rightAdmitted.string with ⟨text, rfl⟩ | ⟨stray, rfl⟩
      · cases left <;> exact .inl rfl
      · cases left <;> first | exact .inl rfl | exact .inl stray
  · split at result
    · next both =>
      obtain ⟨rfl, numeric⟩ := both
      cases result
      rcases leftAdmitted.numbers numeric rightAdmitted with
        ⟨i, j, rfl, rfl, rfl⟩ | ⟨a, b, rfl, rfl, rfl⟩ | ⟨stray, ⟨rfl, plain⟩ | ⟨plain, rfl⟩⟩
      · exact .inl rfl
      · exact .inl rfl
      · cases right <;> first | exact absurd rfl plain | exact .inl stray
      · cases left <;> first | exact absurd rfl plain | exact .inl stray
    · cases result

theorem allows_raise (base exponent : Int) :
    discipline.Allows .integer (Value.integer <$> Number.raise base exponent) := by
  unfold Number.raise
  split
  · trivial
  · split
    · exact .inl rfl
    · trivial

theorem allows_divide (dividend divisor : Int) :
    discipline.Allows .integer (Value.integer <$> Number.divide dividend divisor) := by
  unfold Number.divide
  split
  · trivial
  · exact .inl rfl

theorem allows_divideDecimal (dividend divisor : Decimal) :
    discipline.Allows .decimal (Value.decimal <$> dividend.divide divisor) := by
  unfold Decimal.divide
  split
  · exact .inl rfl
  · trivial

/-- The table of operand types agrees with what operators do to values. -/
theorem allows_apply {operator : Operator} {leftType rightType type : Ty} {left right : Value}
    (result : operator.resultType? leftType rightType = some type)
    (permitted : discipline.Permits operator leftType rightType)
    (leftAdmitted : discipline.Admits leftType left)
    (rightAdmitted : discipline.Admits rightType right) :
    discipline.Allows type (operator.apply left right) := by
  cases operator with
  | and | or =>
    obtain ⟨⟨rfl, rfl⟩, ⟨⟩⟩ := Option.ite_none_right_eq_some.mp result
    rcases leftAdmitted.boolean with ⟨a, rfl⟩ | ⟨stray, rfl⟩
    · rcases rightAdmitted.boolean with ⟨b, rfl⟩ | ⟨stray, rfl⟩
      · exact .inl rfl
      · exact allows_refuse (.inl stray)
    · exact allows_refuse (.inl stray)
  | less =>
    obtain ⟨⟨comparable, rfl⟩, ⟨⟩⟩ := Option.ite_none_right_eq_some.mp result
    exact allows_ordered (.inl rfl) permitted comparable leftAdmitted rightAdmitted
  | greater =>
    obtain ⟨⟨comparable, rfl⟩, ⟨⟩⟩ := Option.ite_none_right_eq_some.mp result
    exact allows_ordered (.inr rfl) permitted comparable leftAdmitted rightAdmitted
  | equal | notEqual =>
    obtain ⟨-, ⟨⟩⟩ := Option.ite_none_right_eq_some.mp result
    exact .inl rfl
  | add => exact allows_sum result leftAdmitted rightAdmitted
  | subtract | multiply =>
    obtain ⟨⟨rfl, numeric⟩, ⟨⟩⟩ := Option.ite_none_right_eq_some.mp result
    rcases leftAdmitted.numbers numeric rightAdmitted with
      ⟨i, j, rfl, rfl, rfl⟩ | ⟨a, b, rfl, rfl, rfl⟩ | ⟨stray, ⟨rfl, -⟩ | ⟨-, rfl⟩⟩
    · exact .inl rfl
    · exact .inl rfl
    · exact allows_refuse (.inl stray)
    · cases left <;> exact allows_refuse (.inl stray)
  | divide =>
    obtain ⟨⟨rfl, numeric⟩, ⟨⟩⟩ := Option.ite_none_right_eq_some.mp result
    rcases leftAdmitted.numbers numeric rightAdmitted with
      ⟨i, j, rfl, rfl, rfl⟩ | ⟨a, b, rfl, rfl, rfl⟩ | ⟨stray, ⟨rfl, -⟩ | ⟨-, rfl⟩⟩
    · exact allows_divide i j
    · exact allows_divideDecimal a b
    · exact allows_refuse (.inl stray)
    · cases left <;> exact allows_refuse (.inl stray)
  | power =>
    obtain ⟨⟨rfl, rfl⟩, ⟨⟩⟩ := Option.ite_none_right_eq_some.mp result
    rcases leftAdmitted.numbers (.inl rfl) rightAdmitted with
      ⟨i, j, -, rfl, rfl⟩ | ⟨a, b, same, -, -⟩ | ⟨stray, ⟨rfl, -⟩ | ⟨-, rfl⟩⟩
    · exact allows_raise i j
    · cases same
    · exact allows_refuse (.inl stray)
    · cases left <;> exact allows_refuse (.inl stray)

end Discipline

end Primer
