import Primer.Proofs.Run.Invariant
import Primer.Proofs.Typing.Visit

/-! Turns of a run follow turns of checking.

What a run works on next is what checking made of a part that it came to next, and the machine meets
the names that checking had there.
-/

set_option autoImplicit false

namespace Primer

open Eval

/-- By the same turn checking comes to what the inner part was made of, with names that the machine
meets. -/
def Part.Follows (discipline : Discipline) (setting : Setting)
    (origins : Nat → Nat → Variable → Nat → Prop) (source : Part Ty) (checker : Checker)
    (index : Nat) (inner : Part Value) (after : Machine) : Prop :=
  ∃ sourceInner next, Visit source checker index sourceInner next ∧
    sourceInner.Checks next inner ∧ inner.Suits discipline ∧
    Meets discipline setting origins next.names after

section turns

variable {discipline : Discipline} {setting : Setting} {origins : Nat → Nat → Variable → Nat → Prop}
  {checker last : Checker} {inner : Part Value} {machine after : Machine} {index : Nat}

section expressions

variable {source typed : Expr} {type : Ty}

theorem Part.follows_value (sound : setting.Sound discipline)
    (checked : source.check checker.names = .ok (typed, type))
    (every : typed.Every (Expr.Suits discipline))
    (meets : Meets discipline setting origins checker.names machine)
    (step : Step (.value typed) machine index inner after) :
    Follows discipline setting origins (.value source) checker index inner after := by
  cases Expr.typed_of_check checked with
  | literal | named => cases step
  | group innerChecked =>
    cases step with
    | inner => exact ⟨_, _, .inner, .value innerChecked, every.2, meets⟩
  | binary leftChecked rightChecked _ =>
    cases step with
    | left => exact ⟨_, _, .left, .value leftChecked, every.2.1, meets⟩
    | right before =>
      have behind := meets.evaluated sound leftChecked every.2.1 before
      exact ⟨_, _, .right, .value rightChecked, every.2.2, behind⟩
  | element _ _ indexChecked _ =>
    cases step with
    | index => exact ⟨_, _, .index, .value indexChecked, every.2, meets⟩
  | call found argumentsChecked =>
    cases step with
    | arguments =>
      obtain ⟨kinds, fits⟩ := meets.fits
      obtain ⟨types, all, -⟩ :=
        Expr.checkAll_of_checkArguments (fits.function found).1.symm argumentsChecked
      exact ⟨_, _, .arguments, .values all, every.2, meets⟩

theorem Part.follows_values (sound : setting.Sound discipline) {sources exprs : List Expr}
    {types : List Ty} (checked : Expr.CheckAll checker.names sources exprs types)
    (every : Expr.EveryIn (Expr.Suits discipline) exprs)
    (meets : Meets discipline setting origins checker.names machine)
    (step : Step (.values exprs) machine index inner after) :
    Follows discipline setting origins (.values sources) checker index inner after := by
  cases sources <;> cases types <;> cases step <;> try exact checked.elim
  case head => exact ⟨_, _, .head, .value checked.1, every.1, meets⟩
  case tail before =>
    have behind := meets.evaluated sound checked.1 every.1 before
    exact ⟨_, _, .tail, .values checked.2, every.2, behind⟩

theorem Part.follows_target (checked : Check.receiver source checker = .ok (typed, type) checker)
    (every : typed.Every (Expr.Suits discipline))
    (meets : Meets discipline setting origins checker.names machine)
    (step : Step (.target typed) machine index inner after) :
    Follows discipline setting origins (.target source) checker index inner after := by
  obtain ⟨targetChecked, -⟩ := Check.of_receiver checked
  cases step with
  | targetIndex =>
    cases Expr.typed_of_check targetChecked with
    | element _ _ indexChecked _ =>
      exact ⟨_, _, .targetIndex, .value indexChecked, every.2, meets⟩

end expressions

section statements

variable (sound : setting.Sound discipline) (inBody : checker.InBody)
  (meets : Meets discipline setting origins checker.names machine)

include sound inBody meets

theorem Part.follows_statement {source typed : Stmt}
    (checked : source.check checker = .ok typed last)
    (every : typed.Every (Expr.Suits discipline) (Stmt.Suits discipline))
    (step : Step (.statement typed) machine index inner after) :
    Follows discipline setting origins (.statement source) checker index inner after := by
  cases Stmt.typed_of_check checked with
  | expression _ valueChecked =>
    cases step with
    | expression => exact ⟨_, _, .expression, .value valueChecked, every.2, meets⟩
  | declaration declared =>
    cases step with
    | declared =>
      obtain ⟨initial, -⟩ := Variable.initial_of_declare declared
      obtain ⟨_, rfl, valueChecks⟩ := Part.checks_of_initial initial rfl
      exact ⟨_, _, .declared, valueChecks, every.2 _ rfl, meets⟩
  | assignment targetChecked valueChecked _ =>
    cases step with
    | receiver before =>
      have behind := meets.evaluated sound valueChecked every.2.2 before
      exact ⟨_, _, .receiver, .target targetChecked, every.2.1, behind⟩
    | assigned => exact ⟨_, _, .assigned, .value valueChecked, every.2.2, meets⟩
  | conditional testChecked _ thenChecked elseChecked =>
    cases step with
    | test => exact ⟨_, _, .test, .value testChecked, every.2.1, meets⟩
    | thenBody holds =>
      have behind := meets.evaluated sound testChecked every.2.1 holds
      exact ⟨_, _, .thenBody, .statements (inBody.inside meets.rooted) thenChecked, every.2.2.1,
        behind.block⟩
    | elseBody fails =>
      -- The second branch starts from the names behind the first, which are the same.
      have grown := Checker.keeps_comeBack (Stmt.keepsOuter_checkAll _ thenChecked)
      have renamed := (meets.evaluated sound testChecked every.2.1 fails).rename grown.names
      have inside := (inBody.of_grows grown).inside renamed.rooted
      exact ⟨_, _, .elseBody thenChecked, .statements inside elseChecked, every.2.2.2,
        renamed.block⟩
  | loop testChecked bodyChecked =>
    cases step with
    | loopTest => exact ⟨_, _, .loopTest, .value testChecked, every.2.1, meets⟩
    | loopBody holds =>
      have behind := meets.evaluated sound testChecked every.2.1 holds
      exact ⟨_, _, .loopBody, .statements (inBody.inside meets.rooted) bodyChecked, every.2.2,
        behind.block⟩
  | switch valueChecked casesChecked =>
    cases step with
    | scrutinee => exact ⟨_, _, .scrutinee, .value valueChecked, every.2.1, meets⟩
    | cases about =>
      have behind := meets.evaluated sound valueChecked every.2.1 about
      exact ⟨_, _, .cases valueChecked, .cases inBody casesChecked, every.2.2, behind⟩
  | returns _ valueChecked _ =>
    cases step with
    | returned => exact ⟨_, _, .returned, .value valueChecked, every.2, meets⟩

theorem Part.follows_statements {source typed : List Stmt}
    (checked : Stmt.checkAll source checker = .ok typed last)
    (every : Stmt.EveryIn (Expr.Suits discipline) (Stmt.Suits discipline) typed)
    (creates : ∀ {name typeName value value' bound binding rest rest' found middle},
      source = .declaration name typeName value bound :: rest →
      typed = .declaration name typeName value' (some binding) :: rest' →
      Variable.declare checker.names name typeName true value = .ok (value', binding) →
      Expr.Begins value' machine found middle →
      origins checker.names.current.top
        (checker.names.boundVariables checker.names.current.top).length binding
        middle.cells.size)
    (step : Step (.statements typed) machine index inner after) :
    Follows discipline setting origins (.statements source) checker index inner after := by
  cases Stmt.allTyped_of_checkAll checked with
  | nil => cases step
  | cons firstChecked restChecked =>
    cases step with
    | first => exact ⟨_, _, .first, .statement inBody firstChecked, every.1, meets⟩
    | next before =>
      have grown := Stmt.keepsOuter_check firstChecked
      refine ⟨_, _, .next firstChecked, .statements (inBody.of_grows grown) restChecked, every.2,
        meets.ended sound inBody firstChecked every.1 before ?_⟩
      rintro name typeName value value' bound binding found middle rfl rfl declared begins
      exact creates rfl rfl declared begins

theorem Part.follows_cases {type : Ty} {scrutinee : Value} {source typed : List Case}
    (checked : Case.checkAll type source checker = .ok typed last)
    (every : Case.EveryIn (Expr.Suits discipline) (Stmt.Suits discipline) typed)
    (step : Step (.cases scrutinee typed) machine index inner after) :
    Follows discipline setting origins (.cases type source) checker index inner after := by
  cases Case.allTyped_of_checkAll checked with
  | nil => cases step
  | matching valueChecked bodyChecked restChecked =>
    cases step with
    | candidate => exact ⟨_, _, .candidate, .value valueChecked, every.1, meets⟩
    | matched before =>
      have behind := meets.evaluated sound valueChecked every.1 before
      exact ⟨_, _, .matched, .statements (inBody.inside meets.rooted) bodyChecked, every.2.1,
        behind.block⟩
    | unmatched before =>
      -- The cases further down are checked with the names from before the body.
      have grown := Checker.keeps_comeBack (Stmt.keepsOuter_checkAll _ bodyChecked)
      have renamed := (meets.evaluated sound valueChecked every.1 before).rename grown.names
      exact ⟨_, _, .unmatched bodyChecked, .cases (inBody.of_grows grown) restChecked, every.2.2,
        renamed⟩
  | otherwise bodyChecked _ =>
    cases step with
    | otherwise =>
      exact ⟨_, _, .otherwise, .statements (inBody.inside meets.rooted) bodyChecked, every.1,
        meets.block⟩

end statements

/-- What follows a part in a run follows it in checking, with names that the machine meets. -/
theorem Step.follows (sound : setting.Sound discipline) {source : Part Ty} {part : Part Value}
    (step : Step part machine index inner after) (checks : source.Checks checker part)
    (suits : part.Suits discipline)
    (meets : Meets discipline setting origins checker.names machine)
    (creates : ∀ {name typeName value value' bound binding rest rest' found middle},
      source = .statements (.declaration name typeName value bound :: rest) →
      part = .statements (.declaration name typeName value' (some binding) :: rest') →
      Variable.declare checker.names name typeName true value = .ok (value', binding) →
      Expr.Begins value' machine found middle →
      origins checker.names.current.top
        (checker.names.boundVariables checker.names.current.top).length binding
        middle.cells.size) :
    Part.Follows discipline setting origins source checker index inner after := by
  cases checks with
  | value checked => exact Part.follows_value sound checked suits meets step
  | list checked _ =>
    cases step with
    | elements => exact ⟨_, _, .elements, .values checked, suits.2, meets⟩
  | values checked => exact Part.follows_values sound checked suits meets step
  | target checked => exact Part.follows_target checked suits meets step
  | statement inBody checked => exact Part.follows_statement sound inBody meets checked suits step
  | statements inBody checked =>
    apply Part.follows_statements sound inBody meets checked suits _ step
    rintro _ _ _ _ _ _ _ _ _ _ rfl rfl declared begins
    exact creates rfl rfl declared begins
  | cases inBody checked => exact Part.follows_cases sound inBody meets checked suits step

end turns

end Primer
