import Primer.Proofs.Run.Fits

/-! Evaluation of typed expressions on machines that fit.

An expression leaves a machine that fits and yields a value that its type admits; if it stops with
an error, the discipline tolerates it.
-/

set_option autoImplicit false

namespace Primer

open Eval

/-- Whether the discipline has an answer for what the node itself does. -/
def Expr.Suits (discipline : Discipline) : Expr → Prop
  | .binary operator left right _ => ∀ leftType rightType, left.type? = some leftType →
      right.type? = some rightType → discipline.Permits operator leftType rightType
  | _ => True

/-- Where different kinds may be compared, there is an answer for everything. -/
theorem Expr.suits_of_mixedOrder {discipline : Discipline} (mixed : discipline.mixedOrder = true)
    (expr : Expr) : expr.Suits discipline := by
  cases expr with
  | binary => exact fun _ _ _ _ => .inl mixed
  | literal | group | named | element | call | list => trivial

theorem Expr.type?_of_check {names : Names} {expr typed : Expr} {type : Ty}
    (checked : expr.check names = .ok (typed, type)) : typed.type? = some type := by
  cases expr with
  | literal value written =>
    obtain ⟨-, rfl⟩ := check_literal checked
    rfl
  | group inner written =>
    obtain ⟨_, -, rfl⟩ := check_group checked
    rfl
  | binary operator left right written =>
    obtain ⟨_, _, _, _, -, -, -, rfl⟩ := check_binary checked
    rfl
  | named name bound written =>
    obtain ⟨_, -, -, -, rfl⟩ := check_named checked
    rfl
  | element name index bound written =>
    obtain ⟨_, _, _, -, -, -, -, -, rfl⟩ := check_element checked
    rfl
  | call name arguments bound written =>
    obtain ⟨_, _, -, -, -, rfl⟩ := check_call checked
    rfl
  | list elements elementType written => exact absurd checked check_list

/-- A postcondition for some list of cells that begins with the given ones. -/
def Extended {α : Type} (kinds : List Variable)
    (post : List Variable → α → Machine → Prop) (value : α) (after : Machine) : Prop :=
  ∃ more, post (kinds ++ more) value after

section extended

variable {α β : Type} {tolerates : RunError → Prop} {kinds : List Variable} {machine : Machine}

theorem Extended.now {post : List Variable → α → Machine → Prop} {value : α} {after : Machine}
    (holds : post kinds value after) : Extended kinds post value after :=
  ⟨[], by rwa [List.append_nil]⟩

theorem Eval.Ensures.bindExtended {work : Eval α} {next : α → Eval β}
    {middle : List Variable → α → Machine → Prop} {post : List Variable → β → Machine → Prop}
    (first : work.Ensures tolerates machine (Extended kinds middle))
    (rest : ∀ more value after, middle (kinds ++ more) value after →
      (next value).Ensures tolerates after (Extended (kinds ++ more) post)) :
    (work >>= next).Ensures tolerates machine (Extended kinds post) := by
  apply first.bind
  rintro value after ⟨more, holds⟩
  apply (rest more value after holds).mono
  rintro result last ⟨others, done⟩
  exact ⟨more ++ others, by rwa [← List.append_assoc]⟩

end extended

def Fits.Outcome {α : Type} (discipline : Discipline) (setting : Setting) (names : Names)
    (good : α → Prop) (kinds : List Variable) (value : α) (after : Machine) : Prop :=
  Fits discipline setting names kinds after ∧ good value

/-- Calls of loaded functions, with arguments that the types of their parameters admit. -/
structure Call.Sound (discipline : Discipline) (setting : Setting) (call : Call) : Prop where
  keeps : call.Keeps
  ensures : ∀ {names : Names} {kinds : List Variable} {machine : Machine} {key : String × Nat}
    {callable : Callable} {signature : Signature} {arguments : List Value},
    Fits discipline setting names kinds machine →
    setting.functions.lookup key = some callable → callable.Carries signature →
    key.2 = arguments.length →
    List.Forall₂ discipline.Admits signature.parameterTypes arguments →
    (call callable arguments).Ensures discipline.Tolerates machine
      (Extended kinds fun kinds value after =>
        discipline.Stored kinds after ∧ discipline.Admits signature.returnType value)

section primitives

variable {discipline : Discipline} {machine : Machine}

theorem Eval.ensures_cell {tolerates : RunError → Prop} {name : String} {number : Nat}
    (found : machine.scopes.getVariable? name = some number) :
    (cell name).Ensures tolerates machine fun value after => value = number ∧ after = machine := by
  apply ensures_get.bind
  rintro _ _ ⟨rfl, rfl⟩
  rw [found]
  exact ensures_pure ⟨rfl, rfl⟩

theorem Eval.ensures_load {tolerates : RunError → Prop} {number : Nat} {value : Value}
    (held : machine.cells[number]? = some value) :
    (load number).Ensures tolerates machine fun found after => found = value ∧ after = machine := by
  apply ensures_get.bind
  rintro _ _ ⟨rfl, rfl⟩
  rw [held]
  exact ensures_pure ⟨rfl, rfl⟩

theorem Eval.ensures_items {tolerates : RunError → Prop} {name : String} {number : Nat}
    {values : List Value} (held : machine.cells[number]? = some (.sequence values)) :
    (items name number).Ensures tolerates machine
      fun found after => found = values ∧ after = machine := by
  apply (ensures_load held).bind
  rintro _ _ ⟨rfl, rfl⟩
  exact ensures_pure ⟨rfl, rfl⟩

theorem Eval.ensures_slot {index : Value} (admitted : discipline.Admits .integer index)
    (length : Nat) :
    (slot index length).Ensures discipline.Tolerates machine
      fun place after => place < length ∧ after = machine := by
  rcases admitted.integer with ⟨i, rfl⟩ | ⟨stray, rfl⟩
  · by_cases inside : 0 ≤ i ∧ i < length
    · have found : slot (.integer i) length = pure i.toNat := if_pos inside
      rw [found]
      exact ensures_pure ⟨by omega, rfl⟩
    · have missing : slot (.integer i) length = fail (.indexOutOfRange i length) := if_neg inside
      rw [missing]
      exact ensures_fail trivial
  · exact ensures_fail stray

theorem Eval.ensures_condition {kinds : List Variable} {setting : Setting} {names : Names}
    {call : Call} {test : Expr}
    (evaluated : (test.evaluate call).Ensures discipline.Tolerates machine
      (Extended kinds (Fits.Outcome discipline setting names (discipline.Admits .boolean)))) :
    (condition call test).Ensures discipline.Tolerates machine
      (Extended kinds (Fits.Outcome discipline setting names fun _ : Bool => True)) := by
  apply evaluated.bindExtended
  rintro more value after ⟨fits, admitted⟩
  rcases admitted.boolean with ⟨b, rfl⟩ | ⟨stray, rfl⟩
  · exact ensures_pure (.now ⟨fits, trivial⟩)
  · exact ensures_fail stray

end primitives

section expressions

variable {discipline : Discipline} {setting : Setting} {names : Names} {call : Call}

theorem Discipline.admits_literal {value : Literal} {type : Ty} (checked : value.check = .ok type) :
    discipline.Admits type (.ofLiteral value) := by
  left
  unfold Literal.check at checked
  split at checked
  · split at checked <;> cases checked
    rfl
  · split at checked <;> cases checked
    rfl
  · cases checked
    cases value <;> rfl

theorem Eval.ensures_ofExcept {kinds : List Variable} {machine : Machine} {type : Ty}
    {answer : Except RunError Value} (fits : Fits discipline setting names kinds machine)
    (allowed : discipline.Allows type answer) :
    (ofExcept answer).Ensures discipline.Tolerates machine
      (Extended kinds (Fits.Outcome discipline setting names (discipline.Admits type))) := by
  cases answer with
  | ok value => exact ensures_pure (.now ⟨fits, allowed⟩)
  | error error => exact ensures_fail allowed

/-- The value of a single variable. -/
theorem Eval.ensures_variable {kinds : List Variable} {machine : Machine} {name : String}
    {binding : Variable} (fits : Fits discipline setting names kinds machine)
    (found : names.getVariable? name = some binding) (single : binding.isList = false) :
    (cell name >>= load).Ensures discipline.Tolerates machine
      (Extended kinds
        (Fits.Outcome discipline setting names (discipline.Admits binding.type))) := by
  obtain ⟨number, looked, made⟩ := fits.cell found
  obtain ⟨value, held, holds⟩ := fits.stored.get made
  apply (ensures_cell looked).bind
  rintro _ _ ⟨rfl, rfl⟩
  apply (ensures_load held).mono
  rintro _ _ ⟨rfl, rfl⟩
  exact .now ⟨fits, (Discipline.holds_single single).mp holds⟩

theorem Fits.items {kinds : List Variable} {machine : Machine} {number : Nat}
    {binding : Variable} (fits : Fits discipline setting names kinds machine)
    (made : kinds[number]? = some binding) (list : binding.isList = true) :
    ∃ items, machine.cells[number]? = some (.sequence items) ∧
      ∀ item ∈ items, discipline.Admits binding.type item := by
  obtain ⟨value, held, holds⟩ := fits.stored.get made
  obtain ⟨items, rfl, admitted⟩ := (Discipline.holds_list list).mp holds
  exact ⟨items, held, admitted⟩

theorem Eval.ensures_callNamed {kinds : List Variable} {machine : Machine} {name : String}
    {signature : Signature} {arguments : List Value} (calls : call.Sound discipline setting)
    (fits : Fits discipline setting names kinds machine)
    (found : names.getFunction? name arguments.length = some signature)
    (admitted : List.Forall₂ discipline.Admits signature.parameterTypes arguments) :
    (callNamed call name arguments).Ensures discipline.Tolerates machine
      (Extended kinds
        (Fits.Outcome discipline setting names (discipline.Admits signature.returnType))) := by
  obtain ⟨-, callable, looked, loaded, carries⟩ := fits.function found
  unfold callNamed
  apply ensures_get.bind
  rintro _ _ ⟨rfl, rfl⟩
  simp only [looked]
  have called := calls.ensures fits loaded carries rfl admitted
  apply (called.and_keeps (calls.keeps callable arguments)).mono
  rintro value after ⟨kept, more, stored, result⟩
  exact ⟨more, fits.later (.refl _) kept stored, result⟩

theorem Discipline.admits_all_of_accepts {parameters types : List Ty} {values : List Value}
    (accepted :
      List.Forall₂ (fun parameter type => Ty.accepts parameter type = true) parameters types)
    (admitted : List.Forall₂ discipline.Admits types values) :
    List.Forall₂ discipline.Admits parameters values := by
  induction accepted generalizing values with
  | nil => cases admitted; exact .nil
  | cons fits _ ih =>
    cases admitted with
    | cons first rest => exact .cons (admits_of_accepts fits first) (ih rest)

theorem Discipline.admits_items_of_accepts {type : Ty} {types : List Ty} {items : List Value}
    (accepted : ∀ actual ∈ types, type.accepts actual)
    (admitted : List.Forall₂ discipline.Admits types items) :
    ∀ item ∈ items, discipline.Admits type item := by
  induction admitted with
  | nil => exact fun _ member => nomatch member
  | @cons actual first types rest fits _ ih =>
    intro item member
    rcases List.mem_cons.mp member with rfl | member
    · exact admits_of_accepts (accepted actual List.mem_cons_self) fits
    · exact ih (fun other inside => accepted other (List.mem_cons_of_mem _ inside)) item member

mutual

theorem Expr.evaluate_sound (calls : call.Sound discipline setting) {kinds : List Variable}
    {machine : Machine} {typed : Expr} {type : Ty} : (expr : Expr) →
    expr.check names = .ok (typed, type) → typed.Every (Expr.Suits discipline) →
    Fits discipline setting names kinds machine →
    (typed.evaluate call).Ensures discipline.Tolerates machine
      (Extended kinds (Fits.Outcome discipline setting names (discipline.Admits type)))
  | .literal value _, checked, _, fits => by
    obtain ⟨passed, rfl⟩ := Expr.check_literal checked
    exact ensures_pure (.now ⟨fits, Discipline.admits_literal passed⟩)
  | .group inner _, checked, every, fits => by
    obtain ⟨inner', innerChecked, rfl⟩ := Expr.check_group checked
    unfold Expr.evaluate
    exact Expr.evaluate_sound calls inner innerChecked every.2 fits
  | .binary operator left right _, checked, every, fits => by
    obtain ⟨left', leftType, right', rightType, leftChecked, rightChecked, result, rfl⟩ :=
      Expr.check_binary checked
    have permitted := every.1 leftType rightType (Expr.type?_of_check leftChecked)
      (Expr.type?_of_check rightChecked)
    unfold Expr.evaluate
    apply (Expr.evaluate_sound calls left leftChecked every.2.1 fits).bindExtended
    rintro more leftValue after ⟨fits, leftAdmitted⟩
    apply (Expr.evaluate_sound calls right rightChecked every.2.2 fits).bindExtended
    rintro others rightValue last ⟨fits, rightAdmitted⟩
    exact ensures_ofExcept fits
      (Discipline.allows_apply result permitted leftAdmitted rightAdmitted)
  | .named name _ _, checked, _, fits => by
    obtain ⟨binding, found, single, rfl, rfl⟩ := Expr.check_named checked
    exact ensures_variable fits found single
  | .element name index _ _, checked, every, fits => by
    obtain ⟨binding, index', indexType, found, list, indexChecked, accepted, rfl, rfl⟩ :=
      Expr.check_element checked
    obtain ⟨number, looked, made⟩ := fits.cell found
    unfold Expr.evaluate
    apply (ensures_cell looked).bind
    rintro _ _ ⟨rfl, rfl⟩
    apply (Expr.evaluate_sound calls index indexChecked every.2 fits).bindExtended
    rintro more place after ⟨fits, admitted⟩
    -- The cell is still there after the index has been evaluated, and still holds a list.
    obtain ⟨items, held, all⟩ := fits.items (List.getElem?_append_of_some made more) list
    apply (ensures_items held).bind
    rintro _ _ ⟨rfl, rfl⟩
    apply (ensures_slot (Discipline.admits_of_accepts accepted admitted) _).bind
    rintro slot _ ⟨inside, rfl⟩
    refine ensures_pure (.now ⟨fits, ?_⟩)
    rw [List.getElem?_eq_getElem inside]
    exact all _ (List.getElem_mem inside)
  | .call name arguments _ _, checked, every, fits => by
    obtain ⟨signature, arguments', found, argumentsChecked, rfl, rfl⟩ := Expr.check_call checked
    obtain ⟨counted, -⟩ := fits.function found
    obtain ⟨types, all, accepted⟩ :=
      Expr.checkAll_of_checkArguments counted.symm argumentsChecked
    unfold Expr.evaluate
    apply (Expr.evaluateAll_sound calls arguments all every.2 fits).bindExtended
    rintro more values after ⟨fits, admitted⟩
    have lengths := all.lengths
    have same : arguments.length = values.length := by
      rw [lengths.1, lengths.2]
      exact admitted.length_eq
    -- So the run looks for the function that checking found.
    rw [same] at found
    exact ensures_callNamed calls fits found
      (Discipline.admits_all_of_accepts accepted admitted)
  | .list _ _ _, checked, _, _ => absurd checked Expr.check_list

theorem Expr.evaluateAll_sound (calls : call.Sound discipline setting) {kinds : List Variable}
    {machine : Machine} {typed : List Expr} {types : List Ty} : (exprs : List Expr) →
    Expr.CheckAll names exprs typed types → Expr.EveryIn (Expr.Suits discipline) typed →
    Fits discipline setting names kinds machine →
    (Expr.evaluateAll call typed).Ensures discipline.Tolerates machine
      (Extended kinds
        (Fits.Outcome discipline setting names (List.Forall₂ discipline.Admits types)))
  | [], checked, _, fits => by
    cases typed <;> cases types <;> try exact checked.elim
    exact ensures_pure (.now ⟨fits, .nil⟩)
  | first :: rest, checked, every, fits => by
    cases typed <;> cases types <;> try exact checked.elim
    obtain ⟨firstChecked, restChecked⟩ := checked
    unfold Expr.evaluateAll
    apply (Expr.evaluate_sound calls first firstChecked every.1 fits).bindExtended
    rintro more value after ⟨fits, admitted⟩
    apply (Expr.evaluateAll_sound calls rest restChecked every.2 fits).bindExtended
    rintro others values last ⟨fits, all⟩
    exact ensures_pure (.now ⟨fits, .cons admitted all⟩)

end

end expressions

end Primer
