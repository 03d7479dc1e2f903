import Primer.Proofs.Run.Expression

/-! Execution of typed statements on machines that fit.

A statement that lets the next one follow leaves a machine that fits the names behind it. One that
returns may stop in the middle of any number of blocks; then only the cells and the returned value
count, and leaving the blocks restores the rest.
-/

set_option autoImplicit false

namespace Primer

open Eval

def Discipline.PermitsMissing (discipline : Discipline) (typeName : Option String) : Prop :=
  discipline.strayNil ∨ typeName = some "Any" ∨ typeName = some "Nil"

def Stmt.Suits (discipline : Discipline) : Stmt → Prop
  | .declaration _ typeName none _ => discipline.PermitsMissing typeName
  | _ => True

def Control.Honours (discipline : Discipline) (returnType : Ty) (kinds : List Variable)
    (control : Control) (after : Machine) : Prop :=
  discipline.Stored kinds after ∧
    ∀ value, control = .returning value → discipline.Admits returnType value

def Control.Follows (discipline : Discipline) (setting : Setting) (names : Names) (returnType : Ty)
    (kinds : List Variable) (control : Control) (after : Machine) : Prop :=
  control.Honours discipline returnType kinds after ∧
    (control = .next → Fits discipline setting names kinds after)

section blocks

variable {discipline : Discipline} {setting : Setting} {names other : Names} {returnType : Ty}
  {kinds : List Variable} {machine : Machine} {work : Eval Control}

theorem Discipline.admits_of_permitsMissing {typeName : Option String} {type : Ty}
    (permitted : discipline.PermitsMissing typeName)
    (spelling : ∀ spelt, typeName = some spelt → Ty.ofName? spelt = some type) :
    discipline.Admits type .nil := by
  rcases permitted with stray | rfl | rfl
  · exact .inr ⟨stray, rfl⟩
  · have found := spelling "Any" rfl
    cases found.symm.trans (Ty.ofName?_name .any)
    exact .inl rfl
  · have found := spelling "Nil" rfl
    cases found.symm.trans (Ty.ofName?_name .nil)
    exact .inl rfl

/-- A variable that goes without a value, as it may, holds a `nil` that its type admits. -/
theorem Discipline.admits_of_missing {typeName : Option String} {type : Ty} {value : Option Expr}
    (permitted : value = none → discipline.PermitsMissing typeName)
    (spelling : ∀ spelt, typeName = some spelt → Ty.ofName? spelt = some type) :
    value = none → discipline.Admits type .nil :=
  fun missing => admits_of_permitsMissing (permitted missing) spelling

theorem Stmt.missing_of_suits {name : String} {typeName : Option String} {value : Option Expr}
    {binding : Option Variable}
    (suits : (Stmt.declaration name typeName value binding).Suits discipline) :
    value = none → discipline.PermitsMissing typeName := by
  rintro rfl
  exact suits

/-- Work that leaves the scopes on the chain alone leaves a machine that fits. -/
theorem Eval.Ensures.settle
    (ensures : work.Ensures discipline.Tolerates machine
      (Extended kinds (Control.Honours discipline returnType)))
    (fits : Fits discipline setting names kinds machine) (keeps : names.Keeps other)
    (workKeeps : work.Keeps) :
    work.Ensures discipline.Tolerates machine
      (Extended kinds (Control.Follows discipline setting other returnType)) := by
  apply (ensures.and_keeps workKeeps).mono
  rintro control after ⟨kept, more, stored, admitted⟩
  exact ⟨more, ⟨stored, admitted⟩, fun _ => fits.later keeps kept stored⟩

theorem Eval.ensures_block
    (inner : work.Ensures discipline.Tolerates (machine.inside machine.scopes.current)
      (Extended kinds (Control.Honours discipline returnType))) :
    (inScope work).Ensures discipline.Tolerates machine
      (Extended kinds (Control.Honours discipline returnType)) :=
  ensures_inScope inner

/-- A loop keeps what every round keeps. -/
theorem Eval.ensures_repeatWhile {test : Eval Bool} {body : Eval Control}
    (testEnsures : ∀ kinds machine, Fits discipline setting names kinds machine →
      test.Ensures discipline.Tolerates machine
        (Extended kinds (Fits.Outcome discipline setting names fun _ => True)))
    (bodyEnsures : ∀ kinds machine, Fits discipline setting names kinds machine →
      body.Ensures discipline.Tolerates machine
        (Extended kinds (Control.Honours discipline returnType)))
    (bodyKeeps : body.Keeps) (fuel : Nat)
    (fits : Fits discipline setting names kinds machine) :
    (repeatWhile test body fuel).Ensures discipline.Tolerates machine
      (Extended kinds (Control.Honours discipline returnType)) := by
  induction fuel generalizing kinds machine with
  | zero => exact ensures_outOfFuel
  | succ fuel ih =>
    unfold repeatWhile
    apply (testEnsures kinds machine fits).bindExtended
    rintro more holds after ⟨fits, -⟩
    cases holds with
    | false => exact ensures_pure (.now ⟨fits.stored, nofun⟩)
    | true =>
      apply ((bodyEnsures _ after fits).settle fits (.refl names) bodyKeeps).bindExtended
      rintro others control last ⟨honours, follows⟩
      cases control with
      | next => exact ih (follows rfl)
      | returning value => exact ensures_pure (.now honours)

end blocks

section statements

variable {discipline : Discipline} {setting : Setting} {call : Call} {returnType : Ty}

def Eval.initialValue (call : Call) : Option Expr → Eval Value
  | some value => value.evaluate call
  | none => pure .nil

theorem Eval.keeps_initialValue (calls : call.Keeps) (value : Option Expr) :
    (initialValue call value).Keeps := by
  cases value with
  | none => exact keeps_pure _
  | some given => exact given.keeps_evaluate calls

theorem Stmt.execute_declaration {name : String} {typeName : Option String} {value : Option Expr}
    {binding : Option Variable} {fuel : Nat} :
    (Stmt.declaration name typeName value binding).execute call fuel =
      (do
        let value ← initialValue call value
        define name value
        return .next) := by
  cases value <;> rfl

theorem Eval.ensures_initialValue (calls : call.Sound discipline setting) {names : Names}
    {binding : Variable} {value typed : Option Expr} {kinds : List Variable} {machine : Machine}
    (initial : Variable.Initial names binding value typed)
    (missing : typed = none → discipline.Admits binding.type .nil)
    (every : ∀ given, typed = some given → given.Every (Expr.Suits discipline))
    (fits : Fits discipline setting names kinds machine) :
    (initialValue call typed).Ensures discipline.Tolerates machine
      (Extended kinds (Fits.Outcome discipline setting names (discipline.Holds binding))) := by
  cases initial with
  | missing single =>
    exact ensures_pure (.now ⟨fits, (Discipline.holds_single single).mpr (missing rfl)⟩)
  | @single value typed actual single checked accepted =>
    apply (Expr.evaluate_sound calls value checked (every typed rfl) fits).mono
    rintro found after ⟨more, fits, admitted⟩
    refine ⟨more, fits, (Discipline.holds_single single).mpr ?_⟩
    exact Discipline.admits_of_accepts accepted admitted
  | @list elements elements' elementType type types list checked accepted =>
    have suits := (every _ rfl).2
    apply (Expr.evaluateAll_sound calls elements checked suits fits).bindExtended
    rintro more items after ⟨fits, admitted⟩
    refine ensures_pure (.now ⟨fits, (Discipline.holds_list list).mpr ?_⟩)
    exact ⟨items, rfl, Discipline.admits_items_of_accepts accepted admitted⟩

theorem Eval.ensures_assign (calls : call.Sound discipline setting) {checker : Checker}
    {target value target' value' : Expr} {expected actual : Ty} {kinds : List Variable}
    {machine : Machine}
    (targetChecked : Check.receiver target checker = .ok (target', expected) checker)
    (valueChecked : value.check checker.names = .ok (value', actual))
    (accepted : expected.accepts actual) (targetEvery : target'.Every (Expr.Suits discipline))
    (valueEvery : value'.Every (Expr.Suits discipline))
    (fits : Fits discipline setting checker.names kinds machine) :
    (assign call target' value').Ensures discipline.Tolerates machine
      (Extended kinds (Fits.Outcome discipline setting checker.names fun _ => True)) := by
  obtain ⟨checked, -, form⟩ := Check.of_receiver targetChecked
  rcases form with ⟨name, bound, written, rfl, -⟩ | ⟨name, index, bound, written, rfl⟩
  · obtain ⟨binding, found, single, rfl, rfl⟩ := Expr.check_named checked
    unfold assign
    apply (Expr.evaluate_sound calls value valueChecked valueEvery fits).bindExtended
    rintro more result after ⟨fits, admitted⟩
    obtain ⟨number, looked, made⟩ := fits.cell found
    apply (ensures_cell looked).bind
    rintro _ _ ⟨rfl, rfl⟩
    refine .now ⟨fits.store made ((Discipline.holds_single single).mpr ?_), trivial⟩
    exact Discipline.admits_of_accepts accepted admitted
  · obtain ⟨binding, index', indexType, found, list, indexChecked, indexAccepted, rfl, rfl⟩ :=
      Expr.check_element checked
    unfold assign
    apply (Expr.evaluate_sound calls value valueChecked valueEvery fits).bindExtended
    rintro more result after ⟨fits, admitted⟩
    obtain ⟨number, looked, made⟩ := fits.cell found
    apply (ensures_cell looked).bind
    rintro _ _ ⟨rfl, rfl⟩
    apply (Expr.evaluate_sound calls index indexChecked targetEvery.2 fits).bindExtended
    rintro others place last ⟨fits, placeAdmitted⟩
    have still := List.getElem?_append_of_some made others
    obtain ⟨items, held, all⟩ := fits.items still list
    apply (ensures_items held).bind
    rintro _ _ ⟨rfl, rfl⟩
    apply (ensures_slot (Discipline.admits_of_accepts indexAccepted placeAdmitted) _).bind
    rintro slot _ ⟨inside, rfl⟩
    refine .now ⟨fits.store still ((Discipline.holds_list list).mpr ?_), trivial⟩
    refine ⟨_, rfl, fun item member => ?_⟩
    rcases List.mem_or_eq_of_mem_set member with old | rfl
    · exact all item old
    · exact Discipline.admits_of_accepts accepted admitted

/-- A declaration lets the next statement follow; any other statement settles what its blocks and
calls leave. -/
theorem Stmt.execute_follows (calls : call.Sound discipline setting) {before after : Checker}
    {kinds : List Variable} {machine : Machine} {fuel : Nat} {statement typed : Stmt}
    (checked : statement.check before = .ok typed after)
    (every : typed.Every (Expr.Suits discipline) (Stmt.Suits discipline))
    (inner : before.names.current.top ≠ 0)
    (fits : Fits discipline setting before.names kinds machine)
    (honours : typed.isDeclaration = false →
      (typed.execute call fuel).Ensures discipline.Tolerates machine
        (Extended kinds (Control.Honours discipline returnType))) :
    (typed.execute call fuel).Ensures discipline.Tolerates machine
      (Extended kinds (Control.Follows discipline setting after.names returnType)) := by
  cases declares : statement.isDeclaration with
  | true =>
    cases statement with
    | declaration name typeName value bound =>
      obtain ⟨value', binding, declared, rfl, rfl⟩ := check_declaration checked
      obtain ⟨initial, -, spelling, -⟩ := Variable.initial_of_declare declared
      rw [Stmt.execute_declaration]
      -- A declaration is the one statement that the names behind it differ for.
      have missing := Discipline.admits_of_missing (Stmt.missing_of_suits every.1) spelling
      apply (ensures_initialValue calls initial missing every.2 fits).bindExtended
      rintro more found last ⟨fits, holds⟩
      have defined := fits.define inner name holds
      exact ⟨[binding], ⟨defined.stored, nofun⟩, fun _ => defined⟩
    | expression | assignment | conditional | loop | switch | returns => cases declares
  | false =>
    have plain := (isDeclaration_of_check checked).trans declares
    exact (honours plain).settle fits (Stmt.keeps_check statement checked declares).names
      (Stmt.keeps_execute calls.keeps fuel typed plain)

variable {signature : Signature}

mutual

theorem Stmt.execute_sound (calls : call.Sound discipline setting) (fuel : Nat)
    {before after : Checker} {kinds : List Variable} {machine : Machine} {typed : Stmt} :
    (statement : Stmt) → statement.check before = .ok typed after →
    typed.Every (Expr.Suits discipline) (Stmt.Suits discipline) →
    before.body.map Checker.Body.signature = some signature →
    Fits discipline setting before.names kinds machine → typed.isDeclaration = false →
    (typed.execute call fuel).Ensures discipline.Tolerates machine
      (Extended kinds (Control.Honours discipline signature.returnType))
  | .expression value, checked, every, _, fits, _ => by
    obtain ⟨value', type, -, valueChecked, rfl, -⟩ := Stmt.check_expression checked
    unfold Stmt.execute
    have evaluated := Expr.evaluate_sound calls value valueChecked every.2 fits
    have discarded : (discard (value'.evaluate call)).Ensures discipline.Tolerates machine
        (Extended kinds (Fits.Outcome discipline setting before.names fun _ => True)) := by
      apply evaluated.bindExtended
      rintro more found last ⟨fits, -⟩
      exact ensures_pure (.now ⟨fits, trivial⟩)
    apply discarded.bindExtended
    rintro more _ last ⟨fits, -⟩
    exact ensures_pure (.now ⟨fits.stored, nofun⟩)
  | .declaration _ _ _ _, checked, _, _, _, plain => by
    obtain ⟨_, _, -, rfl, -⟩ := Stmt.check_declaration checked
    cases plain
  | .assignment target value, checked, every, _, fits, _ => by
    obtain ⟨target', expected, value', actual, targetChecked, valueChecked, accepted, rfl, -⟩ :=
      Stmt.check_assignment checked
    unfold Stmt.execute
    refine (ensures_assign calls targetChecked valueChecked accepted every.2.1 every.2.2
      fits).bindExtended ?_
    rintro more _ last ⟨fits, -⟩
    exact ensures_pure (.now ⟨fits.stored, nofun⟩)
  | .conditional test thenBody elseBody, checked, every, inside, fits, _ => by
    obtain ⟨test', thenBody', elseBody', middle, last, testChecked, -, thenChecked, elseChecked,
      rfl, -⟩ := Stmt.check_conditional checked
    unfold Stmt.execute
    have tested := Expr.evaluate_sound calls test testChecked every.2.1 fits
    apply (ensures_condition tested).bindExtended
    rintro more holds between ⟨fits, -⟩
    cases holds with
    | true =>
      exact ensures_block
        (Stmt.executeAll_sound calls fuel thenBody thenChecked every.2.2.1 inside
          fits.static.push_ne_root fits.inside)
    | false =>
      -- The names behind the first branch are the same, in an environment that has grown.
      have grown := Checker.keeps_comeBack (Stmt.keepsOuter_checkAll thenBody thenChecked)
      have renamed := fits.rename grown.names
      exact ensures_block
        (Stmt.executeAll_sound calls fuel elseBody elseChecked every.2.2.2
          (grown.signature.trans inside)
          renamed.static.push_ne_root renamed.inside)
  | .loop test body, checked, every, inside, fits, _ => by
    obtain ⟨test', body', last, testChecked, bodyChecked, rfl, -⟩ := Stmt.check_loop checked
    unfold Stmt.execute
    -- Neither the condition nor the body changes the names, so every round starts as the first.
    refine ensures_repeatWhile ?_ ?_
      (keeps_inScope (Stmt.keepsOuter_executeAll calls.keeps fuel body')) fuel fits
    · intro kinds machine fits
      exact ensures_condition (Expr.evaluate_sound calls test testChecked every.2.1 fits)
    · intro kinds machine fits
      exact ensures_block
        (Stmt.executeAll_sound calls fuel body bodyChecked every.2.2 inside
          fits.static.push_ne_root fits.inside)
  | .switch value cases, checked, every, inside, fits, _ => by
    obtain ⟨value', type, cases', valueChecked, casesChecked, rfl⟩ := Stmt.check_switch checked
    unfold Stmt.execute
    apply (Expr.evaluate_sound calls value valueChecked every.2.1 fits).bindExtended
    rintro more scrutinee between ⟨fits, -⟩
    exact Case.select_sound calls fuel scrutinee cases casesChecked every.2.2 inside fits
  | .returns value, checked, every, inside, fits, _ => by
    obtain ⟨body, value', actual, here, valueChecked, accepted, rfl, -⟩ :=
      Stmt.check_returns checked
    have same : body.signature = signature := by simpa [here] using inside
    subst same
    unfold Stmt.execute
    apply (Expr.evaluate_sound calls value valueChecked every.2 fits).bindExtended
    rintro more result last ⟨fits, admitted⟩
    refine ensures_pure (.now ⟨fits.stored, ?_⟩)
    rintro _ ⟨rfl⟩
    exact Discipline.admits_of_accepts accepted admitted

theorem Stmt.executeAll_sound (calls : call.Sound discipline setting) (fuel : Nat)
    {before after : Checker} {kinds : List Variable} {machine : Machine} {typed : List Stmt} :
    (statements : List Stmt) → Stmt.checkAll statements before = .ok typed after →
    Stmt.EveryIn (Expr.Suits discipline) (Stmt.Suits discipline) typed →
    before.body.map Checker.Body.signature = some signature →
    before.names.current.top ≠ 0 → Fits discipline setting before.names kinds machine →
    (Stmt.executeAll call fuel typed).Ensures discipline.Tolerates machine
      (Extended kinds (Control.Honours discipline signature.returnType))
  | [], checked, _, _, _, fits => by
    obtain ⟨rfl, -⟩ := Stmt.checkAll_nil checked
    exact ensures_pure (.now ⟨fits.stored, nofun⟩)
  | first :: rest, checked, every, inside, inner, fits => by
    obtain ⟨first', rest', middle, firstChecked, restChecked, rfl⟩ := Stmt.checkAll_cons checked
    have grown := Stmt.keepsOuter_check firstChecked
    unfold Stmt.executeAll
    refine (Stmt.execute_follows calls firstChecked every.1 inner fits
      (Stmt.execute_sound calls fuel first firstChecked every.1 inside fits)).bindExtended ?_
    rintro more control last ⟨honours, follows⟩
    cases control with
    | next =>
      exact Stmt.executeAll_sound calls fuel rest restChecked every.2
        (grown.signature.trans inside) (grown.names.current ▸ inner) (follows rfl)
    | returning value => exact ensures_pure (.now honours)

theorem Case.select_sound (calls : call.Sound discipline setting) (fuel : Nat)
    (scrutinee : Value) {type : Ty} {before after : Checker} {kinds : List Variable}
    {machine : Machine} {typed : List Case} :
    (cases : List Case) → Case.checkAll type cases before = .ok typed after →
    Case.EveryIn (Expr.Suits discipline) (Stmt.Suits discipline) typed →
    before.body.map Checker.Body.signature = some signature →
    Fits discipline setting before.names kinds machine →
    (Case.select call fuel scrutinee typed).Ensures discipline.Tolerates machine
      (Extended kinds (Control.Honours discipline signature.returnType))
  | [], checked, _, _, fits => by
    obtain ⟨rfl, -⟩ := Case.checkAll_nil checked
    exact ensures_pure (.now ⟨fits.stored, nofun⟩)
  | .matching value body :: rest, checked, every, inside, fits => by
    obtain ⟨value', body', rest', last, valueChecked, bodyChecked, restChecked, rfl⟩ :=
      Case.checkAll_matching checked
    have grown := Checker.keeps_comeBack (Stmt.keepsOuter_checkAll body bodyChecked)
    unfold Case.select
    apply (Expr.evaluate_sound calls value valueChecked every.1 fits).bindExtended
    rintro more candidate between ⟨fits, -⟩
    cases candidate.equal scrutinee with
    | true =>
      exact ensures_block
        (Stmt.executeAll_sound calls fuel body bodyChecked every.2.1 inside
          fits.static.push_ne_root fits.inside)
    | false =>
      exact Case.select_sound calls fuel scrutinee rest restChecked every.2.2
        (grown.signature.trans inside) (fits.rename grown.names)
  | .otherwise body :: rest, checked, every, inside, fits => by
    obtain ⟨body', last, -, bodyChecked, rfl, -⟩ := Case.checkAll_otherwise checked
    unfold Case.select
    exact ensures_block
      (Stmt.executeAll_sound calls fuel body bodyChecked every.1 inside
        fits.static.push_ne_root fits.inside)

end

end statements

end Primer
