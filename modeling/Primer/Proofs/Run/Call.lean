import Primer.Proofs.Run.Returns
import Primer.Proofs.Run.Statement
import Primer.Proofs.Typing.Program

/-! Calls of functions of a checked program.

A function that is called finds the global scope as checking knew it, whatever scopes the caller has
around it; its parameters get the arguments, and its body is as it was checked. So calls are sound
for every budget of steps, by induction on it.
-/

set_option autoImplicit false

namespace Primer

open Eval

structure Function.Checked (setting : Setting) (source typed : Function) (signature : Signature)
    (names : Names) (last : Checker) : Prop where
  spelled : source.signature = .ok signature
  same : typed = { source with body := typed.body, binding := some signature }
  rooted : names.Rooted
  current : names.current = Chain.root
  globals : names.boundVariables 0 = setting.globals
  offers : setting.Offers names
  body : Stmt.checkAll source.body (signature.inBody names source.parameters) =
    .ok typed.body last

/-- What a discipline asks of a function. A function that can end without a return yields `nil`. -/
structure Function.Suits (discipline : Discipline) (function : Function) : Prop where
  body : Stmt.EveryIn (Expr.Suits discipline) (Stmt.Suits discipline) function.body
  defaults : Stmt.EveryIn (fun _ => True) Stmt.hasDefault function.body
  ending : ∀ signature, function.binding = some signature →
    discipline.Admits signature.returnType .nil ∨ Stmt.allPathsReturn function.body

/-- Only checked functions are loaded, under their arity, and the built-in one. -/
def Setting.Sound (discipline : Discipline) (setting : Setting) : Prop :=
  ∀ key callable, setting.functions.lookup key = some callable →
    callable = .print ∨
      ∃ (source typed : Function) (signature : Signature) (names : Names) (last : Checker),
        callable = .declared typed Chain.root ∧
        typed.arity = key.2 ∧ source.Checked setting typed signature names last ∧
        source.parameters.length = source.parameterTypes.length ∧ typed.Suits discipline

section parameters

variable {discipline : Discipline} {setting : Setting} {names : Names} {kinds : List Variable}
  {machine : Machine}

/-- Parameters are bound in their order on both sides. -/
theorem Fits.defineAll (fits : Fits discipline setting names kinds machine)
    (inner : names.current.top ≠ 0) {parameters : List String} {types : List Ty}
    {arguments : List Value} (admitted : List.Forall₂ discipline.Admits types arguments)
    (counted : parameters.length = types.length) :
    ∃ more, Fits discipline setting (Names.defineParameters names (parameters.zip types))
      (kinds ++ more) (machine.defineAll (parameters.zip arguments)) := by
  induction admitted generalizing names kinds machine parameters with
  | nil =>
    have empty := List.length_eq_zero_iff.mp counted
    subst empty
    exact ⟨[], by rwa [List.append_nil]⟩
  | @cons type argument types arguments holds _ ih =>
    cases parameters with
    | nil => cases counted
    | cons parameter parameters =>
      have single : discipline.Holds (.single parameter type true) argument := holds
      have defined := fits.define inner parameter single
      obtain ⟨more, rest⟩ := ih defined inner (Nat.succ.inj counted)
      exact ⟨_, by rwa [List.append_assoc] at rest⟩

theorem Fits.reaches_root (fits : Fits discipline setting names kinds machine) :
    machine.scopes.reaches Chain.root.top = true := by
  unfold Environment.reaches
  rw [fits.dynamic.global]
  rfl

end parameters

section calls

variable {discipline : Discipline} {setting : Setting}

/-- The end of a body is only reached where the return type admits `nil`. -/
theorem Function.ending_of_suits {function : Function} {signature : Signature} {call : Call}
    (suits : function.Suits discipline) (bound : function.binding = some signature) (fuel : Nat)
    (machine : Machine) :
    (Stmt.executeAll call fuel function.body).Yields machine fun control =>
      control = .next → discipline.Admits signature.returnType .nil := by
  rcases suits.ending signature bound with nil | paths
  · exact (yields_anything _ _).mono fun _ _ _ _ => nil
  · exact (Stmt.returning_of_allPathsReturn fuel _ _ suits.defaults paths).mono
      fun _ _ returning next => absurd next returning

theorem Callable.invoke_declared_sound {fuel : Nat}
    (calls : Call.Sound discipline setting (Callable.invoke fuel)) {source typed : Function}
    {signature : Signature} {names caller : Names} {last : Checker} {kinds : List Variable}
    {machine : Machine} {arguments : List Value}
    (checked : source.Checked setting typed signature names last)
    (counted : source.parameters.length = source.parameterTypes.length)
    (suits : typed.Suits discipline) (fits : Fits discipline setting caller kinds machine)
    (arity : typed.arity = arguments.length)
    (admitted : List.Forall₂ discipline.Admits signature.parameterTypes arguments) :
    (Callable.invoke (fuel + 1) (.declared typed Chain.root) arguments).Ensures
      discipline.Tolerates machine
      (Extended kinds fun kinds value after =>
        discipline.Stored kinds after ∧ discipline.Admits signature.returnType value) := by
  unfold Callable.invoke
  rw [if_neg (not_not_intro arity)]
  apply ensures_get.bind
  rintro _ _ ⟨rfl, rfl⟩
  rw [fits.reaches_root, if_neg (by decide)]
  have lengths := counted.trans (Function.parameterTypes_of_signature checked.spelled).symm
  have parameters : typed.parameters = source.parameters := by rw [checked.same]
  -- The body starts with its parameters in a new scope, as checking did.
  have entered := fits.enter checked.rooted checked.current checked.globals checked.offers
  obtain ⟨more, started⟩ := entered.defineAll checked.rooted.push_ne_root admitted lengths
  have inner := signature.inBody_ne_root checked.rooted source.parameters
  have executed := Stmt.executeAll_sound calls fuel source.body checked.body suits.body rfl inner
    started
  rw [← parameters] at executed
  have body := executed.and_yields
    (Function.ending_of_suits suits (by rw [checked.same]) fuel _)
  have called : (inChild Chain.root do
      modify fun machine => machine.defineAll (typed.parameters.zip arguments)
      Stmt.executeAll (Callable.invoke fuel) fuel typed.body).Ensures discipline.Tolerates machine
      (Extended kinds fun kinds control after =>
        control.Honours discipline signature.returnType kinds after ∧
          (control = .next → discipline.Admits signature.returnType .nil)) := by
    refine ensures_inChild (Ensures.bind ensures_modify ?_)
    rintro _ _ rfl
    apply body.mono
    rintro control after ⟨⟨others, honours⟩, ending⟩
    exact ⟨more ++ others, by rwa [← List.append_assoc], ending⟩
  apply called.bind
  rintro control after ⟨others, ⟨stored, admitted⟩, ending⟩
  cases control with
  | next => exact ensures_pure ⟨others, stored, ending rfl⟩
  | returning value => exact ensures_pure ⟨others, stored, admitted value rfl⟩

theorem Callable.invoke_print_sound {fuel : Nat} {names : Names} {kinds : List Variable}
    {machine : Machine} {arguments : List Value}
    (fits : Fits discipline setting names kinds machine) :
    (Callable.invoke (fuel + 1) .print arguments).Ensures discipline.Tolerates machine
      (Extended kinds fun kinds value after =>
        discipline.Stored kinds after ∧ discipline.Admits .nil value) := by
  unfold Callable.invoke
  have printed : (printLine (arguments.headD .nil).text).Ensures discipline.Tolerates machine
      fun _ after => discipline.Stored kinds after := by
    apply ensures_get.bind
    rintro _ _ ⟨rfl, rfl⟩
    split
    · exact ensures_fail trivial
    · exact fits.stored
  apply printed.bind
  rintro _ after stored
  exact ensures_pure (.now ⟨stored, .inl rfl⟩)

theorem Callable.invoke_sound (sound : Setting.Sound discipline setting) (fuel : Nat) :
    Call.Sound discipline setting (Callable.invoke fuel) := by
  induction fuel with
  | zero => exact ⟨Callable.keeps_invoke 0, fun _ _ _ _ _ => ensures_outOfFuel⟩
  | succ fuel ih =>
    refine ⟨Callable.keeps_invoke (fuel + 1), ?_⟩
    intro names kinds machine key callable signature arguments fits loaded carries arity admitted
    rcases sound key callable loaded with
      rfl | ⟨source, typed, found, checkedNames, last, rfl, counted, checked, parameters, suits⟩
    · cases carries
      exact invoke_print_sound fits
    · cases Function.eq_of_binding checked.same carries
      exact invoke_declared_sound ih checked parameters suits fits (counted.trans arity) admitted

end calls

end Primer
