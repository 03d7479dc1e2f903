import Primer.Proofs.Run.Moment
import Primer.Proofs.Typing.View

/-! What a run keeps true from one part to the next.

A machine meets the names that checking had at a part if it fits them and if every cell that a name
leads to was made by what the checker takes the name for. Work on one part establishes this for the
part that follows.
-/

set_option autoImplicit false

namespace Primer

open Eval

/-- The machine fits the names; `origins` relates each variable in its place, a scope and the number
of older bindings in it, to the cell that the run binds there. -/
structure Meets (discipline : Discipline) (setting : Setting)
    (origins : Nat → Nat → Variable → Nat → Prop) (names : Names) (machine : Machine) : Prop where
  fits : ∃ kinds, Fits discipline setting names kinds machine
  traced : names.Agree origins machine.scopes

structure Checker.InBody (checker : Checker) : Prop where
  inner : checker.names.current.top ≠ 0
  signature : ∃ signature, checker.body.map Checker.Body.signature = some signature

theorem Checker.InBody.of_grows {isOpen : Nat → Prop} {before after : Checker}
    (inBody : before.InBody) (grows : Checker.Grows isOpen before after) : after.InBody where
  inner := grows.names.current ▸ inBody.inner
  signature := by
    obtain ⟨signature, inside⟩ := inBody.signature
    exact ⟨signature, grows.signature.trans inside⟩

theorem Checker.InBody.inside {checker : Checker} (inBody : checker.InBody)
    (rooted : checker.names.Rooted) : checker.inside.InBody where
  inner := rooted.push_ne_root
  signature := inBody.signature

/-- What checking makes of a part. A list is checked by what declares it. -/
inductive Part.Checks (checker : Checker) : Part Ty → Part Value → Prop where
  | value {source typed : Expr} {type : Ty}
      (checked : source.check checker.names = .ok (typed, type)) :
    Checks checker (.value source) (.value typed)
  | list {elements elements' : List Expr} {elementType written : Option Ty} {types : List Ty}
      {type : Ty} (checked : Expr.CheckAll checker.names elements elements' types)
      (accepted : ∀ actual ∈ types, type.accepts actual) :
    Checks checker (.value (.list elements elementType written))
      (.value (.list elements' (some type) (some type)))
  | values {sources typed : List Expr} {types : List Ty}
      (checked : Expr.CheckAll checker.names sources typed types) :
    Checks checker (.values sources) (.values typed)
  | target {source typed : Expr} {type : Ty}
      (checked : Check.receiver source checker = .ok (typed, type) checker) :
    Checks checker (.target source) (.target typed)
  | statement {source typed : Stmt} {after : Checker} (inBody : checker.InBody)
      (checked : source.check checker = .ok typed after) :
    Checks checker (.statement source) (.statement typed)
  | statements {source typed : List Stmt} {after : Checker} (inBody : checker.InBody)
      (checked : Stmt.checkAll source checker = .ok typed after) :
    Checks checker (.statements source) (.statements typed)
  | cases {type : Ty} {scrutinee : Value} {source typed : List Case} {after : Checker}
      (inBody : checker.InBody) (checked : Case.checkAll type source checker = .ok typed after) :
    Checks checker (.cases type source) (.cases scrutinee typed)

def Part.Suits (discipline : Discipline) : Part Value → Prop
  | .value expr | .target expr => expr.Every (Expr.Suits discipline)
  | .values exprs => Expr.EveryIn (Expr.Suits discipline) exprs
  | .statement single => single.Every (Expr.Suits discipline) (Stmt.Suits discipline)
  | .statements block => Stmt.EveryIn (Expr.Suits discipline) (Stmt.Suits discipline) block
  | .cases _ arms => Case.EveryIn (Expr.Suits discipline) (Stmt.Suits discipline) arms

theorem Part.checks_of_initial {checker : Checker} {binding : Variable} {value typed : Option Expr}
    (initial : Variable.Initial checker.names binding value typed) {given : Expr}
    (isGiven : typed = some given) :
    ∃ source, value = some source ∧ Part.Checks checker (.value source) (.value given) := by
  cases initial with
  | missing => cases isGiven
  | single _ checked _ =>
    cases isGiven
    exact ⟨_, rfl, .value checked⟩
  | list _ checked accepted =>
    cases isGiven
    exact ⟨_, rfl, .list checked accepted⟩

namespace Meets

variable {discipline : Discipline} {setting : Setting} {origins : Nat → Nat → Variable → Nat → Prop}
  {names other : Names} {machine after : Machine}

/-- Work that leaves the scopes alone leaves the traces alone. -/
theorem later (meets : Meets discipline setting origins names machine)
    (keeps : machine.Keeps after) (fits : ∃ kinds, Fits discipline setting names kinds after) :
    Meets discipline setting origins names after where
  fits := fits
  traced := by
    obtain ⟨_, before⟩ := meets.fits
    exact meets.traced.of_keeps before.static before.dynamic (.refl names) keeps.scopes

theorem rename (meets : Meets discipline setting origins names machine)
    (keeps : names.Keeps other) : Meets discipline setting origins other machine where
  fits := by
    obtain ⟨kinds, fits⟩ := meets.fits
    exact ⟨kinds, fits.rename keeps⟩
  traced := by
    obtain ⟨_, fits⟩ := meets.fits
    exact meets.traced.of_keeps fits.static fits.dynamic keeps (.refl _)

theorem rooted (meets : Meets discipline setting origins names machine) : names.Rooted := by
  obtain ⟨_, fits⟩ := meets.fits
  exact fits.static

theorem define (meets : Meets discipline setting origins names machine) (name : String)
    {binding : Variable} {value : Value} (created : origins names.current.top
      (names.boundVariables names.current.top).length binding machine.cells.size) :
    (names.defineVariable name binding).Agree origins (machine.define name value).scopes := by
  obtain ⟨_, fits⟩ := meets.fits
  exact meets.traced.define fits.static fits.dynamic name created

theorem block (meets : Meets discipline setting origins names machine) :
    Meets discipline setting origins names.push machine.block where
  fits := by
    obtain ⟨kinds, fits⟩ := meets.fits
    exact ⟨kinds, fits.inside⟩
  traced := Environment.Agree.child meets.traced

section parameters

theorem traced_defineAll
    (traced : names.Agree origins machine.scopes) (static : names.Rooted)
    (dynamic : machine.scopes.Rooted)
    {parameters : List String} {types : List Ty} {arguments : List Value}
    (typed : parameters.length = types.length) (given : parameters.length = arguments.length)
    (creates : ∀ index name type, parameters[index]? = some name → types[index]? = some type →
      origins names.current.top ((names.boundVariables names.current.top).length + index)
        (.single name type true) (machine.cells.size + index)) :
    (Names.defineParameters names (parameters.zip types)).Agree origins
      (machine.defineAll (parameters.zip arguments)).scopes := by
  induction parameters generalizing names machine types arguments with
  | nil => exact traced
  | cons parameter parameters ih =>
    cases types with
    | nil => cases typed
    | cons type types =>
      cases arguments with
      | nil => cases given
      | cons argument arguments =>
        have first : (names.defineVariable parameter (.single parameter type true)).Agree
            origins (machine.define parameter argument).scopes :=
          traced.define static dynamic parameter (creates 0 parameter type rfl rfl)
        refine ih first (static.of_grows (names.keepsOuter_defineVariable parameter _))
          (dynamic.of_grows (machine.keepsOuter_define parameter argument).scopes)
          (Nat.succ.inj typed) (Nat.succ.inj given) ?_
        intro index name other named spelt
        -- Counted from behind the first parameter, both places are one further on.
        have made := creates (index + 1) name other named spelt
        have bound := Environment.boundVariables_defineVariable_top names parameter
          (.single parameter type true) static.bounded
        rw [Environment.current_defineVariable, bound, List.length_cons, Machine.size_define]
        rwa [Nat.add_assoc, Nat.add_assoc, Nat.add_comm 1 index]

theorem entered (meets : Meets discipline setting origins names machine) {source typed : Function}
    {signature : Signature} {outer : Names} {last : Checker} {arguments : List Value}
    (checked : source.Checked setting typed signature outer last)
    (counted : source.parameters.length = source.parameterTypes.length)
    (admitted : List.Forall₂ discipline.Admits signature.parameterTypes arguments)
    (creates : ∀ index name type, source.parameters[index]? = some name →
      signature.parameterTypes[index]? = some type →
      origins (signature.inBody outer source.parameters).names.current.top index
        (.single name type true) (machine.cells.size + index)) :
    Meets discipline setting origins (signature.inBody outer source.parameters).names
      ((machine.inside Chain.root).defineAll (source.parameters.zip arguments)) := by
  obtain ⟨kinds, fits⟩ := meets.fits
  have lengths := counted.trans (Function.parameterTypes_of_signature checked.spelled).symm
  have inside := fits.enter checked.rooted checked.current checked.globals checked.offers
  obtain ⟨more, started⟩ := inside.defineAll checked.rooted.push_ne_root admitted lengths
  refine ⟨⟨_, started⟩, ?_⟩
  have level := meets.traced.root fits.static fits.dynamic
  rw [fits.globals, ← checked.globals] at level
  have traced : outer.push.Agree origins (machine.inside Chain.root).scopes :=
    Environment.Agree.child_root checked.current level
  refine traced_defineAll traced inside.static inside.dynamic lengths
    (lengths.trans admitted.length_eq) ?_
  intro index name type named spelt
  have fresh : (outer.push.boundVariables outer.push.current.top).length = 0 := by
    simp [Environment.push]
  have made := creates index name type named spelt
  rw [Signature.current_inBody] at made
  rw [fresh, Nat.zero_add]
  exact made

end parameters

section expressions

variable (sound : setting.Sound discipline)

include sound

theorem evaluated (meets : Meets discipline setting origins names machine) {source typed : Expr}
    {type : Ty} {value : Value} (checked : source.check names = .ok (typed, type))
    (every : typed.Every (Expr.Suits discipline)) (yields : typed.Yields machine value after) :
    Meets discipline setting origins names after := by
  obtain ⟨kinds, fits⟩ := meets.fits
  obtain ⟨fuel, ran⟩ := yields
  have calls := Callable.invoke_sound sound fuel
  obtain ⟨more, fitsAfter, -⟩ :=
    (Expr.evaluate_sound calls source checked every fits).of_ok ran
  exact meets.later ((typed.keeps_evaluate calls.keeps).of_ok ran) ⟨_, fitsAfter⟩

theorem evaluatedAll (meets : Meets discipline setting origins names machine)
    {sources typed : List Expr} {types : List Ty} {values : List Value}
    (checked : Expr.CheckAll names sources typed types)
    (every : Expr.EveryIn (Expr.Suits discipline) typed)
    (yield : Expr.YieldAll typed machine values after) :
    Meets discipline setting origins names after ∧
      List.Forall₂ discipline.Admits types values := by
  obtain ⟨kinds, fits⟩ := meets.fits
  obtain ⟨fuel, ran⟩ := yield
  have calls := Callable.invoke_sound sound fuel
  obtain ⟨more, fitsAfter, admitted⟩ :=
    (Expr.evaluateAll_sound calls sources checked every fits).of_ok ran
  have grown := (Expr.keeps_evaluateAll calls.keeps typed).of_ok ran
  exact ⟨meets.later grown ⟨_, fitsAfter⟩, admitted⟩

/-- Once the arguments of a call are there, its name leads to the function of its signature. -/
theorem called (meets : Meets discipline setting origins names machine) {name : String}
    {sources arguments : List Expr} {signature : Signature} {values : List Value}
    (found : names.getFunction? name sources.length = some signature)
    (checked : Expr.checkArguments names sources signature.parameterTypes = .ok arguments)
    (every : Expr.EveryIn (Expr.Suits discipline) arguments)
    (yield : Expr.YieldAll arguments machine values after) :
    Meets discipline setting origins names after ∧
      List.Forall₂ discipline.Admits signature.parameterTypes values ∧
      ∃ callable, after.scopes.getFunction? name values.length = some callable ∧
        setting.functions.lookup (name, values.length) = some callable ∧
        callable.Carries signature := by
  obtain ⟨kinds, fits⟩ := meets.fits
  obtain ⟨types, all, accepted⟩ :=
    Expr.checkAll_of_checkArguments (fits.function found).1.symm checked
  obtain ⟨later, admitted⟩ := meets.evaluatedAll sound all every yield
  have same : sources.length = values.length := by
    rw [all.lengths.1, all.lengths.2]
    exact admitted.length_eq
  rw [same] at found
  obtain ⟨_, fitsAfter⟩ := later.fits
  exact ⟨later, Discipline.admits_all_of_accepts accepted admitted, (fitsAfter.function found).2⟩

theorem begun (meets : Meets discipline setting origins names machine) {binding : Variable}
    {value typed : Option Expr} {found : Value}
    (initial : Variable.Initial names binding value typed)
    (missing : typed = none → discipline.Admits binding.type .nil)
    (every : ∀ given, typed = some given → given.Every (Expr.Suits discipline))
    (begins : Expr.Begins typed machine found after) :
    Meets discipline setting origins names after := by
  obtain ⟨kinds, fits⟩ := meets.fits
  obtain ⟨fuel, ran⟩ := begins
  have calls := Callable.invoke_sound sound fuel
  obtain ⟨more, fitsAfter, -⟩ := (ensures_initialValue calls initial missing every fits).of_ok ran
  exact meets.later ((keeps_initialValue calls.keeps typed).of_ok ran) ⟨_, fitsAfter⟩

/-- A statement that the next one follows leaves a machine that meets the names behind it. What a
declaration binds is traced by assumption. -/
theorem ended {before last : Checker} {source typed : Stmt}
    (meets : Meets discipline setting origins before.names machine) (inBody : before.InBody)
    (checked : source.check before = .ok typed last)
    (every : typed.Every (Expr.Suits discipline) (Stmt.Suits discipline))
    (ends : typed.Ends machine .next after)
    (creates : ∀ {name typeName value value' bound binding found middle},
      source = .declaration name typeName value bound →
      typed = .declaration name typeName value' (some binding) →
      Variable.declare before.names name typeName true value = .ok (value', binding) →
      Expr.Begins value' machine found middle →
      origins before.names.current.top
        (before.names.boundVariables before.names.current.top).length binding middle.cells.size) :
    Meets discipline setting origins last.names after := by
  obtain ⟨kinds, fits⟩ := meets.fits
  obtain ⟨fuel, ran⟩ := ends
  obtain ⟨signature, inside⟩ := inBody.signature
  have calls := Callable.invoke_sound sound fuel
  have follows := Stmt.execute_follows calls checked every inBody.inner fits
    (Stmt.execute_sound calls fuel source checked every inside fits)
  obtain ⟨more, -, fitsAfter⟩ := follows.of_ok ran
  refine ⟨⟨_, fitsAfter rfl⟩, ?_⟩
  -- Only a declaration binds a name where the statement stands; the cell is the one made last.
  cases declares : source.isDeclaration with
  | false =>
    have plain := (Stmt.isDeclaration_of_check checked).trans declares
    exact meets.traced.of_keeps fits.static fits.dynamic
      (Stmt.keeps_check source checked declares).names
      ((Stmt.keeps_execute calls.keeps fuel typed plain).of_ok ran).scopes
  | true =>
    cases Stmt.typed_of_check checked with
    | @declaration name typeName value value' bound binding declared =>
      rw [Stmt.execute_declaration] at ran
      obtain ⟨found, middle, began, defined⟩ := EStateM.bind_eq_ok.mp ran
      cases defined
      obtain ⟨initial, -, spelling, -⟩ := Variable.initial_of_declare declared
      have missing := Discipline.admits_of_missing (Stmt.missing_of_suits every.1) spelling
      exact (meets.begun sound initial missing every.2 ⟨fuel, began⟩).define name
        (creates rfl rfl declared ⟨fuel, began⟩)
    | expression | assignment | conditional | loop | switch | returns => cases declares

theorem rounded {before last : Checker} {body body' : List Stmt}
    (meets : Meets discipline setting origins before.names machine) (inBody : before.InBody)
    (checked : Stmt.checkAll body before.inside = .ok body' last)
    (every : Stmt.EveryIn (Expr.Suits discipline) (Stmt.Suits discipline) body')
    (round : Stmt.BlockEnds body' machine .next after) :
    Meets discipline setting origins before.names after := by
  obtain ⟨kinds, fits⟩ := meets.fits
  obtain ⟨fuel, ran⟩ := round
  obtain ⟨signature, inside⟩ := inBody.signature
  have calls := Callable.invoke_sound sound fuel
  have keeps := keeps_inScope (Stmt.keepsOuter_executeAll calls.keeps fuel body')
  have block := ensures_block (Stmt.executeAll_sound calls fuel body checked every inside
    (inBody.inside fits.static).inner fits.inside)
  obtain ⟨more, -, fitsAfter⟩ := (block.settle fits (.refl _) keeps).of_ok ran
  exact meets.later (keeps.of_ok ran) ⟨_, fitsAfter rfl⟩

end expressions

end Meets

end Primer
