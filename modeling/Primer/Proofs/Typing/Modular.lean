import Primer.Proofs.Typing.Program

/-! Checking is modular.

A statement leaves the checker as it was, but for the variable that it declares and the return
statements that it counts; a block leaves nothing, and a function its signature. This holds whether
it is accepted or refused. Hence the bodies of a function may be exchanged: from names that mean the
same on both sides, the functions behind are typed the same.
-/

set_option autoImplicit false

namespace Primer

open Check

namespace Check

variable {α : Type} {work : Check α}

def pushed (work : Check α) : Check α := fun { names, body } =>
  match work { names := names.push, body } with
  | .ok result after => .ok result { after with names := after.names.pop }
  | .error error after => .error error { after with names := after.names.pop }

def pushedBody (signature : Signature) (parameters : List String) (work : Check α) :
    Check (α × Nat) := fun checker =>
  match work (signature.inBody checker.names parameters) with
  | .ok result after =>
    .ok (result, (after.body.map Checker.Body.returns).getD 0)
      { names := after.names.pop, body := checker.body }
  | .error error after => .error error { names := after.names.pop, body := checker.body }

theorem pop_eq_enter {names after : Names} (kept : after.current = names.push.current) :
    after.pop = after.enter names.current := by
  unfold Environment.pop
  rw [kept, Environment.parent_current_push]

/-- Work that comes back to the pushed scope finds its link outwards as it was, so that the pop
leads to the scope that was current before. -/
theorem pushed_eq_inScope (inner : RestoresOuter work) : pushed work = inScope work := by
  funext ⟨names, body⟩
  have kept := inner { names := names.push, body }
  unfold pushed inScope Checker.comeBack
  dsimp only
  cases ran : work { names := names.push, body } <;>
    · rw [ran] at kept
      exact congrArg _ (congrArg (Checker.mk · _) (pop_eq_enter kept.names.current))

theorem inFunction_eq (signature : Signature) (parameters : List String) (work : Check α)
    (checker : Checker) :
    inFunction signature parameters work checker =
      match work (signature.inBody checker.names parameters) with
      | .ok result last =>
        .ok (result, (last.body.map Checker.Body.returns).getD 0)
          { last.comeBack checker.names.current with body := checker.body }
      | .error error last =>
        .error error { last.comeBack checker.names.current with body := checker.body } := rfl

theorem pushedBody_eq_inFunction (inner : RestoresOuter work) (signature : Signature)
    (parameters : List String) :
    pushedBody signature parameters work = inFunction signature parameters work := by
  funext checker
  have kept := inner (signature.inBody checker.names parameters)
  have opened := signature.current_inBody checker.names parameters
  rw [inFunction_eq]
  unfold pushedBody Checker.comeBack
  cases ran : work (signature.inBody checker.names parameters) <;>
    · rw [ran] at kept
      exact congrArg _ (congrArg (Checker.mk · _)
        (pop_eq_enter (kept.names.current.trans opened)))

/-- What is left of the names in front of a function once it has been checked. -/
theorem keeps_inFunction (inner : RestoresOuter work) (signature : Signature)
    (parameters : List String) :
    EStateM.Across (fun before after => before.names.Keeps after.names ∧ after.body = before.body)
      (inFunction signature parameters work) := by
  intro checker
  have kept := inner (signature.inBody checker.names parameters)
  have opened := Names.keepsOuter_defineParameters checker.names.push
    (parameters.zip signature.parameterTypes)
  rw [inFunction_eq]
  cases ran : work (signature.inBody checker.names parameters) <;>
    · rw [ran] at kept
      exact ⟨Environment.keeps_of_child (Environment.KeepsOuter.trans opened kept.names), rfl⟩

theorem of_function_error {function : Function} {before after : Checker} {error : StaticError}
    (failed : Check.function function before = .error error after) :
    (after = before ∧ ∀ signature, function.signature = .ok signature →
      before.names.bindsFunction before.names.current function.name function.arity = true) ∨
    ∃ signature, function.signature = .ok signature ∧
      before.names.bindsFunction before.names.current function.name function.arity = false ∧
      after.body = before.body ∧ Environment.Keeps
        (before.names.defineFunction function.name function.arity signature) after.names := by
  unfold Check.function at failed
  rcases EStateM.bind_eq_error.mp failed with failed | ⟨signature, _, answered, failed⟩
  · unfold ofNames at failed
    cases spelled : function.signature with
    | error other =>
      rw [spelled] at failed
      cases failed
      exact .inl ⟨rfl, nofun⟩
    | ok signature =>
      rw [spelled] at failed
      cases failed
  obtain ⟨spelled, rfl⟩ := ofNames_eq_ok.mp answered
  rcases EStateM.bind_eq_error.mp failed with ⟨⟨⟩⟩ | ⟨_, _, ⟨rfl⟩, failed⟩
  cases bound : before.names.bindsFunction before.names.current function.name function.arity with
  | true =>
    simp only [bound] at failed
    cases failed
    exact .inl ⟨rfl, fun _ _ => rfl⟩
  | false =>
    refine .inr ⟨signature, spelled, rfl, ?_⟩
    simp only [bound] at failed
    rcases EStateM.bind_eq_error.mp failed with ⟨⟨⟩⟩ | ⟨_, _, ⟨rfl⟩, failed⟩
    have across := keeps_inFunction (Stmt.restoresOuter_checkAll function.body) signature
      function.parameters
    rcases EStateM.bind_eq_error.mp failed with failed | ⟨_, middle, ran, failed⟩
    · exact (across.of_error failed).symm
    · have kept := across.of_ok ran
      split at failed <;> cases failed
      exact kept.symm

end Check

/-! ### What is left behind -/

/-- Behind it the checker is back where it was, but for one variable in the current scope, if one
was added, and for the return statements counted in the function around. -/
structure Checker.Leaves (added : Option (String × Variable)) (before after : Checker) : Prop where
  names : before.names.Adds added after.names
  counts : before.Counts after

def Stmt.bound? : Stmt → Option (String × Variable)
  | .declaration name _ _ (some binding) => some (name, binding)
  | _ => none

/-- The signature that a function gets. It gets none where its declaration spells none, or where the
current scope binds its name and number of parameters. -/
def Function.defined? (function : Function) (names : Names) : Option Signature :=
  match function.signature with
  | .ok signature =>
    if names.bindsFunction names.current function.name function.arity then none else some signature
  | .error _ => none

/-- Behind a function the checker is back where it was, but for the signature of that function. -/
structure Function.Leaves (function : Function) (before after : Checker) : Prop where
  names : before.names.AddsFunction
    ((function.defined? before.names).map (((function.name, function.arity), ·))) after.names
  body : after.body = before.body

section leaves

variable {before after : Checker}

theorem Checker.Restores.leaves (restores : before.Restores (fun _ => False) after) :
    before.Leaves none after :=
  ⟨Environment.Grows.adds restores.names, restores.counts⟩

theorem Stmt.bound?_eq_none {statement : Stmt} (other : statement.isDeclaration = false) :
    statement.bound? = none := by
  cases statement with
  | declaration => cases other
  | _ => rfl

theorem Stmt.leaves_of_ok {statement typed : Stmt}
    (checked : statement.check before = .ok typed after) :
    typed.bound?.map Prod.fst = statement.declared? ∧ before.Leaves typed.bound? after := by
  cases kind : statement.isDeclaration with
  | false =>
    have other := (isDeclaration_of_check checked).trans kind
    rw [declared?_eq_none kind, bound?_eq_none other]
    exact ⟨rfl, ((restores_check statement kind).of_ok checked).leaves⟩
  | true =>
    cases statement with
    | declaration name typeName value bound =>
      obtain ⟨value', binding, -, rfl, rfl⟩ := check_declaration checked
      have start := Environment.Grows.adds (Environment.Grows.refl before.names)
      exact ⟨rfl, start.define name binding, .refl _⟩
    | expression | assignment | conditional | loop | switch | returns => cases kind

/-- A statement that is refused adds nothing, a declaration no more than any other. -/
theorem Stmt.leaves_of_error {statement : Stmt} {error : StaticError}
    (refused : statement.check before = .error error after) : before.Leaves none after := by
  cases kind : statement.isDeclaration with
  | false => exact ((restores_check statement kind).of_error refused).leaves
  | true =>
    cases statement with
    | declaration name typeName value bound =>
      rw [check_declaration_eq] at refused
      cases declared : Variable.declare before.names name typeName true value with
      | ok found => rw [declared] at refused; cases refused
      | error other =>
        rw [declared] at refused
        cases refused
        exact (Checker.Restores.refl before).leaves
    | expression | assignment | conditional | loop | switch | returns => cases kind

theorem Function.defined?_eq_some {function : Function} {names : Names} {signature : Signature}
    (spelled : function.signature = .ok signature)
    (free : names.bindsFunction names.current function.name function.arity = false) :
    function.defined? names = some signature := by
  simp [defined?, spelled, free]

theorem Function.defined?_eq_none {function : Function} {names : Names}
    (refused : ∀ signature, function.signature = .ok signature →
      names.bindsFunction names.current function.name function.arity = true) :
    function.defined? names = none := by
  unfold defined?
  split
  · next signature spelled => rw [if_pos (refused signature spelled)]
  · rfl

theorem Function.leaves_of_keeps {function : Function} {signature : Signature}
    (defined : function.defined? before.names = some signature)
    (keeps : Environment.Keeps
      (before.names.defineFunction function.name function.arity signature) after.names)
    (body : after.body = before.body) : function.Leaves before after := by
  refine ⟨?_, body⟩
  rw [defined]
  exact Environment.addsFunction_of_keeps keeps

theorem Function.leaves_of_ok {function typed : Function}
    (checked : Check.function function before = .ok typed after) :
    typed.binding = function.defined? before.names ∧ function.Leaves before after := by
  obtain ⟨signature, last, spelled, free, bodyChecked, -, same, rfl⟩ := Check.of_function checked
  have defined := defined?_eq_some spelled free
  obtain ⟨bound, isBound, keeps⟩ := Checker.AtTop.keeps_body checked
  rw [same] at isBound
  cases isBound
  exact ⟨by rw [same, defined], leaves_of_keeps defined keeps rfl⟩

theorem Function.leaves_of_error {function : Function} {error : StaticError}
    (refused : Check.function function before = .error error after) :
    function.Leaves before after := by
  rcases Check.of_function_error refused with
    ⟨rfl, refused⟩ | ⟨signature, spelled, free, body, keeps⟩
  · refine ⟨?_, rfl⟩
    rw [defined?_eq_none refused]
    exact .nothing _
  · exact leaves_of_keeps (defined?_eq_some spelled free) keeps body

end leaves

/-! ### Names that mean the same -/

/-- The names mean the same in both, whatever the numbers of the scopes that bind them. -/
structure Names.Alike (names other : Names) : Prop where
  rooted : names.Rooted
  otherRooted : other.Rooted
  chains : Environment.Agree (fun _ _ binding image => binding = image) names other
  functions : names.boundFunctions 0 = other.boundFunctions 0

namespace Names.Alike

variable {names other after otherAfter : Names}

theorem refl (rooted : names.Rooted) : names.Alike names where
  rooted := rooted
  otherRooted := rooted
  chains := .refl (fun _ _ _ => rfl) names
  functions := rfl

theorem findVariable (alike : names.Alike other) (name : String) :
    names.findVariable name = other.findVariable name := by
  have both := alike.chains.getVariable? name
  unfold Names.findVariable
  generalize names.getVariable? name = found at both ⊢
  generalize other.getVariable? name = image at both ⊢
  cases both with
  | none => rfl
  | some relation =>
    obtain ⟨_, _, rfl⟩ := relation
    rfl

theorem findFunction (alike : names.Alike other) (name : String) (arity : Nat) :
    names.findFunction name arity = other.findFunction name arity := by
  unfold Names.findFunction
  rw [alike.rooted.getFunction?, alike.otherRooted.getFunction?, alike.functions]

theorem of_keeps (alike : names.Alike other) (keeps : Environment.Keeps names after)
    (otherKeeps : Environment.Keeps other otherAfter) : after.Alike otherAfter where
  rooted := alike.rooted.of_grows keeps
  otherRooted := alike.otherRooted.of_grows otherKeeps
  chains := alike.chains.of_keeps alike.rooted alike.otherRooted keeps otherKeeps
  functions := by rw [keeps.boundFunctions, otherKeeps.boundFunctions, alike.functions]

theorem push (alike : names.Alike other) : Names.Alike names.push other.push where
  rooted := alike.rooted.child_current
  otherRooted := alike.otherRooted.child_current
  chains := Environment.Agree.child alike.chains
  functions := by
    unfold Environment.push
    rw [Environment.boundFunctions_enter, Environment.boundFunctions_enter,
      Environment.boundFunctions_child, Environment.boundFunctions_child, alike.functions]

theorem defineVariable (alike : names.Alike other) (name : String) (binding : Variable) :
    Names.Alike (names.defineVariable name binding) (other.defineVariable name binding) where
  rooted := alike.rooted.of_grows (Environment.keepsOuter_defineVariable _ _ _)
  otherRooted := alike.otherRooted.of_grows (Environment.keepsOuter_defineVariable _ _ _)
  chains := alike.chains.define alike.rooted alike.otherRooted name rfl
  functions := by
    rw [Environment.boundFunctions_defineVariable, Environment.boundFunctions_defineVariable,
      alike.functions]

theorem defineParameters (alike : names.Alike other) (parameters : List (String × Ty)) :
    Names.Alike (names.defineParameters parameters) (other.defineParameters parameters) := by
  induction parameters generalizing names other with
  | nil => exact alike
  | cons first rest ih => exact ih (alike.defineVariable first.1 _)

theorem defineFunction (alike : names.Alike other) (top : names.current.top = 0)
    (otherTop : other.current.top = 0) (name : String) (arity : Nat) (signature : Signature) :
    Names.Alike (names.defineFunction name arity signature)
      (other.defineFunction name arity signature) where
  rooted := alike.rooted.defineFunction top name arity signature
  otherRooted := alike.otherRooted.defineFunction otherTop name arity signature
  chains := by
    refine List.Forall₂.imp (fun number image level => ?_) alike.chains
    rwa [Environment.boundVariables_defineFunction, Environment.boundVariables_defineFunction]
  functions := by
    have defined := Environment.boundFunctions_defineFunction_top names name arity signature
      alike.rooted.bounded
    have otherDefined := Environment.boundFunctions_defineFunction_top other name arity signature
      alike.otherRooted.bounded
    rw [top] at defined
    rw [otherTop] at otherDefined
    rw [defined, otherDefined, alike.functions]

theorem inBody (alike : names.Alike other) (signature : Signature) (parameters : List String) :
    Names.Alike (signature.inBody names parameters).names
      (signature.inBody other parameters).names :=
  alike.push.defineParameters _

end Names.Alike

section alike

variable {names other : Names}

mutual

theorem Expr.check_alike (alike : names.Alike other) : (expr : Expr) →
    expr.check names = expr.check other
  | .literal _ _ => by rw [Expr.check, Expr.check]
  | .group inner _ => by rw [Expr.check, Expr.check, Expr.check_alike alike inner]
  | .binary _ left right _ => by
    rw [Expr.check, Expr.check, Expr.check_alike alike left, Expr.check_alike alike right]
  | .named name _ _ => by rw [Expr.check, Expr.check, alike.findVariable name]
  | .element name index _ _ => by
    rw [Expr.check, Expr.check, alike.findVariable name, Expr.check_alike alike index]
  | .call name arguments _ _ => by
    rw [Expr.check, Expr.check, alike.findFunction name arguments.length]
    congr 1
    funext signature
    rw [Expr.checkArguments_alike alike arguments]
  | .list _ _ _ => by rw [Expr.check, Expr.check]

theorem Expr.checkArguments_alike (alike : names.Alike other) : (arguments : List Expr) →
    (parameters : List Ty) →
    Expr.checkArguments names arguments parameters = Expr.checkArguments other arguments parameters
  | [], parameters => by rw [Expr.checkArguments.eq_def, Expr.checkArguments.eq_def]
  | _ :: _, [] => by rw [Expr.checkArguments.eq_def, Expr.checkArguments.eq_def]
  | first :: rest, parameter :: parameters => by
    rw [Expr.checkArguments, Expr.checkArguments, Expr.check_alike alike first,
      Expr.checkArguments_alike alike rest parameters]

end

theorem Expr.checkElements_alike (alike : names.Alike other) (type : Option Ty)
    (elements : List Expr) :
    Expr.checkElements names type elements = Expr.checkElements other type elements := by
  induction elements generalizing type with
  | nil => rfl
  | cons first rest ih =>
    rw [checkElements, checkElements, check_alike alike first]
    simp only [ih]

theorem Variable.declare_alike (alike : names.Alike other) (name : String)
    (typeName : Option String) (mutable : Bool) (value : Option Expr) :
    declare names name typeName mutable value = declare other name typeName mutable value := by
  unfold declare
  simp only [Expr.check_alike alike, Expr.checkElements_alike alike]

end alike

/-- Statements accepted from names that mean the same are typed the same and leave names that mean
the same. -/
theorem Stmt.alike_after {before before' after after' : Checker} {typed typed' : Stmt}
    (alike : before.names.Alike before'.names) (statement : Stmt)
    (checked : statement.check before = .ok typed after)
    (checked' : statement.check before' = .ok typed' after') :
    after.names.Alike after'.names := by
  cases kind : statement.isDeclaration with
  | false =>
    exact alike.of_keeps (keeps_check statement checked kind).names
      (keeps_check statement checked' kind).names
  | true =>
    cases statement with
    | declaration name typeName value bound =>
      obtain ⟨_, _, declared, -, rfl⟩ := check_declaration checked
      obtain ⟨_, _, declared', -, rfl⟩ := check_declaration checked'
      rw [← Variable.declare_alike alike, declared] at declared'
      cases declared'
      exact alike.defineVariable name _
    | expression | assignment | conditional | loop | switch | returns => cases kind

/-- The same block has been checked on both sides; coming back from it leaves what was there. -/
theorem Names.Alike.back {before before' last last' : Checker} {body typed typed' : List Stmt}
    (alike : before.names.Alike before'.names)
    (checked : Stmt.checkAll body before.inside = .ok typed last)
    (checked' : Stmt.checkAll body before'.inside = .ok typed' last') :
    Names.Alike (last.comeBack before.names.current).names
      (last'.comeBack before'.names.current).names :=
  alike.of_keeps (Checker.keeps_comeBack (Stmt.keepsOuter_checkAll body checked)).names
    (Checker.keeps_comeBack (Stmt.keepsOuter_checkAll body checked')).names

theorem Expr.typed_alike {names other : Names} (alike : names.Alike other)
    {expr typed typed' : Expr} {type type' : Ty} (checked : expr.check names = .ok (typed, type))
    (checked' : expr.check other = .ok (typed', type')) : typed' = typed ∧ type' = type := by
  rw [← check_alike alike, checked] at checked'
  cases checked'
  exact ⟨rfl, rfl⟩

mutual

theorem Stmt.typed_alike {before before' after after' : Checker} {typed typed' : Stmt}
    (alike : before.names.Alike before'.names) : (statement : Stmt) →
    statement.check before = .ok typed after → statement.check before' = .ok typed' after' →
    typed' = typed
  | .expression _, checked, checked' => by
    obtain ⟨_, _, -, valueChecked, rfl, -⟩ := Stmt.check_expression checked
    obtain ⟨_, _, -, valueChecked', rfl, -⟩ := Stmt.check_expression checked'
    obtain ⟨rfl, -⟩ := Expr.typed_alike alike valueChecked valueChecked'
    rfl
  | .declaration _ _ _ _, checked, checked' => by
    obtain ⟨_, _, declared, rfl, -⟩ := Stmt.check_declaration checked
    obtain ⟨_, _, declared', rfl, -⟩ := Stmt.check_declaration checked'
    rw [← Variable.declare_alike alike, declared] at declared'
    cases declared'
    rfl
  | .assignment _ _, checked, checked' => by
    obtain ⟨_, _, _, _, targetChecked, valueChecked, -, rfl, -⟩ := Stmt.check_assignment checked
    obtain ⟨_, _, _, _, targetChecked', valueChecked', -, rfl, -⟩ := Stmt.check_assignment checked'
    obtain ⟨target, -⟩ := Check.of_receiver targetChecked
    obtain ⟨target', -⟩ := Check.of_receiver targetChecked'
    obtain ⟨rfl, -⟩ := Expr.typed_alike alike target target'
    obtain ⟨rfl, -⟩ := Expr.typed_alike alike valueChecked valueChecked'
    rfl
  | .conditional _ thenBody elseBody, checked, checked' => by
    obtain ⟨_, _, _, _, _, testChecked, -, thenChecked, elseChecked, rfl, -⟩ :=
      Stmt.check_conditional checked
    obtain ⟨_, _, _, _, _, testChecked', -, thenChecked', elseChecked', rfl, -⟩ :=
      Stmt.check_conditional checked'
    obtain ⟨rfl, -⟩ := Expr.typed_alike alike testChecked testChecked'
    obtain rfl := Stmt.typedAll_alike alike.push thenBody thenChecked thenChecked'
    have back := alike.back thenChecked thenChecked'
    obtain rfl := Stmt.typedAll_alike back.push elseBody elseChecked elseChecked'
    rfl
  | .loop _ body, checked, checked' => by
    obtain ⟨_, _, _, testChecked, bodyChecked, rfl, -⟩ := Stmt.check_loop checked
    obtain ⟨_, _, _, testChecked', bodyChecked', rfl, -⟩ := Stmt.check_loop checked'
    obtain ⟨rfl, -⟩ := Expr.typed_alike alike testChecked testChecked'
    obtain rfl := Stmt.typedAll_alike alike.push body bodyChecked bodyChecked'
    rfl
  | .switch _ cases, checked, checked' => by
    obtain ⟨_, _, _, valueChecked, casesChecked, rfl⟩ := Stmt.check_switch checked
    obtain ⟨_, _, _, valueChecked', casesChecked', rfl⟩ := Stmt.check_switch checked'
    obtain ⟨rfl, rfl⟩ := Expr.typed_alike alike valueChecked valueChecked'
    obtain rfl := Case.typedAll_alike alike cases casesChecked casesChecked'
    rfl
  | .returns _, checked, checked' => by
    obtain ⟨_, _, _, -, valueChecked, -, rfl, -⟩ := Stmt.check_returns checked
    obtain ⟨_, _, _, -, valueChecked', -, rfl, -⟩ := Stmt.check_returns checked'
    obtain ⟨rfl, -⟩ := Expr.typed_alike alike valueChecked valueChecked'
    rfl
  termination_by structural statement => statement

theorem Stmt.typedAll_alike {before before' after after' : Checker} {typed typed' : List Stmt}
    (alike : before.names.Alike before'.names) : (statements : List Stmt) →
    Stmt.checkAll statements before = .ok typed after →
    Stmt.checkAll statements before' = .ok typed' after' → typed' = typed
  | [], checked, checked' => by
    obtain ⟨rfl, -⟩ := Stmt.checkAll_nil checked
    obtain ⟨rfl, -⟩ := Stmt.checkAll_nil checked'
    rfl
  | first :: rest, checked, checked' => by
    obtain ⟨_, _, _, firstChecked, restChecked, rfl⟩ := Stmt.checkAll_cons checked
    obtain ⟨_, _, _, firstChecked', restChecked', rfl⟩ := Stmt.checkAll_cons checked'
    obtain rfl := Stmt.typed_alike alike first firstChecked firstChecked'
    have behind := Stmt.alike_after alike first firstChecked firstChecked'
    obtain rfl := Stmt.typedAll_alike behind rest restChecked restChecked'
    rfl
  termination_by structural statements => statements

theorem Case.typedAll_alike {type : Ty} {before before' after after' : Checker}
    {typed typed' : List Case} (alike : before.names.Alike before'.names) : (cases : List Case) →
    Case.checkAll type cases before = .ok typed after →
    Case.checkAll type cases before' = .ok typed' after' → typed' = typed
  | [], checked, checked' => by
    obtain ⟨rfl, -⟩ := Case.checkAll_nil checked
    obtain ⟨rfl, -⟩ := Case.checkAll_nil checked'
    rfl
  | .matching _ body :: rest, checked, checked' => by
    obtain ⟨_, _, _, _, valueChecked, bodyChecked, restChecked, rfl⟩ :=
      Case.checkAll_matching checked
    obtain ⟨_, _, _, _, valueChecked', bodyChecked', restChecked', rfl⟩ :=
      Case.checkAll_matching checked'
    obtain ⟨rfl, -⟩ := Expr.typed_alike alike valueChecked valueChecked'
    obtain rfl := Stmt.typedAll_alike alike.push body bodyChecked bodyChecked'
    have back := alike.back bodyChecked bodyChecked'
    obtain rfl := Case.typedAll_alike back rest restChecked restChecked'
    rfl
  | .otherwise body :: _, checked, checked' => by
    obtain ⟨_, _, -, bodyChecked, rfl, -⟩ := Case.checkAll_otherwise checked
    obtain ⟨_, _, -, bodyChecked', rfl, -⟩ := Case.checkAll_otherwise checked'
    obtain rfl := Stmt.typedAll_alike alike.push body bodyChecked bodyChecked'
    rfl
  termination_by structural cases => cases

end

/-! ### Programs that differ in one body -/

section differ

variable {before before' after after' : Checker}

/-- The bodies of a function may differ: what is known behind it means the same. -/
theorem Function.alike_after {function typed typed' : Function} {body : List Stmt}
    (alike : before.names.Alike before'.names) (top : before.AtTop) (top' : before'.AtTop)
    (checked : Check.function function before = .ok typed after)
    (checked' : Check.function { function with body } before' = .ok typed' after') :
    after.names.Alike after'.names ∧ typed' = { typed with body := typed'.body } ∧
      (body = function.body → typed'.body = typed.body) := by
  obtain ⟨signature, _, spelled, -, bodyChecked, -, same, -⟩ := Check.of_function checked
  obtain ⟨signature', _, spelled', -, bodyChecked', -, same', -⟩ := Check.of_function checked'
  obtain rfl : signature = signature' := Except.ok.inj (spelled.symm.trans spelled')
  obtain ⟨bound, isBound, keeps⟩ := Checker.AtTop.keeps_body checked
  obtain ⟨bound', isBound', keeps'⟩ := Checker.AtTop.keeps_body checked'
  obtain rfl := Function.eq_of_binding same isBound
  obtain rfl := Function.eq_of_binding same' isBound'
  have known := alike.defineFunction (Chain.top_eq_zero top.current)
    (Chain.top_eq_zero top'.current) function.name function.arity signature
  refine ⟨known.of_keeps keeps keeps', ?_, ?_⟩
  · rw [same, same']
  · rintro rfl
    exact Stmt.typedAll_alike (known.inBody signature function.parameters) function.body
      bodyChecked bodyChecked'

theorem Function.typedAll_alike {functions typed typed' : List Function}
    (alike : before.names.Alike before'.names) (top : before.AtTop) (top' : before'.AtTop)
    (checked : functions.mapM Check.function before = .ok typed after)
    (checked' : functions.mapM Check.function before' = .ok typed' after') : typed' = typed := by
  induction functions generalizing before before' typed typed' with
  | nil =>
    cases checked
    cases checked'
    rfl
  | cons first rest ih =>
    obtain ⟨result, others, middle, head, tail, rfl⟩ := EStateM.mapM_cons_eq_ok.mp checked
    obtain ⟨result', others', middle', head', tail', rfl⟩ := EStateM.mapM_cons_eq_ok.mp checked'
    obtain ⟨behind, same, sameBody⟩ := Function.alike_after alike top top' head head'
    rw [ih behind (top.of_function head).1 (top'.of_function head').1 tail tail', same,
      sameBody rfl]

end differ

/-- Another body for one function changes what checking makes of that body and nothing else. -/
theorem Program.alike_around {globals : List Global} {front back : List Function}
    {function : Function} {body : List Stmt} {typed other : Program}
    (checked : Program.check { globals, functions := front ++ function :: back } = .ok typed)
    (otherChecked :
      Program.check { globals, functions := front ++ { function with body } :: back } = .ok other) :
    ∃ earlier result later otherBody, earlier.length = front.length ∧
      typed = { globals := typed.globals, functions := earlier ++ result :: later } ∧
      other = { globals := typed.globals
                functions := earlier ++ { result with body := otherBody } :: later } := by
  obtain ⟨loaded, last, passes⟩ := Program.passes_of_check checked
  obtain ⟨otherLoaded, otherLast, otherPasses⟩ := Program.passes_of_check otherChecked
  -- The globals and the functions in front are checked in the same run on both sides.
  obtain ⟨sameGlobals, rfl⟩ := EStateM.Result.ok.inj
    (passes.globals.symm.trans otherPasses.globals)
  have top := passes.atTop_loaded
  obtain ⟨earlier, _, middle, frontRan, ran, split⟩ :=
    EStateM.mapM_append_eq_ok.mp passes.functions
  obtain ⟨otherEarlier, _, otherMiddle, otherFrontRan, otherRan, otherSplit⟩ :=
    EStateM.mapM_append_eq_ok.mp otherPasses.functions
  obtain ⟨rfl, rfl⟩ := EStateM.Result.ok.inj (frontRan.symm.trans otherFrontRan)
  obtain ⟨result, later, behind, functionRan, backRan, rfl⟩ := EStateM.mapM_cons_eq_ok.mp ran
  obtain ⟨otherResult, otherLater, otherBehind, otherFunctionRan, otherBackRan, rfl⟩ :=
    EStateM.mapM_cons_eq_ok.mp otherRan
  -- Both leave checkers that cannot be told apart, so the functions behind are typed alike.
  have middleTop := (Checker.extends_functions frontRan top).1
  obtain ⟨alike, same, -⟩ := Function.alike_after (.refl middleTop.rooted) middleTop middleTop
    functionRan otherFunctionRan
  obtain rfl := Function.typedAll_alike alike (middleTop.of_function functionRan).1
    (middleTop.of_function otherFunctionRan).1 backRan otherBackRan
  refine ⟨earlier, result, otherLater, otherResult.body, EStateM.length_of_mapM frontRan, ?_, ?_⟩
  · rw [← split]
  · rw [sameGlobals, ← same, ← otherSplit]

/-- Checking leaks nothing, and so it is modular.

Whether it is accepted or refused, a statement leaves the checker as it was in front of it, but for
the variable that a declaration adds and for the return statements counted. A block, behind which
one scope is dropped, leaves nothing; the body of a function leaves nothing either, and the function
leaves its signature, unless it is refused before that is defined. Of two accepted programs that
differ in the body of one function, everything outside of that body is typed the same. -/
theorem Program.check_isModular :
    (∀ (checker : Checker) (statement : Stmt),
      match statement.check checker with
      | .ok typed after =>
        typed.bound?.map Prod.fst = statement.declared? ∧ checker.Leaves typed.bound? after
      | .error _ after => checker.Leaves none after) ∧
    (∀ body : List Stmt, inScope (Stmt.checkAll body) = pushed (Stmt.checkAll body) ∧
      EStateM.Across (Checker.Leaves none) (inScope (Stmt.checkAll body))) ∧
    (∀ (function : Function) (signature : Signature) (parameters : List String),
      inFunction signature parameters (Stmt.checkAll function.body) =
        pushedBody signature parameters (Stmt.checkAll function.body)) ∧
    (∀ (checker : Checker) (function : Function),
      match Check.function function checker with
      | .ok typed after =>
        typed.binding = function.defined? checker.names ∧ function.Leaves checker after
      | .error _ after => function.Leaves checker after) ∧
    ∀ (globals : List Global) (front back : List Function) (function : Function)
      (body : List Stmt) (typed other : Program),
      Program.check { globals, functions := front ++ function :: back } = .ok typed →
      Program.check { globals, functions := front ++ { function with body } :: back } = .ok other →
      ∃ earlier checked later otherBody, earlier.length = front.length ∧
        typed = { globals := typed.globals, functions := earlier ++ checked :: later } ∧
        other = { globals := typed.globals
                  functions := earlier ++ { checked with body := otherBody } :: later } := by
  refine ⟨fun checker statement => ?_, fun body => ⟨?_, ?_⟩,
    fun function signature parameters => ?_, fun checker function => ?_, ?_⟩
  · split
    · next ran => exact Stmt.leaves_of_ok ran
    · next ran => exact Stmt.leaves_of_error ran
  · exact (pushed_eq_inScope (Stmt.restoresOuter_checkAll body)).symm
  · exact (restores_inScope (Stmt.restoresOuter_checkAll body)).mono fun _ _ kept => kept.leaves
  · exact (pushedBody_eq_inFunction (Stmt.restoresOuter_checkAll function.body) signature
      parameters).symm
  · split
    · next ran => exact Function.leaves_of_ok ran
    · next ran => exact Function.leaves_of_error ran
  · intro globals front back function body typed other checked otherChecked
    exact Program.alike_around checked otherChecked

namespace Sample

def ceiling : Global where
  name := "ceiling"
  typeName := none
  mutable := false
  value := some (.literal (.integer 9) none)
  binding := none

/-- A function whose body hands back its parameter. -/
def clamp : Function where
  name := "clamp"
  parameters := ["n"]
  parameterTypes := ["Integer"]
  returnTypeName := some "Integer"
  body := [.returns (.named "n" none none)]
  binding := none

/-- Another body for it, in which the name of the global stands for a text. -/
def shadowing : List Stmt :=
  [.conditional (.binary .less (.named "ceiling" none none) (.named "n" none none) none)
      [.declaration "n" none (some (.literal (.boolean true) none)) none,
        .returns (.named "ceiling" none none)] [],
    .declaration "ceiling" none (some (.literal (.string "none") none)) none,
    .returns (.named "n" none none)]

def clamped : Function where
  name := "main"
  parameters := []
  parameterTypes := []
  returnTypeName := none
  body := [.returns (.call "clamp" [.named "ceiling" none none] none none)]
  binding := none

end Sample

/-- The variables of either body are unknown to the main function. -/
theorem Sample.clamped_typed_alike : ∃ typed other earlier checked later otherBody,
    Program.check { globals := [ceiling], functions := [] ++ clamp :: [clamped] } = .ok typed ∧
    Program.check { globals := [ceiling]
                    functions := [] ++ { clamp with body := shadowing } :: [clamped] } = .ok other ∧
    earlier.length = 0 ∧
    typed = { globals := typed.globals, functions := earlier ++ checked :: later } ∧
    other = { globals := typed.globals
              functions := earlier ++ { checked with body := otherBody } :: later } := by
  obtain ⟨earlier, checked, later, otherBody, alike⟩ :=
    Program.check_isModular.2.2.2.2 [ceiling] [] [clamped] clamp shadowing _ _ rfl rfl
  exact ⟨_, _, earlier, checked, later, otherBody, rfl, rfl, alike⟩

end Primer
