import Primer.Proofs.Run.Session

/-! Two runs in step.

A simulation relates the machines of two runs that do the same work. The runs stay in step if every
operation on machines keeps them related; what is evaluated and executed is built from these
operations, so it is enough to look at them and at calls. The first run may be excused from some
ways to stop; of those nothing is said about the second.
-/

set_option autoImplicit false

namespace Primer

open Eval

structure Simulation where
  related : Machine → Machine → Prop
  alike : Nat → Nat → Prop
  loaded : Chain → Prop
  /-- How both runs may stop together. -/
  shared : Halt → Prop
  /-- How the first run may stop whatever becomes of the second. -/
  excused : Halt → Prop

namespace Simulation

structure Lawful (sim : Simulation) : Prop where
  errors : ∀ error, sim.shared (.error error)
  found : ∀ {machine image}, sim.related machine image → ∀ name,
    Option.Rel sim.alike (machine.scopes.getVariable? name) (image.scopes.getVariable? name) ∨
      machine.scopes.getVariable? name = none ∧ sim.excused (.error (.unknownVariable name))
  held : ∀ {machine image}, sim.related machine image → ∀ {number place},
    sim.alike number place → machine.cells[number]? = image.cells[place]?
  stored : ∀ {machine image}, sim.related machine image → ∀ {number place},
    sim.alike number place → ∀ value,
      sim.related { machine with cells := machine.cells.setIfInBounds number value }
        { image with cells := image.cells.setIfInBounds place value }
  defined : ∀ {machine image}, sim.related machine image → ∀ name value,
    sim.related (machine.define name value) (image.define name value)
  faults : ∀ {machine image}, sim.related machine image →
    machine.console.writeFault = image.console.writeFault ∧
      machine.console.flushFault = image.console.flushFault
  printed : ∀ {machine image}, sim.related machine image → ∀ line,
    sim.related { machine with console := machine.console.append line }
      { image with console := image.console.append line }
  block : ∀ {machine image}, sim.related machine image →
    sim.related (machine.inside machine.scopes.current) (image.inside image.scopes.current)
  reached : ∀ {machine image}, sim.related machine image → ∀ {scope}, sim.loaded scope →
    machine.scopes.reaches scope.top = image.scopes.reaches scope.top
  entered : ∀ {machine image}, sim.related machine image → ∀ {scope}, sim.loaded scope →
    sim.related (machine.inside scope) (image.inside scope)
  left : ∀ {machine image after last}, sim.related machine image → sim.related after last →
    machine.Keeps (after.comeBack machine.scopes.current) →
    image.Keeps (last.comeBack image.scopes.current) →
    sim.related (after.comeBack machine.scopes.current) (last.comeBack image.scopes.current)

variable {α β γ δ : Type} (sim : Simulation)

/-- Two computations that end alike, on related machines. -/
inductive InStep (good : α → β → Prop) :
    EStateM.Result Halt Machine α → EStateM.Result Halt Machine β → Prop where
  | ok {value : α} {found : β} {after last : Machine} (holds : good value found)
      (related : sim.related after last) : InStep good (.ok value after) (.ok found last)
  | stopped {halt : Halt} {after last : Machine} (shared : sim.shared halt)
      (related : sim.related after last) : InStep good (.error halt after) (.error halt last)
  | excused {halt : Halt} {after : Machine} {result : EStateM.Result Halt Machine β}
      (excused : sim.excused halt) : InStep good (.error halt after) result

/-- The computations end alike wherever they start on related machines. -/
def Relates (good : α → β → Prop) (work : Eval α) (other : Eval β) : Prop :=
  ∀ machine image, sim.related machine image → sim.InStep good (work machine) (other image)

variable {sim} {good : α → β → Prop} {better : γ → δ → Prop} {work : Eval α} {other : Eval β}

/-- Computations one after the other; what follows may use where the first ones end. -/
theorem InStep.bind {next : α → Eval γ} {further : β → Eval δ} {machine image : Machine}
    (first : sim.InStep good (work machine) (other image))
    (rest : ∀ value found after last, work machine = .ok value after →
      other image = .ok found last → good value found → sim.related after last →
      sim.InStep better (next value after) (further found last)) :
    sim.InStep better ((work >>= next) machine) ((other >>= further) image) := by
  simp only [Bind.bind, EStateM.bind]
  generalize work machine = left at first rest
  generalize other image = right at first rest
  cases first with
  | ok holds related => exact rest _ _ _ _ rfl rfl holds related
  | stopped shared related => exact .stopped shared related
  | excused excused => exact .excused excused

theorem Relates.bind {next : α → Eval γ} {further : β → Eval δ}
    (first : sim.Relates good work other)
    (rest : ∀ value found, good value found → sim.Relates better (next value) (further found)) :
    sim.Relates better (work >>= next) (other >>= further) :=
  fun machine image related =>
    (first machine image related).bind fun value found _ _ _ _ holds =>
      rest value found holds _ _

theorem relates_pure {value : α} {found : β} (holds : good value found) :
    sim.Relates good (pure value) (pure found) :=
  fun _ _ related => .ok holds related

theorem relates_get : sim.Relates sim.related get get :=
  fun _ _ related => .ok related related

theorem relates_modify {change transform : Machine → Machine}
    (kept : ∀ machine image, sim.related machine image →
      sim.related (change machine) (transform image)) :
    sim.Relates Eq (modify change) (modify transform) :=
  fun machine image related => .ok rfl (kept machine image related)

/-! ### Operations -/

namespace Lawful

variable (lawful : sim.Lawful)

include lawful

theorem relates_fail (error : RunError) : sim.Relates good (fail error) (fail error) :=
  fun _ _ related => .stopped (lawful.errors error) related

theorem relates_ofExcept (answer : Except RunError α) :
    sim.Relates Eq (ofExcept answer) (ofExcept answer) := by
  cases answer with
  | ok value => exact relates_pure rfl
  | error error => exact lawful.relates_fail error

theorem relates_cell (name : String) : sim.Relates sim.alike (cell name) (cell name) := by
  unfold cell
  apply relates_get.bind
  intro machine image related
  rcases lawful.found related name with both | ⟨missing, excused⟩
  · generalize machine.scopes.getVariable? name = number at both
    generalize image.scopes.getVariable? name = place at both
    cases both with
    | none => exact lawful.relates_fail _
    | some alike => exact relates_pure alike
  · rw [missing]
    exact fun _ _ _ => .excused excused

theorem relates_load {number place : Nat} (alike : sim.alike number place) :
    sim.Relates Eq (load number) (load place) := by
  unfold load
  apply relates_get.bind
  intro machine image related
  -- Alike cells hold the same value.
  rw [lawful.held related alike]
  exact relates_pure rfl

theorem relates_store {number place : Nat} (alike : sim.alike number place) (value : Value) :
    sim.Relates Eq (store number value) (store place value) :=
  relates_modify fun _ _ related => lawful.stored related alike value

theorem relates_items (name : String) {number place : Nat} (alike : sim.alike number place) :
    sim.Relates Eq (items name number) (items name place) := by
  unfold items
  apply (lawful.relates_load alike).bind
  rintro value _ rfl
  split
  · exact relates_pure rfl
  · exact lawful.relates_fail _

theorem relates_slot (index : Value) (length : Nat) :
    sim.Relates Eq (slot index length) (slot index length) := by
  unfold slot
  split
  · split
    · exact relates_pure rfl
    · exact lawful.relates_fail _
  · exact lawful.relates_fail _

theorem relates_define (name : String) (value : Value) :
    sim.Relates Eq (define name value) (define name value) :=
  relates_modify fun _ _ related => lawful.defined related name value

theorem relates_defineAll (bindings : List (String × Value)) :
    sim.Relates Eq (modify fun machine => machine.defineAll bindings)
      (modify fun machine => machine.defineAll bindings) := by
  apply relates_modify
  induction bindings with
  | nil => exact fun _ _ related => related
  | cons binding rest ih =>
    exact fun machine image related => ih _ _ (lawful.defined related binding.1 binding.2)

theorem relates_printLine (text : String) :
    sim.Relates Eq (printLine text) (printLine text) := by
  unfold printLine
  apply relates_get.bind
  intro machine image related
  rw [(lawful.faults related).1]
  split
  · exact lawful.relates_fail _
  · exact relates_modify fun _ _ related => lawful.printed related _

theorem relates_flush : sim.Relates Eq flush flush := by
  unfold flush
  apply relates_get.bind
  intro machine image related
  rw [(lawful.faults related).2]
  split
  · exact lawful.relates_fail _
  · exact relates_pure rfl

theorem inStep_inChild {outer enclosing : Chain} {machine image : Machine}
    (keeps : work.KeepsOuter) (otherKeeps : other.KeepsOuter) (related : sim.related machine image)
    (inside : sim.related (machine.inside outer) (image.inside enclosing))
    (relates : sim.Relates good work other) :
    sim.InStep good (inChild outer work machine) (inChild enclosing other image) := by
  have inner := relates _ _ inside
  have kept := keeps (machine.inside outer)
  have otherKept := otherKeeps (image.inside enclosing)
  unfold after at kept otherKept
  rw [inChild_eq, inChild_eq]
  generalize work (machine.inside outer) = first at inner kept
  generalize other (image.inside enclosing) = second at inner otherKept
  -- However the work ends, both machines come back to the scopes they had before.
  cases inner with
  | ok holds ended =>
    exact .ok holds (lawful.left related ended (Machine.keeps_comeBack kept)
      (Machine.keeps_comeBack otherKept))
  | stopped shared ended =>
    exact .stopped shared (lawful.left related ended (Machine.keeps_comeBack kept)
      (Machine.keeps_comeBack otherKept))
  | excused excused => exact .excused excused

theorem relates_inChild {scope : Chain} (loaded : sim.loaded scope) (keeps : work.KeepsOuter)
    (otherKeeps : other.KeepsOuter) (relates : sim.Relates good work other) :
    sim.Relates good (inChild scope work) (inChild scope other) :=
  fun _ _ related =>
    lawful.inStep_inChild keeps otherKeeps related (lawful.entered related loaded) relates

theorem relates_inScope (keeps : work.KeepsOuter) (otherKeeps : other.KeepsOuter)
    (relates : sim.Relates good work other) :
    sim.Relates good (inScope work) (inScope other) :=
  fun _ _ related =>
    lawful.inStep_inChild keeps otherKeeps related (lawful.block related) relates

end Lawful

/-! ### Evaluation -/

/-- Budgets of rounds under which loops stay in step: one budget for both, or a larger one for the
second run if the first is excused from running out. -/
def Covers (sim : Simulation) (fuel budget : Nat) : Prop :=
  fuel = budget ∧ sim.shared .outOfFuel ∨ fuel ≤ budget ∧ sim.excused .outOfFuel

/-- Two ways to carry out calls and two budgets of rounds, in step at all nodes of a tree. -/
structure Pairs (sim : Simulation) (call other : Call) (fuel budget : Nat) (onExpr : Expr → Prop)
    (onStmt : Stmt → Prop) : Prop where
  lawful : sim.Lawful
  keeps : call.Keeps
  otherKeeps : other.Keeps
  calls : ∀ {name arguments binding type}, onExpr (.call name arguments binding type) →
    ∀ values : List Value, values.length = arguments.length →
      sim.Relates Eq (callNamed call name values) (callNamed other name values)
  loops : ∀ {test body}, onStmt (.loop test body) → sim.Covers fuel budget

section evaluation

variable {call other : Call} {fuel budget : Nat} {onExpr : Expr → Prop} {onStmt : Stmt → Prop}

theorem relates_repeatWhile {test otherTest : Eval Bool} {body otherBody : Eval Control}
    (covers : sim.Covers fuel budget) (tests : sim.Relates Eq test otherTest)
    (bodies : sim.Relates Eq body otherBody) :
    sim.Relates Eq (repeatWhile test body fuel) (repeatWhile otherTest otherBody budget) := by
  have throwing : ∀ {α β : Type} {good : α → β → Prop}, sim.shared .outOfFuel →
      sim.Relates good (throw .outOfFuel) (throw .outOfFuel) :=
    fun shared _ _ related => .stopped shared related
  -- By the rounds that the first run has left. If the second one has more, it keeps more.
  induction fuel generalizing budget with
  | zero =>
    rcases covers with ⟨rfl, shared⟩ | ⟨-, excused⟩
    · exact throwing shared
    · exact fun _ _ _ => .excused excused
  | succ fuel ih =>
    obtain ⟨rounds, rfl, left⟩ : ∃ rounds, budget = rounds + 1 ∧ sim.Covers fuel rounds := by
      rcases covers with ⟨rfl, shared⟩ | ⟨less, excused⟩
      · exact ⟨fuel, rfl, .inl ⟨rfl, shared⟩⟩
      · obtain ⟨rounds, rfl⟩ := Nat.exists_eq_add_one.mpr (Nat.zero_lt_of_lt less)
        exact ⟨rounds, rfl, .inr ⟨Nat.le_of_succ_le_succ less, excused⟩⟩
    unfold repeatWhile
    apply tests.bind
    rintro holds _ rfl
    cases holds with
    | false => exact relates_pure rfl
    | true =>
      apply bodies.bind
      rintro control _ rfl
      cases control with
      | next => exact ih left
      | returning value => exact relates_pure rfl

mutual

theorem relates_evaluate (pairs : sim.Pairs call other fuel budget onExpr onStmt) :
    (expr : Expr) → expr.Every onExpr →
    sim.Relates Eq (expr.evaluate call) (expr.evaluate other)
  | .literal _ _, _ => relates_pure rfl
  | .group inner _, every => relates_evaluate pairs inner every.2
  | .binary operator left right _, every => by
    unfold Expr.evaluate
    apply (relates_evaluate pairs left every.2.1).bind
    rintro leftValue _ rfl
    apply (relates_evaluate pairs right every.2.2).bind
    rintro rightValue _ rfl
    exact pairs.lawful.relates_ofExcept _
  | .named name _ _, _ => by
    unfold Expr.evaluate
    exact (pairs.lawful.relates_cell name).bind fun _ _ alike => pairs.lawful.relates_load alike
  | .element name index _ _, every => by
    unfold Expr.evaluate
    apply (pairs.lawful.relates_cell name).bind
    intro number place alike
    apply (relates_evaluate pairs index every.2).bind
    rintro found _ rfl
    apply (pairs.lawful.relates_items name alike).bind
    rintro items _ rfl
    apply (pairs.lawful.relates_slot found items.length).bind
    rintro slot _ rfl
    exact relates_pure rfl
  | .call name arguments _ _, every => by
    unfold Expr.evaluate
    apply (relates_evaluateAll pairs arguments every.2).bind
    -- Functions are found by name and number, so the values have to be counted.
    rintro values _ ⟨rfl, counted⟩
    exact pairs.calls every.1 values counted
  | .list elements _ _, every => by
    unfold Expr.evaluate
    apply (relates_evaluateAll pairs elements every.2).bind
    rintro values _ ⟨rfl, -⟩
    exact relates_pure rfl

theorem relates_evaluateAll (pairs : sim.Pairs call other fuel budget onExpr onStmt) :
    (exprs : List Expr) → Expr.EveryIn onExpr exprs →
    sim.Relates (fun values found => values = found ∧ values.length = exprs.length)
      (Expr.evaluateAll call exprs) (Expr.evaluateAll other exprs)
  | [], _ => relates_pure ⟨rfl, rfl⟩
  | first :: rest, every => by
    unfold Expr.evaluateAll
    apply (relates_evaluate pairs first every.1).bind
    rintro value _ rfl
    apply (relates_evaluateAll pairs rest every.2).bind
    rintro values _ ⟨rfl, counted⟩
    exact relates_pure ⟨rfl, congrArg Nat.succ counted⟩

end

theorem relates_condition (pairs : sim.Pairs call other fuel budget onExpr onStmt)
    {test : Expr} (every : test.Every onExpr) :
    sim.Relates Eq (condition call test) (condition other test) := by
  unfold condition
  apply (relates_evaluate pairs test every).bind
  rintro value _ rfl
  split
  · exact relates_pure rfl
  · exact pairs.lawful.relates_fail _

theorem relates_initialValue (pairs : sim.Pairs call other fuel budget onExpr onStmt)
    {value : Option Expr}
    (every : ∀ given, value = some given → given.Every onExpr) :
    sim.Relates Eq (initialValue call value) (initialValue other value) := by
  cases value with
  | none => exact relates_pure rfl
  | some given => exact relates_evaluate pairs given (every given rfl)

theorem relates_assign (pairs : sim.Pairs call other fuel budget onExpr onStmt)
    {receiver value : Expr} (receiverEvery : receiver.Every onExpr)
    (valueEvery : value.Every onExpr) :
    sim.Relates Eq (assign call receiver value) (assign other receiver value) := by
  unfold assign
  split
  · next name _ _ =>
    apply (relates_evaluate pairs value valueEvery).bind
    rintro found _ rfl
    apply (pairs.lawful.relates_cell name).bind
    intro number place alike
    exact pairs.lawful.relates_store alike found
  · next name index _ _ =>
    apply (relates_evaluate pairs value valueEvery).bind
    rintro found _ rfl
    apply (pairs.lawful.relates_cell name).bind
    intro number place alike
    apply (relates_evaluate pairs index receiverEvery.2).bind
    rintro position _ rfl
    apply (pairs.lawful.relates_items name alike).bind
    rintro items _ rfl
    apply (pairs.lawful.relates_slot position items.length).bind
    rintro slot _ rfl
    exact pairs.lawful.relates_store alike _
  · exact pairs.lawful.relates_fail _

theorem relates_block (pairs : sim.Pairs call other fuel budget onExpr onStmt)
    {body : List Stmt}
    (relates : sim.Relates Eq (Stmt.executeAll call fuel body)
      (Stmt.executeAll other budget body)) :
    sim.Relates Eq (inScope (Stmt.executeAll call fuel body))
      (inScope (Stmt.executeAll other budget body)) :=
  pairs.lawful.relates_inScope (Stmt.keepsOuter_executeAll pairs.keeps fuel body)
    (Stmt.keepsOuter_executeAll pairs.otherKeeps budget body) relates

mutual

theorem relates_execute (pairs : sim.Pairs call other fuel budget onExpr onStmt) :
    (statement : Stmt) → statement.Every onExpr onStmt →
    sim.Relates Eq (statement.execute call fuel) (statement.execute other budget)
  | .expression value, every => by
    unfold Stmt.execute
    have evaluated : sim.Relates Eq (discard (value.evaluate call))
        (discard (value.evaluate other)) :=
      (relates_evaluate pairs value every.2).bind fun _ _ _ => relates_pure rfl
    exact evaluated.bind fun _ _ _ => relates_pure rfl
  | .declaration name _ value _, every => by
    rw [Stmt.execute_declaration, Stmt.execute_declaration]
    apply (relates_initialValue pairs every.2).bind
    rintro found _ rfl
    exact (pairs.lawful.relates_define name found).bind fun _ _ _ => relates_pure rfl
  | .assignment _ _, every => by
    unfold Stmt.execute
    exact (relates_assign pairs every.2.1 every.2.2).bind fun _ _ _ => relates_pure rfl
  | .conditional _ thenBody elseBody, every => by
    unfold Stmt.execute
    apply (relates_condition pairs every.2.1).bind
    rintro holds _ rfl
    cases holds with
    | true =>
      exact relates_block pairs (relates_executeAll pairs thenBody every.2.2.1)
    | false =>
      exact relates_block pairs (relates_executeAll pairs elseBody every.2.2.2)
  | .loop _ body, every => by
    unfold Stmt.execute
    exact relates_repeatWhile (pairs.loops every.1) (relates_condition pairs every.2.1)
      (relates_block pairs (relates_executeAll pairs body every.2.2))
  | .switch value cases, every => by
    unfold Stmt.execute
    apply (relates_evaluate pairs value every.2.1).bind
    rintro scrutinee _ rfl
    exact relates_select pairs scrutinee cases every.2.2
  | .returns value, every => by
    unfold Stmt.execute
    apply (relates_evaluate pairs value every.2).bind
    rintro found _ rfl
    exact relates_pure rfl

theorem relates_executeAll (pairs : sim.Pairs call other fuel budget onExpr onStmt) :
    (statements : List Stmt) → Stmt.EveryIn onExpr onStmt statements →
    sim.Relates Eq (Stmt.executeAll call fuel statements) (Stmt.executeAll other budget statements)
  | [], _ => relates_pure rfl
  | first :: rest, every => by
    unfold Stmt.executeAll
    apply (relates_execute pairs first every.1).bind
    rintro control _ rfl
    cases control with
    | next => exact relates_executeAll pairs rest every.2
    | returning value => exact relates_pure rfl

theorem relates_select (pairs : sim.Pairs call other fuel budget onExpr onStmt)
    (scrutinee : Value) :
    (cases : List Case) →
    Case.EveryIn onExpr onStmt cases →
    sim.Relates Eq (Case.select call fuel scrutinee cases)
      (Case.select other budget scrutinee cases)
  | [], _ => relates_pure rfl
  | .matching candidate body :: rest, every => by
    unfold Case.select
    apply (relates_evaluate pairs candidate every.1).bind
    rintro found _ rfl
    cases found.equal scrutinee with
    | true =>
      exact relates_block pairs (relates_executeAll pairs body every.2.1)
    | false => exact relates_select pairs scrutinee rest every.2.2
  | .otherwise body :: _, every => by
    unfold Case.select
    exact relates_block pairs (relates_executeAll pairs body every.1)

end

end evaluation

/-! ### Calls and globals -/

section calls

variable {call other : Call} {fuel budget : Nat} {onExpr : Expr → Prop} {onStmt : Stmt → Prop}

/-- Calls by name are in step if what is found is called in step. -/
theorem Lawful.relates_callNamed (lawful : sim.Lawful) {name : String} {values : List Value}
    (found : ∀ machine image, sim.related machine image →
      (∃ callable, machine.scopes.getFunction? name values.length = some callable ∧
          image.scopes.getFunction? name values.length = some callable ∧
          sim.Relates Eq (call callable values) (other callable values)) ∨
        machine.scopes.getFunction? name values.length = none ∧
          (image.scopes.getFunction? name values.length = none ∨
            sim.excused (.error (.unknownFunction name values.length)))) :
    sim.Relates Eq (callNamed call name values) (callNamed other name values) := by
  unfold callNamed
  apply relates_get.bind
  intro machine image related
  rcases found machine image related with
    ⟨callable, looked, also, relates⟩ | ⟨missing, also | excused⟩
  · rw [looked, also]
    exact relates
  · rw [missing, also]
    exact lawful.relates_fail _
  · rw [missing]
    exact fun _ _ _ => .excused excused

theorem Lawful.relates_invoke_print (lawful : sim.Lawful) (enough : 0 < fuel)
    (alsoEnough : 0 < budget) (arguments : List Value) :
    sim.Relates Eq (Callable.invoke fuel .print arguments)
      (Callable.invoke budget .print arguments) := by
  obtain ⟨rounds, rfl⟩ := Nat.exists_eq_add_one.mpr enough
  obtain ⟨rest, rfl⟩ := Nat.exists_eq_add_one.mpr alsoEnough
  unfold Callable.invoke
  exact (lawful.relates_printLine _).bind fun _ _ _ => relates_pure rfl

theorem relates_invoke_declared
    (pairs : sim.Pairs (Callable.invoke fuel) (Callable.invoke budget) fuel budget onExpr onStmt)
    {function : Function} {scope : Chain} (loaded : sim.loaded scope)
    (every : Stmt.EveryIn onExpr onStmt function.body) (arguments : List Value) :
    sim.Relates Eq (Callable.invoke (fuel + 1) (.declared function scope) arguments)
      (Callable.invoke (budget + 1) (.declared function scope) arguments) := by
  have keepsBody : ∀ {limit : Nat}, KeepsOuter (do
      modify fun machine => machine.defineAll (function.parameters.zip arguments)
      Stmt.executeAll (Callable.invoke limit) limit function.body) := fun {limit} =>
    KeepsOuter.bind (fun machine => machine.keepsOuter_defineAll _) fun _ =>
      Stmt.keepsOuter_executeAll (Callable.keeps_invoke limit) limit function.body
  unfold Callable.invoke
  split
  · exact pairs.lawful.relates_fail _
  · apply relates_get.bind
    intro machine image related
    rw [pairs.lawful.reached related loaded]
    split
    · exact pairs.lawful.relates_fail _
    · have executed := relates_executeAll pairs function.body every
      have body := (pairs.lawful.relates_defineAll (function.parameters.zip arguments)).bind
        fun _ _ _ => executed
      apply (pairs.lawful.relates_inChild loaded keepsBody keepsBody body).bind
      rintro control _ rfl
      cases control with
      | next => exact relates_pure rfl
      | returning value => exact relates_pure rfl

theorem relates_globals
    (pairs : sim.Pairs (Callable.invoke fuel) (Callable.invoke budget) fuel budget onExpr onStmt)
    {globals : List Global}
    (every : ∀ global ∈ globals, ∀ value, global.value = some value → value.Every onExpr) :
    sim.Relates Eq (globals.forM (loadGlobal fuel)) (globals.forM (loadGlobal budget)) := by
  induction globals with
  | nil => exact relates_pure rfl
  | cons first rest ih =>
    have one : sim.Relates Eq (loadGlobal fuel first) (loadGlobal budget first) := by
      unfold loadGlobal
      apply (relates_initialValue pairs (every first List.mem_cons_self)).bind
      rintro value _ rfl
      exact pairs.lawful.relates_define first.name value
    exact one.bind fun _ _ _ => ih fun global member => every global (List.mem_cons_of_mem _ member)

/-- A program is loaded in step if binding its functions keeps the machines related. -/
theorem inStep_loadProgram
    (pairs : sim.Pairs (Callable.invoke fuel) (Callable.invoke budget) fuel budget onExpr onStmt)
    {program : Program}
    (every : ∀ global ∈ program.globals, ∀ value, global.value = some value → value.Every onExpr)
    {machine image : Machine} (related : sim.related machine image)
    (loads : ∀ after last, machine.KeepsOuter after → image.KeepsOuter last →
      sim.related after last → sim.related (after.load program.functions)
        (last.load program.functions)) :
    sim.InStep Eq (loadProgram fuel program machine) (loadProgram budget program image) := by
  -- Functions are bound on the machines that the globals leave.
  rw [loadProgram_eq, loadProgram_eq]
  apply (relates_globals pairs every machine image related).bind
  intro _ _ after last ran also _ globals
  have kept := (keepsOuter_globals fuel program.globals).of_ok ran
  have alsoKept := (keepsOuter_globals budget program.globals).of_ok also
  exact .ok rfl (loads after last kept alsoKept globals)

theorem Lawful.relates_exitCode (lawful : sim.Lawful) (value : Value) :
    sim.Relates Eq (exitCode value) (exitCode value) := by
  unfold exitCode
  split
  · split
    · exact relates_pure rfl
    · exact lawful.relates_fail _
  · exact lawful.relates_fail _

theorem Lawful.relates_runMain (lawful : sim.Lawful)
    (main : sim.Relates Eq (callNamed (Callable.invoke fuel) "main" [])
      (callNamed (Callable.invoke budget) "main" [])) :
    sim.Relates Eq (runMain fuel) (runMain budget) := by
  unfold runMain
  apply main.bind
  rintro value _ rfl
  apply lawful.relates_flush.bind
  rintro _ _ -
  exact lawful.relates_exitCode value

end calls

/-! ### One machine under two budgets -/

/-- Both runs work on the same machine, of which something is known. -/
def same (knows : Machine → Prop) (loaded : Chain → Prop) (excused : Halt → Prop) : Simulation where
  related machine image := machine = image ∧ knows machine
  alike := Eq
  loaded := loaded
  shared halt := halt ≠ .outOfFuel
  excused := excused

theorem lawful_same {knows : Machine → Prop} {loaded : Chain → Prop} {excused : Halt → Prop}
    (grows : ∀ {machine after : Machine}, knows machine → machine.KeepsOuter after → knows after)
    (block : ∀ {machine : Machine}, knows machine → knows (machine.inside machine.scopes.current))
    (enter : ∀ {machine : Machine} {scope}, loaded scope → knows machine →
      knows (machine.inside scope)) : (same knows loaded excused).Lawful where
  errors _ := nofun
  found := by
    rintro machine _ ⟨rfl, -⟩ name
    left
    cases machine.scopes.getVariable? name with
    | none => exact .none
    | some number => exact .some rfl
  held := by
    rintro machine _ ⟨rfl, -⟩ number _ rfl
    rfl
  stored := by
    rintro machine _ ⟨rfl, known⟩ number _ rfl value
    have kept := keeps_store number value machine
    exact ⟨rfl, grows known kept.outer⟩
  defined := by
    rintro machine _ ⟨rfl, known⟩ name value
    exact ⟨rfl, grows known (machine.keepsOuter_define name value)⟩
  faults := by
    rintro machine _ ⟨rfl, -⟩
    exact ⟨rfl, rfl⟩
  printed := by
    rintro machine _ ⟨rfl, known⟩ line
    exact ⟨rfl, grows known ⟨.refl _, Nat.le_refl _⟩⟩
  block := by
    rintro machine _ ⟨rfl, known⟩
    exact ⟨rfl, block known⟩
  reached := by
    rintro machine _ ⟨rfl, -⟩ scope -
    rfl
  entered := by
    rintro machine _ ⟨rfl, known⟩ scope loaded
    exact ⟨rfl, enter loaded known⟩
  left := by
    rintro machine _ after _ ⟨rfl, known⟩ ⟨rfl, -⟩ keeps -
    exact ⟨rfl, grows known keeps.outer⟩

end Simulation

end Primer
