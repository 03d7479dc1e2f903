import Primer.Proofs.Run.Later

/-! What work does to the machine, from what assignments and blocks do to it.

A footprint says how the machine behind a piece of work may differ from the one before it, for the
evaluation of expressions and for the execution of statements. Its laws are about single operations
at the moments where they take place. One induction over the trees, and over the depth of calls,
carries them to all work that begins at such a moment, however the work ends.
-/

set_option autoImplicit false

namespace Primer

open Eval

namespace Eval

variable {α β : Type}

theorem cell_eq_ok {name : String} {machine after : Machine} {number : Nat}
    (ran : cell name machine = .ok number after) :
    machine.scopes.getVariable? name = some number ∧ machine = after := by
  have same := (reads_cell name).of_ok ran
  unfold cell at ran
  obtain ⟨_, _, got, ran⟩ := EStateM.bind_eq_ok.mp ran
  cases got
  cases found : machine.scopes.getVariable? name with
  | none =>
    rw [found] at ran
    cases ran
  | some other =>
    rw [found] at ran
    cases ran
    exact ⟨rfl, same⟩

theorem items_eq_ok {name : String} {machine after : Machine} {number : Nat} {found : List Value}
    (ran : items name number machine = .ok found after) :
    machine.cells[number]? = some (.sequence found) ∧ machine = after := by
  have same := (reads_items name number).of_ok ran
  unfold items load at ran
  obtain ⟨value, _, loaded, ran⟩ := EStateM.bind_eq_ok.mp ran
  obtain ⟨_, _, got, loaded⟩ := EStateM.bind_eq_ok.mp loaded
  cases got
  cases loaded
  cases held : machine.cells[number]? with
  | none =>
    rw [held] at ran
    cases ran
  | some value =>
    rw [held] at ran
    cases value with
    | sequence values =>
      cases ran
      exact ⟨rfl, same⟩
    | nil | boolean | integer | decimal | character | string => cases ran

theorem condition_eq_ok {fuel : Nat} {test : Expr} {machine after : Machine} {holds : Bool}
    (ran : condition (Callable.invoke fuel) test machine = .ok holds after) :
    test.Yields machine (.boolean holds) after := by
  obtain ⟨value, middle, evaluated, ran⟩ := EStateM.bind_eq_ok.mp ran
  cases value with
  | boolean value =>
    cases ran
    exact ⟨fuel, evaluated⟩
  | nil | integer | decimal | character | string | sequence => cases ran

theorem after_inScope (work : Eval α) (machine : Machine) :
    (inScope work).after machine = (work.after machine.block).comeBack machine.scopes.current :=
  after_inChild machine.scopes.current work machine

end Eval

/-! ### Footprints -/

structure Footprint where
  moment : Part Value → Machine → Prop
  ready : String → List Value → Machine → Prop
  evaluated : Machine → Machine → Prop
  executed : Machine → Machine → Prop

namespace Footprint

/-- The moments go on from one to the next, and single operations keep to the footprint. -/
structure Lawful (foot : Footprint) : Prop where
  turn : ∀ {part inner machine after index}, foot.moment part machine →
    Step part machine index inner after → foot.moment inner after
  again : ∀ {test body machine between after}, foot.moment (.statement (.loop test body)) machine →
    test.Yields machine (.boolean true) between → Stmt.BlockEnds body between .next after →
    foot.moment (.statement (.loop test body)) after
  arguments : ∀ {name arguments binding type machine values after},
    foot.moment (.value (.call name arguments binding type)) machine →
    Expr.YieldAll arguments machine values after → foot.ready name values after
  enters : ∀ {name values machine function inner}, foot.ready name values machine →
    machine.Enters name values function inner → foot.moment (.statements function.body) inner
  refl : ∀ machine, foot.evaluated machine machine
  evaluated_trans : ∀ {first second third}, foot.evaluated first second →
    foot.evaluated second third → foot.evaluated first third
  executed_trans : ∀ {first second third}, foot.executed first second →
    foot.executed second third → foot.executed first third
  executed : ∀ {machine after}, foot.evaluated machine after → foot.executed machine after
  printed : ∀ machine line,
    foot.evaluated machine { machine with console := machine.console.append line }
  defined : ∀ {name typeName value binding machine found after},
    foot.moment (.statement (.declaration name typeName value binding)) machine →
    Expr.Begins value machine found after → foot.executed after (after.define name found)
  stored : ∀ {name binding type machine cell},
    foot.moment (.target (.named name binding type)) machine →
    machine.scopes.getVariable? name = some cell → ∀ value,
    foot.executed machine { machine with cells := machine.cells.setIfInBounds cell value }
  /-- The variable is looked up before the index is evaluated. -/
  replaced : ∀ {name index binding type machine cell after items},
    foot.moment (.target (.element name index binding type)) machine →
    machine.scopes.getVariable? name = some cell → foot.evaluated machine after →
    after.cells[cell]? = some (.sequence items) → ∀ slot value,
    foot.executed machine
      { after with cells := after.cells.setIfInBounds cell (.sequence (items.set slot value)) }
  left : ∀ {machine after}, foot.executed machine.block after →
    foot.executed machine (after.comeBack machine.scopes.current)
  called : ∀ {name values machine function inner after}, foot.ready name values machine →
    machine.Enters name values function inner → foot.executed inner after →
    foot.evaluated machine (after.comeBack machine.scopes.current)

variable {α : Type}

def Evaluates (foot : Footprint) (part : Part Value) (work : Eval α) : Prop :=
  ∀ machine, foot.moment part machine → foot.evaluated machine (work.after machine)

def Executes (foot : Footprint) (part : Part Value) (work : Eval α) : Prop :=
  ∀ machine, foot.moment part machine → foot.executed machine (work.after machine)

def Calls (foot : Footprint) (fuel : Nat) : Prop :=
  ∀ name values machine, foot.ready name values machine →
    foot.evaluated machine ((callNamed (Callable.invoke fuel) name values).after machine)

variable {foot : Footprint} {fuel : Nat}

namespace Lawful

variable (lawful : foot.Lawful)

include lawful

theorem reads {work : Eval α} (reads : work.Reads) (machine : Machine) :
    foot.evaluated machine (work.after machine) := by
  rw [reads machine]
  exact lawful.refl machine

theorem evaluated_bind {β : Type} {work : Eval α} {next : α → Eval β} {machine : Machine}
    (first : foot.evaluated machine (work.after machine))
    (rest : ∀ value middle, work machine = .ok value middle →
      foot.evaluated middle ((next value).after middle)) :
    foot.evaluated machine ((work >>= next).after machine) :=
  related_bind lawful.evaluated_trans first rest

theorem executed_bind {β : Type} {work : Eval α} {next : α → Eval β} {machine : Machine}
    (first : foot.executed machine (work.after machine))
    (rest : ∀ value middle, work machine = .ok value middle →
      foot.executed middle ((next value).after middle)) :
    foot.executed machine ((work >>= next).after machine) :=
  related_bind lawful.executed_trans first rest

mutual

theorem evaluates (calls : foot.Calls fuel) : (expr : Expr) →
    foot.Evaluates (.value expr) (expr.evaluate (Callable.invoke fuel))
  | .literal _ _, machine, _ => lawful.refl machine
  | .group inner _, machine, here => by
    unfold Expr.evaluate
    exact evaluates calls inner machine (lawful.turn here .inner)
  | .binary operator left right _, machine, here => by
    unfold Expr.evaluate
    apply lawful.evaluated_bind (evaluates calls left machine (lawful.turn here .left))
    intro leftValue middle leftRan
    have behind := lawful.turn here (.right ⟨fuel, leftRan⟩)
    apply lawful.evaluated_bind (evaluates calls right middle behind)
    intro rightValue last _
    exact lawful.reads (reads_ofExcept _) last
  | .named name _ _, machine, _ => by
    unfold Expr.evaluate
    exact lawful.reads ((reads_cell name).bind fun _ => reads_load _) machine
  | .element name index _ _, machine, here => by
    unfold Expr.evaluate
    apply lawful.evaluated_bind (lawful.reads (reads_cell name) machine)
    intro number middle looked
    -- The index is evaluated on the machine that the variable was looked up on.
    cases (reads_cell name).of_ok looked
    apply lawful.evaluated_bind (evaluates calls index machine (lawful.turn here .index))
    intro found last _
    have reading := (reads_items name number).bind fun items =>
      (reads_slot found items.length).bind fun slot => reads_pure (items[slot]?.getD .nil)
    exact lawful.reads reading last
  | .call name arguments _ _, machine, here => by
    unfold Expr.evaluate
    apply lawful.evaluated_bind (evaluatesAll calls arguments machine (lawful.turn here .arguments))
    intro values middle ran
    exact calls name values middle (lawful.arguments here ⟨fuel, ran⟩)
  | .list elements _ _, machine, here => by
    unfold Expr.evaluate
    apply lawful.evaluated_bind (evaluatesAll calls elements machine (lawful.turn here .elements))
    intro values middle _
    exact lawful.refl middle

theorem evaluatesAll (calls : foot.Calls fuel) : (exprs : List Expr) →
    foot.Evaluates (.values exprs) (Expr.evaluateAll (Callable.invoke fuel) exprs)
  | [], machine, _ => lawful.refl machine
  | first :: rest, machine, here => by
    unfold Expr.evaluateAll
    apply lawful.evaluated_bind (evaluates calls first machine (lawful.turn here .head))
    intro value middle ran
    have behind := lawful.turn here (.tail ⟨fuel, ran⟩)
    apply lawful.evaluated_bind (evaluatesAll calls rest middle behind)
    intro values last _
    exact lawful.refl last

end

theorem evaluates_condition (calls : foot.Calls fuel) (test : Expr) :
    foot.Evaluates (.value test) (condition (Callable.invoke fuel) test) := by
  intro machine here
  apply lawful.evaluated_bind (lawful.evaluates calls test machine here)
  intro value middle _
  cases value <;> exact lawful.refl middle

theorem evaluated_initialValue (calls : foot.Calls fuel) {value : Option Expr} {machine : Machine}
    (here : ∀ given, value = some given → foot.moment (.value given) machine) :
    foot.evaluated machine ((initialValue (Callable.invoke fuel) value).after machine) := by
  cases value with
  | none => exact lawful.refl machine
  | some given => exact lawful.evaluates calls given machine (here given rfl)

theorem executes_target (calls : foot.Calls fuel) {name : String} {index : Expr}
    {binding : Option Variable} {type : Option Ty} {machine : Machine} {number : Nat}
    (here : foot.moment (.target (.element name index binding type)) machine)
    (looked : machine.scopes.getVariable? name = some number) (value : Value) :
    foot.executed machine (Eval.after (do
      let found ← index.evaluate (Callable.invoke fuel)
      let items ← items name number
      let slot ← slot found items.length
      store number (.sequence (items.set slot value))) machine) := by
  have indexed := lawful.evaluates calls index machine (lawful.turn here .targetIndex)
  cases ran : index.evaluate (Callable.invoke fuel) machine with
  | error halt middle =>
    rw [after_of_error ran] at indexed
    rw [after_bind_of_error ran]
    exact lawful.executed indexed
  | ok found middle =>
    rw [after_of_ok ran] at indexed
    rw [after_bind_of_ok ran]
    -- Until the element is stored, the machine stays as the index has left it.
    rcases (reads_items name number).after_bind _ middle with stopped | ⟨items, held, goesOn⟩
    · rw [stopped]
      exact lawful.executed indexed
    rw [goesOn]
    rcases (reads_slot found items.length).after_bind _ middle with stopped | ⟨slot, -, goesOn⟩
    · rw [stopped]
      exact lawful.executed indexed
    rw [goesOn]
    exact lawful.replaced here looked indexed (items_eq_ok held).1 slot value

theorem executes_assign (calls : foot.Calls fuel) (receiver value : Expr) :
    foot.Executes (.statement (.assignment receiver value))
      (assign (Callable.invoke fuel) receiver value) := by
  intro machine here
  -- The value comes first, so the target is come to on the machine behind it.
  have given := lawful.executed (lawful.evaluates calls value machine (lawful.turn here .assigned))
  unfold assign
  cases receiver with
  | named name binding type =>
    apply lawful.executed_bind given
    intro found middle ran
    have target := lawful.turn here (.receiver ⟨fuel, ran⟩)
    apply lawful.executed_bind (lawful.executed (lawful.reads (reads_cell name) middle))
    intro number last looked
    obtain ⟨place, rfl⟩ := cell_eq_ok looked
    exact lawful.stored target place found
  | element name index binding type =>
    apply lawful.executed_bind given
    intro found middle ran
    have target := lawful.turn here (.receiver ⟨fuel, ran⟩)
    apply lawful.executed_bind (lawful.executed (lawful.reads (reads_cell name) middle))
    intro number last looked
    obtain ⟨place, rfl⟩ := cell_eq_ok looked
    exact lawful.executes_target calls target place found
  | literal | group | binary | call | list => exact lawful.executed (lawful.refl machine)

/-! ### Statements -/

theorem executed_block {statements : List Stmt} {machine : Machine}
    (here : foot.moment (.statements statements) machine.block)
    (executes : foot.Executes (.statements statements)
      (Stmt.executeAll (Callable.invoke fuel) fuel statements)) :
    foot.executed machine
      ((inScope (Stmt.executeAll (Callable.invoke fuel) fuel statements)).after machine) := by
  rw [after_inScope]
  exact lawful.left (executes machine.block here)

/-- By the rounds that are left. Behind each round the loop is come to again. -/
theorem executes_loop (calls : foot.Calls fuel) {test : Expr} {body : List Stmt}
    (executes : foot.Executes (.statements body)
      (Stmt.executeAll (Callable.invoke fuel) fuel body)) (rounds : Nat) :
    foot.Executes (.statement (.loop test body))
      (repeatWhile (condition (Callable.invoke fuel) test)
        (inScope (Stmt.executeAll (Callable.invoke fuel) fuel body)) rounds) := by
  induction rounds with
  | zero => exact fun machine _ => lawful.executed (lawful.refl machine)
  | succ rounds ih =>
    intro machine here
    unfold repeatWhile
    have tested := lawful.evaluates_condition calls test machine (lawful.turn here .loopTest)
    apply lawful.executed_bind (lawful.executed tested)
    intro holds middle testRan
    cases holds with
    | false => exact lawful.executed (lawful.refl middle)
    | true =>
      have inside := lawful.turn here (.loopBody (condition_eq_ok testRan))
      apply lawful.executed_bind (lawful.executed_block inside executes)
      intro control last bodyRan
      cases control with
      | next => exact ih last (lawful.again here (condition_eq_ok testRan) ⟨fuel, bodyRan⟩)
      | returning value => exact lawful.executed (lawful.refl last)

mutual

theorem executes_statement (calls : foot.Calls fuel) : (statement : Stmt) →
    foot.Executes (.statement statement) (statement.execute (Callable.invoke fuel) fuel)
  | .expression value, machine, here => by
    unfold Stmt.execute
    have evaluated := lawful.evaluates calls value machine (lawful.turn here .expression)
    have discarded : foot.evaluated machine
        ((discard (value.evaluate (Callable.invoke fuel))).after machine) :=
      lawful.evaluated_bind evaluated fun _ last _ => lawful.refl last
    apply lawful.executed
    exact lawful.evaluated_bind discarded fun _ last _ => lawful.refl last
  | .declaration name typeName value binding, machine, here => by
    rw [Stmt.execute_declaration]
    have given : ∀ given, value = some given → foot.moment (.value given) machine := by
      rintro given rfl
      exact lawful.turn here .declared
    apply lawful.executed_bind (lawful.executed (lawful.evaluated_initialValue calls given))
    intro found middle ran
    exact lawful.defined here ⟨fuel, ran⟩
  | .assignment receiver value, machine, here => by
    unfold Stmt.execute
    apply lawful.executed_bind (lawful.executes_assign calls receiver value machine here)
    intro _ last _
    exact lawful.executed (lawful.refl last)
  | .conditional test thenBody elseBody, machine, here => by
    unfold Stmt.execute
    have tested := lawful.evaluates_condition calls test machine (lawful.turn here .test)
    apply lawful.executed_bind (lawful.executed tested)
    intro holds middle ran
    have decided := condition_eq_ok ran
    cases holds with
    | true =>
      exact lawful.executed_block (lawful.turn here (.thenBody decided))
        (executes_statements calls thenBody)
    | false =>
      exact lawful.executed_block (lawful.turn here (.elseBody decided))
        (executes_statements calls elseBody)
  | .loop test body, machine, here => by
    unfold Stmt.execute
    exact lawful.executes_loop calls (executes_statements calls body) fuel machine here
  | .switch value cases, machine, here => by
    unfold Stmt.execute
    have evaluated := lawful.evaluates calls value machine (lawful.turn here .scrutinee)
    apply lawful.executed_bind (lawful.executed evaluated)
    intro found middle ran
    exact executes_cases calls found cases middle (lawful.turn here (.cases ⟨fuel, ran⟩))
  | .returns value, machine, here => by
    unfold Stmt.execute
    have evaluated := lawful.evaluates calls value machine (lawful.turn here .returned)
    apply lawful.executed_bind (lawful.executed evaluated)
    intro found last _
    exact lawful.executed (lawful.refl last)

theorem executes_statements (calls : foot.Calls fuel) : (statements : List Stmt) →
    foot.Executes (.statements statements)
      (Stmt.executeAll (Callable.invoke fuel) fuel statements)
  | [], machine, _ => lawful.executed (lawful.refl machine)
  | first :: rest, machine, here => by
    unfold Stmt.executeAll
    apply lawful.executed_bind (executes_statement calls first machine (lawful.turn here .first))
    intro control middle ran
    cases control with
    | next => exact executes_statements calls rest middle (lawful.turn here (.next ⟨fuel, ran⟩))
    | returning value => exact lawful.executed (lawful.refl middle)

theorem executes_cases (calls : foot.Calls fuel) (scrutinee : Value) : (cases : List Case) →
    foot.Executes (.cases scrutinee cases)
      (Case.select (Callable.invoke fuel) fuel scrutinee cases)
  | [], machine, _ => lawful.executed (lawful.refl machine)
  | .matching candidate body :: rest, machine, here => by
    unfold Case.select
    have evaluated := lawful.evaluates calls candidate machine (lawful.turn here .candidate)
    apply lawful.executed_bind (lawful.executed evaluated)
    intro found middle ran
    cases same : found.equal scrutinee with
    | true =>
      exact lawful.executed_block (lawful.turn here (.matched ⟨fuel, ran⟩ same))
        (executes_statements calls body)
    | false =>
      have further := lawful.turn here (.unmatched ⟨fuel, ran⟩ same)
      exact executes_cases calls scrutinee rest middle further
  | .otherwise body :: _, machine, here => by
    unfold Case.select
    exact lawful.executed_block (lawful.turn here .otherwise) (executes_statements calls body)

end

/-! ### Calls -/

theorem evaluated_print (arguments : List Value) (machine : Machine) :
    foot.evaluated machine ((Callable.invoke (fuel + 1) .print arguments).after machine) := by
  have written : foot.evaluated machine
      ((printLine (arguments.headD .nil).text).after machine) := by
    unfold printLine
    apply lawful.evaluated_bind (lawful.reads reads_get machine)
    intro _ last _
    split
    · exact lawful.reads (reads_fail _) last
    · exact lawful.printed last _
  unfold Callable.invoke
  exact lawful.evaluated_bind written fun _ last _ => lawful.refl last

theorem evaluated_declared (calls : foot.Calls fuel) {name : String} {values : List Value}
    {machine : Machine} (ready : foot.ready name values machine) {function : Function}
    {scope : Chain}
    (found : machine.scopes.getFunction? name values.length = some (.declared function scope)) :
    foot.evaluated machine
      ((Callable.invoke (fuel + 1) (.declared function scope) values).after machine) := by
  unfold Callable.invoke
  split
  · exact lawful.reads (reads_fail _) machine
  next counted =>
    apply lawful.evaluated_bind (lawful.reads reads_get machine)
    intro _ last got
    cases got
    split
    · exact lawful.reads (reads_fail _) machine
    next reached =>
      have entered : machine.Enters name values function
          ((machine.inside scope).defineAll (function.parameters.zip values)) :=
        ⟨scope, found, not_not.mp counted, by simpa using reached, rfl⟩
      apply lawful.evaluated_bind
      · rw [after_inChild]
        apply lawful.called ready entered
        exact lawful.executes_statements calls function.body _ (lawful.enters ready entered)
      · intro control last _
        cases control <;> exact lawful.refl last

/-- By the budget: what the body of a function calls has less of it. -/
theorem calls (fuel : Nat) : foot.Calls fuel := by
  induction fuel with
  | zero =>
    intro name values machine _
    unfold callNamed
    apply lawful.evaluated_bind (lawful.reads reads_get machine)
    intro _ last _
    split <;> exact lawful.refl last
  | succ fuel ih =>
    intro name values machine ready
    unfold callNamed
    apply lawful.evaluated_bind (lawful.reads reads_get machine)
    intro _ last got
    cases got
    cases found : machine.scopes.getFunction? name values.length with
    | none => exact lawful.reads (reads_fail _) machine
    | some callable =>
      cases callable with
      | print => exact lawful.evaluated_print values machine
      | declared function scope => exact lawful.evaluated_declared ih ready found

/-! ### Later moments -/

section later

variable {machine after : Machine}

theorem yields {expr : Expr} {value : Value} (here : foot.moment (.value expr) machine)
    (yields : expr.Yields machine value after) : foot.evaluated machine after := by
  obtain ⟨fuel, ran⟩ := yields
  have evaluated := lawful.evaluates (lawful.calls fuel) expr machine here
  rwa [after_of_ok ran] at evaluated

theorem yield {exprs : List Expr} {values : List Value} (here : foot.moment (.values exprs) machine)
    (yield : Expr.YieldAll exprs machine values after) : foot.evaluated machine after := by
  obtain ⟨fuel, ran⟩ := yield
  have evaluated := lawful.evaluatesAll (lawful.calls fuel) exprs machine here
  rwa [after_of_ok ran] at evaluated

theorem ends {statement : Stmt} {control : Control}
    (here : foot.moment (.statement statement) machine)
    (ends : statement.Ends machine control after) : foot.executed machine after := by
  obtain ⟨fuel, ran⟩ := ends
  have executed := lawful.executes_statement (lawful.calls fuel) statement machine here
  rwa [after_of_ok ran] at executed

theorem blockEnds {statements : List Stmt} {control : Control}
    (here : foot.moment (.statements statements) machine.block)
    (ends : Stmt.BlockEnds statements machine control after) : foot.executed machine after := by
  obtain ⟨fuel, ran⟩ := ends
  have executed :=
    lawful.executed_block here (lawful.executes_statements (lawful.calls fuel) statements)
  rwa [after_of_ok ran] at executed

/-- A turn leads through work that is done and then, perhaps, into a block. -/
theorem turned {part inner : Part Value} {index : Nat} (here : foot.moment part machine)
    (step : Step part machine index inner after) :
    ∃ middle, foot.executed machine middle ∧ (after = middle ∨ after = middle.block) := by
  have stays : foot.executed machine machine := lawful.executed (lawful.refl machine)
  cases step with
  | inner | left | index | arguments | elements | head | targetIndex | expression | declared
  | assigned | test | loopTest | scrutinee | returned | first | candidate =>
    exact ⟨machine, stays, .inl rfl⟩
  | right before =>
    exact ⟨_, lawful.executed (lawful.yields (lawful.turn here .left) before), .inl rfl⟩
  | tail before =>
    exact ⟨_, lawful.executed (lawful.yields (lawful.turn here .head) before), .inl rfl⟩
  | receiver before =>
    exact ⟨_, lawful.executed (lawful.yields (lawful.turn here .assigned) before), .inl rfl⟩
  | cases before =>
    exact ⟨_, lawful.executed (lawful.yields (lawful.turn here .scrutinee) before), .inl rfl⟩
  | unmatched before _ =>
    exact ⟨_, lawful.executed (lawful.yields (lawful.turn here .candidate) before), .inl rfl⟩
  | next before => exact ⟨_, lawful.ends (lawful.turn here .first) before, .inl rfl⟩
  | thenBody before | elseBody before =>
    exact ⟨_, lawful.executed (lawful.yields (lawful.turn here .test) before), .inr rfl⟩
  | loopBody before =>
    exact ⟨_, lawful.executed (lawful.yields (lawful.turn here .loopTest) before), .inr rfl⟩
  | matched before _ =>
    exact ⟨_, lawful.executed (lawful.yields (lawful.turn here .candidate) before), .inr rfl⟩
  | otherwise => exact ⟨machine, stays, .inr rfl⟩

/-- What work of the footprint keeps, and new scopes, is kept at all later moments. -/
theorem later {holds : Machine → Prop} {part inner : Part Value}
    (executed : ∀ {machine after}, foot.executed machine after → holds machine → holds after)
    (block : ∀ {machine}, holds machine → holds machine.block)
    (enters : ∀ {name values machine function inner}, foot.ready name values machine →
      machine.Enters name values function inner → holds machine → holds inner)
    (later : Later part machine inner after) (here : foot.moment part machine)
    (start : holds machine) : foot.moment inner after ∧ holds after := by
  induction later with
  | now => exact ⟨here, start⟩
  | turn _ step ih =>
    obtain ⟨between, kept⟩ := ih
    refine ⟨lawful.turn between step, ?_⟩
    obtain ⟨middle, work, rfl | rfl⟩ := lawful.turned between step
    · exact executed work kept
    · exact block (executed work kept)
  | again _ holds ends ih =>
    obtain ⟨between, kept⟩ := ih
    refine ⟨lawful.again between holds ends, ?_⟩
    have tested := lawful.yields (lawful.turn between .loopTest) holds
    have round := lawful.blockEnds (lawful.turn between (.loopBody holds)) ends
    exact executed round (executed (lawful.executed tested) kept)
  | call _ before entered ih =>
    obtain ⟨between, kept⟩ := ih
    have ready := lawful.arguments between before
    refine ⟨lawful.enters ready entered, ?_⟩
    have given := lawful.yield (lawful.turn between .arguments) before
    exact enters ready entered (executed (lawful.executed given) kept)

end later

end Lawful

end Footprint

end Primer
