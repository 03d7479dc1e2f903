import Primer.Proofs.Grammar.Bare
import Primer.Proofs.Typing.Inversion
import Primer.Typing.Program

/-! Checking that watches what it writes.

The watched checker goes through a tree like the checker does, but it gives up where it would write
a type over another. On a bare tree it never does, whether the tree is accepted or refused.
-/

set_option autoImplicit false

namespace Primer

namespace Once

section

variable {m : Type → Type} [Monad m]

def write (written : Option Ty) (type : Ty) : OptionT m (Option Ty) :=
  match written with
  | none => pure (some type)
  | some _ => OptionT.fail

def refuse {α : Type} [MonadExcept StaticError m] (error : StaticError) : OptionT m α :=
  OptionT.lift (throw error)

end

end Once

open Once

mutual

def Expr.checkOnce (names : Names) : Expr → OptionT (Except StaticError) (Expr × Ty)
  | .literal value written => do
    let type ← value.check
    return (.literal value (← write written type), type)
  | .group inner written => do
    let (inner, type) ← inner.checkOnce names
    return (.group inner (← write written type), type)
  | .binary operator left right written => do
    let (left, leftType) ← left.checkOnce names
    let (right, rightType) ← right.checkOnce names
    let type ← operator.resultType leftType rightType
    return (.binary operator left right (← write written type), type)
  | .named name _ written => do
    let binding ← names.findVariable name
    if binding.isList then refuse (.bareList name)
    return (.named name binding (← write written binding.type), binding.type)
  | .element name index _ written => do
    let binding ← names.findVariable name
    if !binding.isList then refuse (.notAList name)
    let (index, indexType) ← index.checkOnce names
    Ty.require .integer indexType
    return (.element name index binding (← write written binding.type), binding.type)
  | .call name arguments _ written => do
    let binding ← names.findFunction name arguments.length
    let arguments ← Expr.checkArgumentsOnce names arguments binding.parameterTypes
    return (.call name arguments binding (← write written binding.returnType),
      binding.returnType)
  | .list .. => refuse .misplacedList

def Expr.checkArgumentsOnce (names : Names) :
    List Expr → List Ty → OptionT (Except StaticError) (List Expr)
  | argument :: arguments, parameter :: parameters => do
    let (argument, actual) ← argument.checkOnce names
    parameter.require actual
    return argument :: (← Expr.checkArgumentsOnce names arguments parameters)
  | arguments, _ => return arguments

end

def Expr.checkElementsOnce (names : Names) (type : Option Ty) :
    List Expr → OptionT (Except StaticError) (List Expr × Option Ty)
  | [] => return ([], type)
  | first :: rest => do
    let (first, actual) ← first.checkOnce names
    if let some type := type then type.require actual
    let (rest, type) ← Expr.checkElementsOnce names (type.getD actual) rest
    return (first :: rest, type)

def Variable.declareOnce (names : Names) (name : String) (typeName : Option String)
    (mutable : Bool) (value : Option Expr) :
    OptionT (Except StaticError) (Option Expr × Variable) := do
  let declared ← OptionT.lift (typeName.mapM Ty.resolve)
  match value, declared with
  | some (.list elements _ written), declared =>
    let (elements, type) ← Expr.checkElementsOnce names declared elements
    match type with
    | some type =>
      return (some (.list elements type (← write written type)), .list name type mutable)
    | none => refuse (.emptyList name)
  | some value, some declared =>
    let (value, actual) ← value.checkOnce names
    declared.require actual
    return (some value, .single name declared mutable)
  | some value, none =>
    let (value, actual) ← value.checkOnce names
    return (some value, .single name actual mutable)
  | none, some declared => return (none, .single name declared mutable)
  | none, none => refuse (.missingValue name)

namespace Check

def ofNamesOnce {α : Type} (answer : Names → OptionT (Except StaticError) α) : OptionT Check α :=
  OptionT.mk (ofNames fun names => (answer names).run)

def expressionOnce (value : Expr) : OptionT Check (Expr × Ty) :=
  ofNamesOnce value.checkOnce

def inScopeOnce {α : Type} (work : OptionT Check α) : OptionT Check α :=
  OptionT.mk (inScope work.run)

def declareOnce (name : String) (typeName : Option String) (mutable : Bool) (value : Option Expr) :
    OptionT Check (Option Expr × Variable) := do
  let (value, binding) ←
    ofNamesOnce fun names => Variable.declareOnce names name typeName mutable value
  modify fun checker => { checker with names := checker.names.defineVariable name binding }
  return (value, binding)

def conditionOnce (value : Expr) : OptionT Check Expr := do
  let (value, type) ← expressionOnce value
  require .boolean type
  return value

def receiverOnce (value : Expr) : OptionT Check (Expr × Ty) := do
  match value with
  | .named .. =>
    let (value, type) ← expressionOnce value
    if let .named _ (some binding) _ := value then
      if !binding.mutable then refuse (.immutable binding.name)
    return (value, type)
  | .element .. => expressionOnce value
  | _ => refuse .badReceiver

end Check

open Check

mutual

def Stmt.checkOnce : Stmt → OptionT Check Stmt
  | .expression value => do
    if !value.isCall then refuse .badExpressionStatement
    let (value, _) ← expressionOnce value
    return .expression value
  | .declaration name typeName value _ => do
    let (value, binding) ← declareOnce name typeName true value
    return .declaration name typeName value binding
  | .assignment target value => do
    let (target, expected) ← receiverOnce target
    let (value, actual) ← expressionOnce value
    require expected actual
    return .assignment target value
  | .conditional test thenBody elseBody => do
    let test ← conditionOnce test
    if thenBody.isEmpty then refuse .emptyThenBranch
    let thenBody ← inScopeOnce (Stmt.checkAllOnce thenBody)
    let elseBody ← inScopeOnce (Stmt.checkAllOnce elseBody)
    return .conditional test thenBody elseBody
  | .loop test body => do
    let test ← conditionOnce test
    let body ← inScopeOnce (Stmt.checkAllOnce body)
    return .loop test body
  | .switch value cases => do
    let (value, type) ← expressionOnce value
    return .switch value (← Case.checkAllOnce type cases)
  | .returns value => do
    match (← get).body with
    | none => refuse .returnOutsideFunction
    | some body =>
      let (value, actual) ← expressionOnce value
      require body.signature.returnType actual
      countReturn
      return .returns value

def Stmt.checkAllOnce : List Stmt → OptionT Check (List Stmt)
  | [] => return []
  | statement :: statements => do
    let statement ← statement.checkOnce
    return statement :: (← Stmt.checkAllOnce statements)

def Case.checkAllOnce (type : Ty) : List Case → OptionT Check (List Case)
  | [] => return []
  | .matching value body :: cases => do
    let (value, actual) ← expressionOnce value
    if actual ≠ type then refuse (.typeMismatch type actual)
    let body ← inScopeOnce (Stmt.checkAllOnce body)
    return .matching value body :: (← Case.checkAllOnce type cases)
  | .otherwise body :: cases => do
    if !cases.isEmpty then refuse .misplacedDefault
    let body ← inScopeOnce (Stmt.checkAllOnce body)
    return .otherwise body :: (← Case.checkAllOnce type cases)

end

namespace Check

def globalOnce (global : Global) : OptionT Check Global := do
  let (value, binding) ← declareOnce global.name global.typeName global.mutable global.value
  return { global with value, binding := some binding }

def inFunctionOnce {α : Type} (signature : Signature) (parameters : List String)
    (work : OptionT Check α) : OptionT Check (α × Nat) :=
  OptionT.mk do
    let (result, returns) ← inFunction signature parameters work.run
    return result.map fun result => (result, returns)

def functionOnce (function : Function) : OptionT Check Function := do
  let signature ← OptionT.lift (ofNames fun _ => function.signature)
  let names := (← get).names
  if names.bindsFunction names.current function.name function.arity then
    refuse (.duplicateFunction function.name function.arity)
  modify fun checker =>
    { checker with
      names := checker.names.defineFunction function.name function.arity signature }
  let (body, returns) ←
    inFunctionOnce signature function.parameters (Stmt.checkAllOnce function.body)
  if returns = 0 ∧ signature.returnType.needsReturn then
    refuse (.missingReturn function.name signature.returnType)
  return { function with body, binding := some signature }

def programOnce (program : Program) : OptionT Check Program := do
  let globals ← program.globals.mapM globalOnce
  let functions ← program.functions.mapM functionOnce
  let names := (← get).names
  if !names.bindsFunction names.global "main" 0 then refuse .missingMain
  return { globals, functions }

end Check

/-- None where a type would be written over another. -/
def Program.checkOnce (program : Program) : Except StaticError (Option Program) :=
  match (Check.programOnce program).run Checker.initial with
  | .ok program _ => .ok program
  | .error error _ => .error error

/-! ### On checked trees -/

theorem Once.gives_up {α β : Type} {watched : OptionT (Except StaticError) α}
    {next : α → OptionT (Except StaticError) β} (none : watched.run = .ok none) :
    (watched >>= next).run = .ok Option.none := by
  rw [OptionT.run_bind, none]
  rfl

theorem Once.goes_on {α β : Type} {plain : Except StaticError α} {value : α}
    {next : α → OptionT (Except StaticError) β} (done : plain = .ok value)
    (rest : (next value).run = .ok none) : (OptionT.lift plain >>= next).run = .ok none := by
  rw [done]
  exact rest

theorem Names.findVariable_of_getVariable? {names : Names} {name : String} {binding : Variable}
    (found : names.getVariable? name = some binding) : names.findVariable name = .ok binding := by
  rw [findVariable, found]

theorem Names.findFunction_of_getFunction? {names : Names} {name : String} {arity : Nat}
    {signature : Signature} (found : names.getFunction? name arity = some signature) :
    names.findFunction name arity = .ok signature := by
  rw [findFunction, found]

theorem Expr.length_of_checkArguments {names : Names} {arguments typed : List Expr}
    {parameters : List Ty} (checked : checkArguments names arguments parameters = .ok typed) :
    typed.length = arguments.length := by
  induction arguments generalizing parameters typed with
  | nil =>
    rw [checkArguments.eq_def] at checked
    cases checked
    rfl
  | cons first rest ih =>
    cases parameters with
    | nil =>
      rw [checkArguments.eq_def] at checked
      cases checked
      rfl
    | cons parameter parameters =>
      rw [checkArguments] at checked
      obtain ⟨_, -, checked⟩ := Except.bind_eq_ok.mp checked
      obtain ⟨_, -, checked⟩ := Except.bind_eq_ok.mp checked
      obtain ⟨_, restChecked, checked⟩ := Except.bind_eq_ok.mp checked
      cases checked
      exact congrArg Nat.succ (ih restChecked)

/-- What was checked once is not checked again: the watched checker gives up on it. -/
theorem Expr.checkOnce_of_check {names : Names} {typed : Expr} {type : Ty} : (expr : Expr) →
    expr.check names = .ok (typed, type) → (typed.checkOnce names).run = .ok none
  | .literal _ _, checked => by
    obtain ⟨passed, rfl⟩ := Expr.check_literal checked
    rw [Expr.checkOnce]
    exact goes_on passed rfl
  | .group inner _, checked => by
    obtain ⟨_, innerChecked, rfl⟩ := Expr.check_group checked
    rw [Expr.checkOnce]
    exact gives_up (Expr.checkOnce_of_check inner innerChecked)
  | .binary _ left _ _, checked => by
    obtain ⟨_, _, _, _, leftChecked, -, -, rfl⟩ := Expr.check_binary checked
    rw [Expr.checkOnce]
    exact gives_up (Expr.checkOnce_of_check left leftChecked)
  | .named _ _ _, checked => by
    obtain ⟨binding, found, single, -, rfl⟩ := Expr.check_named checked
    rw [Expr.checkOnce]
    refine goes_on (Names.findVariable_of_getVariable? found) ?_
    rw [single]
    rfl
  | .element _ index _ _, checked => by
    obtain ⟨binding, _, _, found, list, indexChecked, -, -, rfl⟩ := Expr.check_element checked
    rw [Expr.checkOnce]
    refine goes_on (Names.findVariable_of_getVariable? found) ?_
    rw [list]
    exact gives_up (Expr.checkOnce_of_check index indexChecked)
  | .call _ [] _ _, checked => by
    obtain ⟨_, _, found, argumentsChecked, -, rfl⟩ := Expr.check_call checked
    -- No argument gives up first, so it is the type of the call that would be written again.
    rw [Expr.checkArguments.eq_def] at argumentsChecked
    cases argumentsChecked
    rw [Expr.checkOnce]
    refine goes_on (Names.findFunction_of_getFunction? found) ?_
    rw [Expr.checkArgumentsOnce.eq_def]
    rfl
  | .call _ (first :: rest) _ _, checked => by
    obtain ⟨signature, _, found, argumentsChecked, -, rfl⟩ := Expr.check_call checked
    rw [Expr.checkOnce]
    rw [← Expr.length_of_checkArguments argumentsChecked] at found
    refine goes_on (Names.findFunction_of_getFunction? found) ?_
    cases types : signature.parameterTypes with
    | nil =>
      -- Arguments without parameters are not checked, not even the first time.
      rw [types, Expr.checkArguments.eq_def] at argumentsChecked
      cases argumentsChecked
      rw [Expr.checkArgumentsOnce.eq_def]
      rfl
    | cons parameter parameters =>
      rw [types, Expr.checkArguments] at argumentsChecked
      obtain ⟨⟨_, _⟩, firstChecked, argumentsChecked⟩ := Except.bind_eq_ok.mp argumentsChecked
      obtain ⟨_, -, argumentsChecked⟩ := Except.bind_eq_ok.mp argumentsChecked
      obtain ⟨_, -, argumentsChecked⟩ := Except.bind_eq_ok.mp argumentsChecked
      cases argumentsChecked
      rw [Expr.checkArgumentsOnce]
      exact gives_up (gives_up (Expr.checkOnce_of_check first firstChecked))
  | .list _ _ _, checked => absurd checked Expr.check_list

/-! ### On bare trees -/

namespace Once

section agreement

variable {m : Type → Type} [Monad m] [LawfulMonad m] {α β : Type}

/-- The watched work does what the plain work does, and never gives up. -/
def Agrees (watched : OptionT m α) (plain : m α) : Prop :=
  watched.run = some <$> plain

theorem agrees_pure (value : α) : Agrees (pure value : OptionT m α) (pure value) := by
  rw [Agrees, map_pure]
  rfl

theorem agrees_lift (plain : m α) : Agrees (OptionT.lift plain) plain := by
  rw [Agrees, map_eq_pure_bind]
  rfl

theorem Agrees.bind {watched : OptionT m α} {plain : m α} {next : α → OptionT m β}
    {plainNext : α → m β} (first : Agrees watched plain)
    (rest : ∀ value, Agrees (next value) (plainNext value)) :
    Agrees (watched >>= next) (plain >>= plainNext) := by
  rw [Agrees, OptionT.run_bind, first, map_bind, Option.elimM, bind_map_left]
  exact bind_congr rest

theorem agrees_refuse [MonadExcept StaticError m] (error : StaticError) :
    Agrees (refuse error : OptionT m α) (throw error) :=
  agrees_lift _

theorem Agrees.guard [MonadExcept StaticError m] {condition : Prop} [Decidable condition]
    {error : StaticError} {next : PUnit → OptionT m β} {plainNext : PUnit → m β}
    (rest : Agrees (next ⟨⟩) (plainNext ⟨⟩)) :
    Agrees (if condition then refuse error >>= next else next ⟨⟩)
      (if condition then throw error >>= plainNext else plainNext ⟨⟩) := by
  split
  · exact (agrees_refuse error).bind fun _ => rest
  · exact rest

theorem Agrees.write {next : Option Ty → OptionT m β} {type : Ty} {plain : m β}
    (rest : Agrees (next (some type)) plain) : Agrees (Once.write none type >>= next) plain := by
  have same : Once.write none type >>= next = next (some type) := pure_bind _ _
  rwa [same]

end agreement

end Once

mutual

theorem Expr.agrees_check (names : Names) : (expr : Expr) → expr.bare = expr →
    Agrees (expr.checkOnce names) (expr.check names)
  | .literal value written, bare => by
    obtain rfl : none = written := (Expr.literal.inj bare).2
    rw [Expr.checkOnce, Expr.check]
    refine (agrees_lift _).bind fun type => ?_
    exact .write (agrees_pure _)
  | .group inner written, bare => by
    obtain ⟨innerBare, rfl⟩ := Expr.group.inj bare
    rw [Expr.checkOnce, Expr.check]
    refine (Expr.agrees_check names inner innerBare).bind fun (inner, type) => ?_
    exact .write (agrees_pure _)
  | .binary operator left right written, bare => by
    obtain ⟨-, leftBare, rightBare, rfl⟩ := Expr.binary.inj bare
    rw [Expr.checkOnce, Expr.check]
    refine (Expr.agrees_check names left leftBare).bind fun (left, leftType) => ?_
    refine (Expr.agrees_check names right rightBare).bind fun (right, rightType) => ?_
    refine (agrees_lift _).bind fun type => ?_
    exact .write (agrees_pure _)
  | .named name _ written, bare => by
    obtain ⟨-, -, rfl⟩ := Expr.named.inj bare
    rw [Expr.checkOnce, Expr.check]
    refine (agrees_lift _).bind fun binding => ?_
    exact .guard (.write (agrees_pure _))
  | .element name index _ written, bare => by
    obtain ⟨-, indexBare, -, rfl⟩ := Expr.element.inj bare
    rw [Expr.checkOnce, Expr.check]
    refine (agrees_lift _).bind fun binding => ?_
    refine .guard ?_
    refine (Expr.agrees_check names index indexBare).bind fun (index, type) => ?_
    refine (agrees_lift _).bind fun _ => ?_
    exact .write (agrees_pure _)
  | .call name arguments _ written, bare => by
    obtain ⟨-, argumentsBare, -, rfl⟩ := Expr.call.inj bare
    rw [Expr.checkOnce, Expr.check]
    refine (agrees_lift _).bind fun binding => ?_
    refine (Expr.agrees_checkArguments names arguments _ argumentsBare).bind fun arguments => ?_
    exact .write (agrees_pure _)
  | .list _ _ _, _ => by
    rw [Expr.checkOnce, Expr.check]
    exact agrees_refuse _

theorem Expr.agrees_checkArguments (names : Names) : (arguments : List Expr) →
    (parameters : List Ty) → Expr.bareAll arguments = arguments →
    Agrees (Expr.checkArgumentsOnce names arguments parameters)
      (Expr.checkArguments names arguments parameters)
  | [], _, _ => by
    rw [Expr.checkArgumentsOnce.eq_def, Expr.checkArguments.eq_def]
    exact agrees_pure _
  | _ :: _, [], _ => by
    rw [Expr.checkArgumentsOnce.eq_def, Expr.checkArguments.eq_def]
    exact agrees_pure _
  | argument :: arguments, parameter :: parameters, bare => by
    obtain ⟨argumentBare, argumentsBare⟩ := List.cons.inj bare
    rw [Expr.checkArgumentsOnce, Expr.checkArguments]
    refine (Expr.agrees_check names argument argumentBare).bind fun (argument, actual) => ?_
    refine (agrees_lift _).bind fun _ => ?_
    refine (Expr.agrees_checkArguments names arguments parameters argumentsBare).bind fun _ => ?_
    exact agrees_pure _

end

theorem Expr.agrees_checkElements (names : Names) {elements : List Expr} (type : Option Ty)
    (bare : Expr.bareAll elements = elements) :
    Agrees (Expr.checkElementsOnce names type elements)
      (Expr.checkElements names type elements) := by
  induction elements generalizing type with
  | nil => exact agrees_pure _
  | cons first rest ih =>
    obtain ⟨firstBare, restBare⟩ := List.cons.inj bare
    rw [checkElementsOnce, checkElements]
    refine (Expr.agrees_check names first firstBare).bind fun (first, actual) => ?_
    cases type with
    | none =>
      refine (ih _ restBare).bind fun _ => ?_
      exact agrees_pure _
    | some type =>
      refine (agrees_lift _).bind fun _ => ?_
      refine (ih _ restBare).bind fun _ => ?_
      exact agrees_pure _

theorem Variable.agrees_declare (names : Names) (name : String) (typeName : Option String)
    (mutable : Bool) {value : Option Expr} (bare : value.map Expr.bare = value) :
    Agrees (Variable.declareOnce names name typeName mutable value)
      (Variable.declare names name typeName mutable value) := by
  unfold declareOnce declare
  refine (agrees_lift _).bind fun declared => ?_
  cases value with
  | none =>
    cases declared with
    | none => exact agrees_refuse _
    | some declared => exact agrees_pure _
  | some value =>
    replace bare : value.bare = value := Option.some.inj bare
    cases value with
    | list elements elementType written =>
      obtain ⟨elementsBare, -, rfl⟩ := Expr.list.inj bare
      refine (Expr.agrees_checkElements names declared elementsBare).bind fun (elements, type) => ?_
      cases type with
      | none => exact agrees_refuse _
      | some type => exact .write (agrees_pure _)
    | _ =>
      cases declared with
      | none =>
        refine (Expr.agrees_check names _ bare).bind fun _ => ?_
        exact agrees_pure _
      | some declared =>
        refine (Expr.agrees_check names _ bare).bind fun _ => ?_
        refine (agrees_lift _).bind fun _ => ?_
        exact agrees_pure _

namespace Check

variable {α : Type} {watched : OptionT Check α} {plain : Check α}

theorem agrees_ofNames {watched : Names → OptionT (Except StaticError) α}
    {plain : Names → Except StaticError α} (inner : ∀ names, Agrees (watched names) (plain names)) :
    Agrees (ofNamesOnce watched) (ofNames plain) := by
  funext checker
  have same : (watched checker.names).run = some <$> plain checker.names := inner checker.names
  change ofNames (fun names => (watched names).run) checker =
    EStateM.map some (ofNames plain) checker
  simp only [EStateM.map, ofNames, same]
  cases plain checker.names <;> rfl

theorem agrees_get : Agrees (get : OptionT Check Checker) get :=
  agrees_lift (m := Check) get

theorem agrees_modify (change : Checker → Checker) :
    Agrees (modify change : OptionT Check PUnit) (modify change) :=
  agrees_lift (m := Check) (modify change)

theorem agrees_inScope (inner : Agrees watched plain) :
    Agrees (inScopeOnce watched) (inScope plain) := by
  funext ⟨names, body⟩
  have same : watched.run = EStateM.map some plain := inner
  change inScope watched.run ⟨names, body⟩ = EStateM.map some (inScope plain) ⟨names, body⟩
  simp only [EStateM.map, inScope, same]
  cases plain ⟨names.push, body⟩ <;> rfl

theorem agrees_inFunction (signature : Signature) (parameters : List String)
    (inner : Agrees watched plain) :
    Agrees (inFunctionOnce signature parameters watched)
      (inFunction signature parameters plain) := by
  funext ⟨names, body⟩
  have same : watched.run = EStateM.map some plain := inner
  change (inFunction signature parameters watched.run >>= fun (result, returns) =>
    pure (result.map fun result => (result, returns))) ⟨names, body⟩ =
      EStateM.map some (inFunction signature parameters plain) ⟨names, body⟩
  simp only [EStateM.map, bind, EStateM.bind, inFunction, same]
  cases plain ⟨Names.defineParameters names.push (parameters.zip signature.parameterTypes),
    some ⟨signature, 0⟩⟩ <;> rfl

theorem agrees_expression {value : Expr} (bare : value.bare = value) :
    Agrees (expressionOnce value) (expression value) :=
  agrees_ofNames fun names => Expr.agrees_check names value bare

theorem agrees_declare (name : String) (typeName : Option String) (mutable : Bool)
    {value : Option Expr} (bare : value.map Expr.bare = value) :
    Agrees (declareOnce name typeName mutable value) (declare name typeName mutable value) := by
  refine (agrees_ofNames fun names =>
    Variable.agrees_declare names name typeName mutable bare).bind fun (value, binding) => ?_
  refine (agrees_modify _).bind fun _ => ?_
  exact agrees_pure _

theorem agrees_condition {value : Expr} (bare : value.bare = value) :
    Agrees (conditionOnce value) (condition value) := by
  refine (agrees_expression bare).bind fun (value, type) => ?_
  refine (agrees_lift _).bind fun _ => ?_
  exact agrees_pure _

theorem agrees_receiver {value : Expr} (bare : value.bare = value) :
    Agrees (receiverOnce value) (receiver value) := by
  cases value with
  | named name bound written =>
    refine (agrees_expression bare).bind fun (value, type) => ?_
    cases value with
    | named _ binding _ =>
      cases binding with
      | some binding => exact .guard (agrees_pure _)
      | none => exact agrees_pure _
    | literal | group | binary | element | call | list => exact agrees_pure _
  | element name index bound written => exact agrees_expression bare
  | literal | group | binary | call | list => exact agrees_refuse _

end Check

mutual

theorem Stmt.agrees_check : (statement : Stmt) → statement.bare = statement →
    Agrees statement.checkOnce statement.check
  | .expression value, bare => by
    obtain valueBare := Stmt.expression.inj bare
    rw [Stmt.checkOnce, Stmt.check]
    refine .guard ?_
    refine (agrees_expression valueBare).bind fun (value, _) => ?_
    exact agrees_pure _
  | .declaration name typeName value _, bare => by
    obtain ⟨-, -, valueBare, -⟩ := Stmt.declaration.inj bare
    rw [Stmt.checkOnce, Stmt.check]
    refine (agrees_declare name typeName true valueBare).bind fun (value, binding) => ?_
    exact agrees_pure _
  | .assignment target value, bare => by
    obtain ⟨targetBare, valueBare⟩ := Stmt.assignment.inj bare
    rw [Stmt.checkOnce, Stmt.check]
    refine (agrees_receiver targetBare).bind fun (target, expected) => ?_
    refine (agrees_expression valueBare).bind fun (value, actual) => ?_
    refine (agrees_lift _).bind fun _ => ?_
    exact agrees_pure _
  | .conditional test thenBody elseBody, bare => by
    obtain ⟨testBare, thenBare, elseBare⟩ := Stmt.conditional.inj bare
    rw [Stmt.checkOnce, Stmt.check]
    refine (agrees_condition testBare).bind fun test => ?_
    refine .guard ?_
    refine (agrees_inScope (Stmt.agrees_checkAll thenBody thenBare)).bind fun thenBody => ?_
    refine (agrees_inScope (Stmt.agrees_checkAll elseBody elseBare)).bind fun elseBody => ?_
    exact agrees_pure _
  | .loop test body, bare => by
    obtain ⟨testBare, bodyBare⟩ := Stmt.loop.inj bare
    rw [Stmt.checkOnce, Stmt.check]
    refine (agrees_condition testBare).bind fun test => ?_
    refine (agrees_inScope (Stmt.agrees_checkAll body bodyBare)).bind fun body => ?_
    exact agrees_pure _
  | .switch value cases, bare => by
    obtain ⟨valueBare, casesBare⟩ := Stmt.switch.inj bare
    rw [Stmt.checkOnce, Stmt.check]
    refine (agrees_expression valueBare).bind fun (value, type) => ?_
    refine (Case.agrees_checkAll type cases casesBare).bind fun cases => ?_
    exact agrees_pure _
  | .returns value, bare => by
    have valueBare := Stmt.returns.inj bare
    rw [Stmt.checkOnce, Stmt.check]
    refine agrees_get.bind fun checker => ?_
    cases checker.body with
    | none => exact agrees_refuse _
    | some body =>
      refine (agrees_expression valueBare).bind fun (value, actual) => ?_
      refine (agrees_lift _).bind fun _ => ?_
      refine (agrees_lift _).bind fun _ => ?_
      exact agrees_pure _

theorem Stmt.agrees_checkAll : (statements : List Stmt) →
    Stmt.bareAll statements = statements →
    Agrees (Stmt.checkAllOnce statements) (Stmt.checkAll statements)
  | [], _ => agrees_pure _
  | first :: rest, bare => by
    obtain ⟨firstBare, restBare⟩ := List.cons.inj bare
    rw [Stmt.checkAllOnce, Stmt.checkAll]
    refine (Stmt.agrees_check first firstBare).bind fun first => ?_
    refine (Stmt.agrees_checkAll rest restBare).bind fun rest => ?_
    exact agrees_pure _

theorem Case.agrees_checkAll (type : Ty) : (cases : List Case) → Case.bareAll cases = cases →
    Agrees (Case.checkAllOnce type cases) (Case.checkAll type cases)
  | [], _ => agrees_pure _
  | .matching value body :: rest, bare => by
    obtain ⟨firstBare, restBare⟩ := List.cons.inj bare
    obtain ⟨valueBare, bodyBare⟩ := Case.matching.inj firstBare
    rw [Case.checkAllOnce, Case.checkAll]
    refine (agrees_expression valueBare).bind fun (value, actual) => ?_
    refine .guard ?_
    refine (agrees_inScope (Stmt.agrees_checkAll body bodyBare)).bind fun body => ?_
    refine (Case.agrees_checkAll type rest restBare).bind fun rest => ?_
    exact agrees_pure _
  | .otherwise body :: rest, bare => by
    obtain ⟨firstBare, restBare⟩ := List.cons.inj bare
    have bodyBare := Case.otherwise.inj firstBare
    rw [Case.checkAllOnce, Case.checkAll]
    refine .guard ?_
    refine (agrees_inScope (Stmt.agrees_checkAll body bodyBare)).bind fun body => ?_
    refine (Case.agrees_checkAll type rest restBare).bind fun rest => ?_
    exact agrees_pure _

end

theorem Once.agrees_mapM {m : Type → Type} [Monad m] [LawfulMonad m] {α β : Type}
    {watched : α → OptionT m β} {plain : α → m β} {items : List α}
    (each : ∀ item ∈ items, Agrees (watched item) (plain item)) :
    Agrees (items.mapM watched) (items.mapM plain) := by
  induction items with
  | nil => exact agrees_pure _
  | cons first rest ih =>
    rw [List.mapM_cons, List.mapM_cons]
    refine (each first List.mem_cons_self).bind fun result => ?_
    refine (ih fun item member => each item (List.mem_cons_of_mem _ member)).bind fun results => ?_
    exact agrees_pure _

namespace Check

theorem agrees_global {global : Global} (bare : global.bare = global) :
    Agrees (globalOnce global) (Check.global global) := by
  refine (agrees_declare _ _ _ (congrArg Global.value bare)).bind fun (value, binding) => ?_
  exact agrees_pure _

theorem agrees_function {function : Function} (bare : function.bare = function) :
    Agrees (functionOnce function) (Check.function function) := by
  have bodyBare := Stmt.agrees_checkAll function.body (congrArg Function.body bare)
  refine (agrees_lift _).bind fun signature => ?_
  refine agrees_get.bind fun checker => ?_
  refine .guard ?_
  refine (agrees_modify _).bind fun _ => ?_
  refine (agrees_inFunction signature function.parameters bodyBare).bind fun (body, returns) => ?_
  exact .guard (agrees_pure _)

theorem agrees_program {program : Program} (bare : program.bare = program) :
    Agrees (programOnce program) (Check.program program) := by
  have globals : ∀ global ∈ program.globals, global.bare = global :=
    List.map_eq_self_iff.mp (congrArg Program.globals bare)
  have functions : ∀ function ∈ program.functions, function.bare = function :=
    List.map_eq_self_iff.mp (congrArg Program.functions bare)
  refine (agrees_mapM fun global member => agrees_global (globals global member)).bind
    fun globals => ?_
  refine (agrees_mapM fun function member => agrees_function (functions function member)).bind
    fun functions => ?_
  refine agrees_get.bind fun checker => ?_
  exact .guard (agrees_pure _)

end Check

theorem Program.checkOnce_eq {program : Program} (bare : program.bare = program) :
    program.checkOnce = some <$> program.check := by
  have same : (Check.programOnce program).run = EStateM.map some (Check.program program) :=
    Check.agrees_program bare
  unfold checkOnce check
  rw [same, EStateM.map]
  cases Check.program program Checker.initial <;> rfl

end Primer
