import Primer.Proofs.Run.Promises
import Primer.Proofs.Typing.Unique

/-! Names are resolved alike by checking and by runs.

A run looks every name up again, in scopes that it makes anew for each block, round and call. Still
it binds the same names, level by level, as checking did, and what it finds was made by the very
declaration that checking found. Values may be missing and functions may end without one; no run
stops over a name.
-/

set_option autoImplicit false

namespace Primer

/-! ### The discipline that lets everything pass -/

theorem Stmt.suits_lenient (statement : Stmt) : statement.Suits .lenient := by
  cases statement with
  | declaration name typeName value binding =>
    cases value with
    | none => exact .inl rfl
    | some value => trivial
  | expression | assignment | conditional | loop | switch | returns => trivial

theorem Program.Passes.suits_lenient {program typed : Program} {loaded last : Checker}
    (passes : program.Passes typed loaded last)
    (proper : ∀ function ∈ program.functions, function.Proper) : typed.Suits .lenient where
  globals _ _ :=
    { missing := fun _ => .inl rfl
      value := fun value _ => value.every_true.mono fun expr _ => expr.suits_of_mixedOrder rfl }
  bodies _ member :=
    (passes.proper_typed proper member).mono (fun expr _ => expr.suits_of_mixedOrder rfl)
      fun statement _ => statement.suits_lenient
  endings _ _ _ _ := .inl (.inr ⟨rfl, rfl⟩)

/-! ### Variables -/

/-- Checker and machine find the variable on the same level, behind as many older ones, and the cell
was made by what declares the variable there. -/
structure Program.Resolves (program typed : Program) (console : Console) (checker : Checker)
    (machine : Machine) (name : String) (binding : Variable) (cell : Nat) : Prop where
  bound : checker.names.getVariable? name = some binding
  found : machine.scopes.getVariable? name = some cell
  alike : ∃ level number index, checker.names.Finds name level index binding ∧
    machine.scopes.Finds name level index cell ∧
    checker.names.current.numbers[level]? = some number ∧
    ∃ origin, Declares program origin number index binding ∧ Creates typed console origin cell

/-- An access to a variable names the one that checking finds under its name. -/
theorem Expr.Typed.access {names : Names} {source typed : Expr} {type : Ty}
    (typing : source.Typed names typed type) {name : String} {bound : Option Variable}
    (accessed : (Part.value typed : Part Value).access? = some (name, bound)) :
    ∃ binding written, bound = some binding ∧ names.getVariable? name = some binding ∧
      (Part.value source : Part Ty).access? = some (name, written) := by
  cases typing with
  | named found =>
    cases accessed
    exact ⟨_, _, rfl, found, rfl⟩
  | element found =>
    cases accessed
    exact ⟨_, _, rfl, found, rfl⟩
  | literal | group | binary | call => cases accessed

theorem Part.Checks.access {source : Part Ty} {checker : Checker} {part : Part Value}
    (checks : source.Checks checker part) {name : String} {bound : Option Variable}
    (accessed : part.access? = some (name, bound)) :
    ∃ binding written, bound = some binding ∧ checker.names.getVariable? name = some binding ∧
      source.access? = some (name, written) := by
  cases checks with
  | value checked => exact (Expr.typed_of_check checked).access accessed
  | target checked =>
    -- A variable that is assigned to is checked as one that is read.
    obtain ⟨targetChecked, -⟩ := Check.of_receiver checked
    rw [Part.access?_target] at accessed ⊢
    exact (Expr.typed_of_check targetChecked).access accessed
  | list | values | statement | statements | cases => cases accessed

theorem Meets.resolves {discipline : Discipline} {setting : Setting} {program typed : Program}
    {console : Console} {checker : Checker} {machine : Machine}
    (meets : Meets discipline setting (program.Traces typed console) checker.names machine)
    {name : String} {binding : Variable} (bound : checker.names.getVariable? name = some binding) :
    ∃ cell, program.Resolves typed console checker machine name binding cell := by
  obtain ⟨level, index, finds⟩ := Environment.finds_of_getVariable? bound
  obtain ⟨number, cell, atLevel, found, traces⟩ := meets.traced.finds finds
  exact ⟨cell, bound, found.getVariable?, level, number, index, finds, found, atLevel, traces⟩

/-! ### Functions -/

/-- The built-in function, or the function of the program with that name, number of parameters and
signature. -/
def Callable.Answers (typed : Program) (name : String) (arity : Nat) (signature : Signature)
    (callable : Callable) : Prop :=
  callable = .print ∧ signature = .print ∨
    ∃ function ∈ typed.functions, callable = .declared function Chain.root ∧
      function.name = name ∧ function.arity = arity ∧ function.binding = some signature

theorem Setting.Serves.answers {setting : Setting} {typed : Program} {last : Checker}
    (serves : setting.Serves typed last) {name : String} {arity : Nat} {signature : Signature}
    {callable : Callable} (found : setting.functions.lookup (name, arity) = some callable)
    (carries : callable.Carries signature) : callable.Answers typed name arity signature := by
  cases callable with
  | print => exact .inl ⟨rfl, carries⟩
  | declared function scope =>
    obtain ⟨-, member, rfl, key⟩ := serves.declared found
    obtain ⟨named, counted⟩ := Prod.mk.inj key
    exact .inr ⟨function, member, rfl, named, counted, carries⟩

/-- Errors over a name or over what it stands for. -/
def RunError.Nominal : RunError → Prop
  | .unknownVariable _ | .unknownFunction _ _ | .notASequence _ | .badReceiver
  | .argumentCount _ _ _ => True
  | .badOperands _ _ _ | .unexpectedKind _ _ | .indexOutOfRange _ _ | .negativeExponent _
  | .exponentTooLarge _ | .divisionByZero | .exitCodeOutOfRange _ | .output _ => False

section program

variable {tokens : List Token} {program typed : Program}

theorem Program.resolves_alike (parsed : Program.ofTokens tokens = .ok program)
    (checked : program.check = .ok typed) (console : Console) :
    (∀ place part machine, Reaches typed console place part machine →
      ∃ source checker, Visits program place source checker ∧
        (∀ other found, Visits program place other found → other = source ∧ found = checker) ∧
        checker.names.levels = machine.scopes.levels ∧
        ∀ name bound, part.access? = some (name, bound) →
          ∃ binding written cell, bound = some binding ∧ source.access? = some (name, written) ∧
            program.Resolves typed console checker machine name binding cell) ∧
    (∀ place name arguments bound type machine values after,
      Reaches typed console place (.value (.call name arguments bound type)) machine →
      Expr.YieldAll arguments machine values after →
      ∃ signature callable, bound = some signature ∧
        after.scopes.getFunction? name values.length = some callable ∧
        callable.Answers typed name values.length signature) ∧
    ∀ fuel error after,
      Eval.runProgram fuel typed (.initial console) = .error (.error error) after →
      ¬ error.Nominal := by
  obtain ⟨loaded, last, passes⟩ := Program.passes_of_check checked
  have proper := Program.proper_of_ofTokens parsed
  have suits := passes.suits_lenient proper
  refine ⟨?_, ?_, ?_⟩
  · intro place part machine reaches
    obtain ⟨source, checker, setting, visits, checks, -, -, meets⟩ :=
      reaches.known passes proper suits
    refine ⟨source, checker, visits, fun _ _ => visits.unique passes, meets.traced.levels_eq, ?_⟩
    intro name bound accessed
    obtain ⟨binding, written, rfl, looked, also⟩ := checks.access accessed
    obtain ⟨cell, resolves⟩ := meets.resolves looked
    exact ⟨binding, written, cell, rfl, also, resolves⟩
  · intro place name arguments bound type machine values after reaches yield
    obtain ⟨source, checker, setting, -, checks, every, serves, meets⟩ :=
      reaches.known passes proper suits
    cases checks with
    | value valueChecked =>
      cases Expr.typed_of_check valueChecked with
      | call found argumentsChecked =>
        obtain ⟨-, -, callable, looked, loads, carries⟩ :=
          meets.called (serves.sound passes proper suits) found argumentsChecked every.2 yield
        exact ⟨_, callable, rfl, looked, serves.answers loads carries⟩
  · intro fuel error after ran nominal
    have tolerated := (Eval.ensures_runProgram passes proper suits fuel console).of_error ran
    cases error with
    | unknownVariable | unknownFunction | notASequence | badReceiver | argumentCount =>
      exact tolerated
    | badOperands | unexpectedKind | indexOutOfRange | negativeExponent | exponentTooLarge
    | divisionByZero | exitCodeOutOfRange | output => exact nominal

/-- In the sample function, the global list is found behind the scopes of the branch and the body. -/
theorem Sample.names_resolved :
    Program.ofTokens Sample.tokens = .ok Sample.source ∧
      Sample.source.check = .ok Sample.typed ∧
      ∃ place machine source checker cell,
        Reaches Sample.typed {} place (.value (Sample.element 1)) machine ∧
        Visits Sample.source place source checker ∧
        Sample.source.Resolves Sample.typed {} checker machine "limits" Sample.limits cell := by
  have call := Reaches.turn (.turn (.turn (.turn (.main
    (rfl : Eval.loadProgram 1 Sample.typed (.initial {}) = .ok () _)
    ⟨Chain.root, rfl, rfl, rfl, rfl⟩)
    (.next ⟨1, rfl⟩)) (.next ⟨1, rfl⟩)) .first) .returned
  have inside := Reaches.call call ⟨1, rfl⟩ ⟨Chain.root, rfl, rfl, rfl, rfl⟩
  have element := Reaches.turn (.turn (.turn (.turn inside .first) (.elseBody ⟨1, rfl⟩)) .first)
    .returned
  obtain ⟨source, checker, visits, -, -, accesses⟩ :=
    (Program.resolves_alike Sample.parsed Sample.checked {}).1 _ _ _ element
  obtain ⟨binding, written, cell, bound, -, resolves⟩ := accesses _ _ rfl
  cases bound
  exact ⟨Sample.parsed, Sample.checked, _, _, source, checker, cell, element, visits, resolves⟩

end program

end Primer
