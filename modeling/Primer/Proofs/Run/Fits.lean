import Primer.Proofs.Run.Discipline
import Primer.Proofs.Run.Ensures
import Primer.Proofs.Scope.Agreement
import Primer.Proofs.Typing.Statement

/-! Machines that fit the names of a checker.

The two chains bind the same names, every name to a cell that was made for the variable the checker
has in mind, and every cell holds what its variable may hold. Functions that the checker knows are
loaded. The invariant outlives everything that leaves the scopes on the chain alone.
-/

set_option autoImplicit false

namespace Primer

/-- What a variable may hold: a list, a sequence of items of its type. -/
def Discipline.Holds (discipline : Discipline) (binding : Variable) (value : Value) : Prop :=
  if binding.isList then
    ∃ items, value = .sequence items ∧ ∀ item ∈ items, discipline.Admits binding.type item
  else discipline.Admits binding.type value

section holding

variable {discipline : Discipline} {binding : Variable} {value : Value}

theorem Discipline.holds_single (single : binding.isList = false) :
    discipline.Holds binding value ↔ discipline.Admits binding.type value := by
  simp [Holds, single]

theorem Discipline.holds_list (list : binding.isList = true) :
    discipline.Holds binding value ↔
      ∃ items, value = .sequence items ∧ ∀ item ∈ items, discipline.Admits binding.type item := by
  simp [Holds, list]

end holding

/-- Each cell holds what the variable that it was made for may hold. -/
def Discipline.Stored (discipline : Discipline) (kinds : List Variable) (machine : Machine) :
    Prop :=
  List.Forall₂ discipline.Holds kinds machine.cells.toList

def Callable.Carries (signature : Signature) : Callable → Prop
  | .declared function _ => function.binding = some signature
  | .print => signature = .print

/-- What stays the same while functions run: the global variables and the functions loaded. -/
structure Setting where
  globals : List (String × Variable)
  functions : List ((String × Nat) × Callable)

/-- Every function that these names offer is loaded, and takes as many arguments as its key says. -/
def Setting.Offers (setting : Setting) (names : Names) : Prop :=
  ∀ key signature, (names.boundFunctions 0).lookup key = some signature →
    signature.parameterTypes.length = key.2 ∧
      ∃ callable, setting.functions.lookup key = some callable ∧ callable.Carries signature

theorem Setting.Offers.congr {setting : Setting} {names other : Names}
    (offers : setting.Offers names) (same : other.boundFunctions 0 = names.boundFunctions 0) :
    setting.Offers other := by
  unfold Offers
  rw [same]
  exact offers

structure Fits (discipline : Discipline) (setting : Setting) (names : Names)
    (kinds : List Variable) (machine : Machine) : Prop where
  static : names.Rooted
  dynamic : machine.scopes.Rooted
  agree : names.Agree (fun _ _ binding cell => kinds[cell]? = some binding) machine.scopes
  globals : names.boundVariables 0 = setting.globals
  offers : setting.Offers names
  functions : machine.scopes.boundFunctions 0 = setting.functions
  stored : discipline.Stored kinds machine

theorem List.getElem?_append_of_some {α : Type} {items : List α} {index : Nat} {item : α}
    (found : items[index]? = some item) (more : List α) : (items ++ more)[index]? = some item := by
  have inside := (List.getElem?_eq_some_iff.mp found).1
  rw [List.getElem?_append_left inside]
  exact found

namespace Discipline.Stored

variable {discipline : Discipline} {kinds : List Variable} {machine : Machine}

theorem length_eq (stored : discipline.Stored kinds machine) :
    kinds.length = machine.cells.size := by
  simpa using List.Forall₂.length_eq stored

theorem get (stored : discipline.Stored kinds machine) {cell : Nat} {binding : Variable}
    (made : kinds[cell]? = some binding) :
    ∃ value, machine.cells[cell]? = some value ∧ discipline.Holds binding value := by
  obtain ⟨inside, same⟩ := List.getElem?_eq_some_iff.mp made
  have bound : cell < machine.cells.toList.length := List.Forall₂.length_eq stored ▸ inside
  refine ⟨machine.cells.toList[cell], by simp, ?_⟩
  have holds := (List.forall₂_iff_get.mp stored).2 cell inside bound
  simp only [List.get_eq_getElem] at holds
  rwa [same] at holds

theorem set (stored : discipline.Stored kinds machine) {cell : Nat} {binding : Variable}
    (made : kinds[cell]? = some binding) {value : Value}
    (holds : discipline.Holds binding value) :
    discipline.Stored kinds { machine with cells := machine.cells.setIfInBounds cell value } := by
  refine List.forall₂_iff_get.mpr ⟨?_, ?_⟩
  · simpa using stored.length_eq
  · intro place inside bound
    simp only [List.get_eq_getElem, Array.toList_setIfInBounds, List.getElem_set]
    split
    · next same =>
      subst same
      rw [(List.getElem?_eq_some_iff.mp made).2]
      exact holds
    · have kept := (List.forall₂_iff_get.mp stored).2 place inside (by simpa using bound)
      simpa using kept

theorem push (stored : discipline.Stored kinds machine) {binding : Variable} {value : Value}
    (holds : discipline.Holds binding value) (name : String) :
    discipline.Stored (kinds ++ [binding]) (machine.define name value) := by
  unfold Stored Machine.define
  simp only [Array.toList_push]
  exact List.rel_append stored (.cons holds .nil)

end Discipline.Stored

namespace Fits

variable {discipline : Discipline} {setting : Setting} {names other : Names}
  {kinds : List Variable} {machine after : Machine}

/-- The invariant outlives work that leaves the scopes on both chains alone. -/
theorem later (fits : Fits discipline setting names kinds machine) (keeps : names.Keeps other)
    (machineKeeps : machine.Keeps after) {more : List Variable}
    (stored : discipline.Stored (kinds ++ more) after) :
    Fits discipline setting other (kinds ++ more) after where
  static := fits.static.of_grows keeps
  dynamic := fits.dynamic.of_grows machineKeeps.scopes
  agree := by
    have wider := fits.agree.mono fun _ _ _ _ made => List.getElem?_append_of_some made more
    exact wider.of_keeps fits.static fits.dynamic keeps machineKeeps.scopes
  globals := by
    rw [keeps.boundVariables 0 (fits.static.lt_size fits.static.root) id]
    exact fits.globals
  offers := fits.offers.congr (keeps.boundFunctions 0)
  functions := (machineKeeps.scopes.boundFunctions 0).trans fits.functions
  stored := stored

theorem rename (fits : Fits discipline setting names kinds machine) (keeps : names.Keeps other) :
    Fits discipline setting other kinds machine := by
  have stored : discipline.Stored (kinds ++ []) machine := by
    rw [List.append_nil]
    exact fits.stored
  have result := fits.later keeps (.refl machine) stored
  rwa [List.append_nil] at result

theorem store (fits : Fits discipline setting names kinds machine) {cell : Nat}
    {binding : Variable} (made : kinds[cell]? = some binding) {value : Value}
    (holds : discipline.Holds binding value) :
    Fits discipline setting names kinds
      { machine with cells := machine.cells.setIfInBounds cell value } :=
  { fits with stored := fits.stored.set made holds }

theorem inside (fits : Fits discipline setting names kinds machine) :
    Fits discipline setting names.push kinds (machine.inside machine.scopes.current) where
  static := fits.static.child_current
  dynamic := fits.dynamic.child_current
  agree := Environment.Agree.child fits.agree
  globals := (Environment.boundVariables_child names names.current 0).trans fits.globals
  offers := fits.offers.congr (Environment.boundFunctions_child names names.current 0)
  functions :=
    (Environment.boundFunctions_child machine.scopes machine.scopes.current 0).trans fits.functions
  stored := fits.stored

/-- The body of a function begins with a new scope inside the global one, wherever it is called. -/
theorem enter (fits : Fits discipline setting names kinds machine) (rooted : other.Rooted)
    (current : other.current = { top := 0, outer := [] })
    (globals : other.boundVariables 0 = setting.globals) (offers : setting.Offers other) :
    Fits discipline setting other.push kinds (machine.inside { top := 0, outer := [] }) where
  static := rooted.child_current
  dynamic := fits.dynamic.child_root
  agree := by
    have level := fits.agree.root fits.static fits.dynamic
    rw [fits.globals, ← globals] at level
    exact Environment.Agree.child_root current level
  globals := (Environment.boundVariables_child other other.current 0).trans globals
  offers := offers.congr (Environment.boundFunctions_child other other.current 0)
  functions :=
    (Environment.boundFunctions_child machine.scopes { top := 0, outer := [] } 0).trans
      fits.functions
  stored := fits.stored

/-- A name is bound to a new cell, and the setting has what the global scope binds then. -/
theorem defineVariable (fits : Fits discipline setting names kinds machine) (name : String)
    {binding : Variable} {value : Value} (holds : discipline.Holds binding value)
    {globals : List (String × Variable)}
    (isGlobal : (names.defineVariable name binding).boundVariables 0 = globals) :
    Fits discipline { setting with globals } (names.defineVariable name binding)
      (kinds ++ [binding]) (machine.define name value) where
  static := fits.static.of_grows (names.keepsOuter_defineVariable name binding)
  dynamic := fits.dynamic.of_grows (machine.keepsOuter_define name value).scopes
  agree := by
    have wider := fits.agree.mono fun _ _ _ _ made => List.getElem?_append_of_some made [binding]
    apply wider.define fits.static fits.dynamic name
    rw [← fits.stored.length_eq]
    exact List.getElem?_concat_length
  globals := isGlobal
  offers := fits.offers.congr (Environment.boundFunctions_defineVariable names name binding 0)
  functions :=
    (Environment.boundFunctions_defineVariable machine.scopes name machine.cells.size 0).trans
      fits.functions
  stored := fits.stored.push holds name

/-- A declaration in a block leaves the global scope as it is. -/
theorem define (fits : Fits discipline setting names kinds machine) (inner : names.current.top ≠ 0)
    (name : String) {binding : Variable} {value : Value}
    (holds : discipline.Holds binding value) :
    Fits discipline setting (names.defineVariable name binding) (kinds ++ [binding])
      (machine.define name value) := by
  have same := names.boundVariables_defineVariable_of_ne name binding inner.symm
  exact fits.defineVariable name holds (same.trans fits.globals)

/-- What the checker takes a name for is what the run finds. -/
theorem cell (fits : Fits discipline setting names kinds machine) {name : String}
    {binding : Variable} (found : names.getVariable? name = some binding) :
    ∃ cell, machine.scopes.getVariable? name = some cell ∧ kinds[cell]? = some binding := by
  obtain ⟨cell, looked, -, -, made⟩ := fits.agree.some_of_getVariable? found
  exact ⟨cell, looked, made⟩

theorem function (fits : Fits discipline setting names kinds machine) {name : String}
    {arity : Nat} {signature : Signature} (found : names.getFunction? name arity = some signature) :
    signature.parameterTypes.length = arity ∧
      ∃ callable, machine.scopes.getFunction? name arity = some callable ∧
        setting.functions.lookup (name, arity) = some callable ∧ callable.Carries signature := by
  rw [fits.static.getFunction?] at found
  obtain ⟨counted, callable, looked, carries⟩ := fits.offers _ signature found
  refine ⟨counted, callable, ?_, looked, carries⟩
  rw [fits.dynamic.getFunction?, fits.functions]
  exact looked

end Fits

end Primer
