import Primer.Scope.Basic

/-! Environments seen as numbered lists of bindings, and what is left of one after work in it.

Work may create scopes and may bind names in the scope that it goes on in; every other scope keeps
its bindings, and the chains stay where they are.
-/

set_option autoImplicit false

namespace Primer

variable {V F : Type}

section lookup

variable {K : Type} [BEq K] [LawfulBEq K] {entries : List (K × V)} {key : K} {value : V}

theorem List.lookup_cons_eq_some {entry : K × V} :
    (entry :: entries).lookup key = some value ↔
      key = entry.1 ∧ entry.2 = value ∨ key ≠ entry.1 ∧ entries.lookup key = some value := by
  rw [List.lookup_cons]
  cases same : key == entry.1 with
  | true => simp [beq_iff_eq.mp same]
  | false => simp [beq_eq_false_iff_ne.mp same]

theorem List.lookup_eq_none : entries.lookup key = none ↔ key ∉ entries.map Prod.fst := by
  rw [List.lookup_eq_none_iff, List.mem_map]
  constructor
  · rintro absent ⟨entry, member, rfl⟩
    exact bne_iff_ne.mp (absent entry member) rfl
  · exact fun absent entry member => bne_iff_ne.mpr fun same => absent ⟨entry, member, same.symm⟩

theorem List.mem_of_lookup (found : entries.lookup key = some value) : (key, value) ∈ entries := by
  obtain ⟨front, back, rfl, -⟩ := List.lookup_eq_some_iff.mp found
  exact List.mem_append_right front List.mem_cons_self

end lookup

namespace Environment

def boundVariables (env : Environment V F) (number : Nat) : List (String × V) :=
  (env.scopes[number]?.map Scope.variableBindings).getD []

def boundFunctions (env : Environment V F) (number : Nat) : List ((String × Nat) × F) :=
  (env.scopes[number]?.map Scope.functionBindings).getD []

theorem getVariable?_eq (env : Environment V F) (name : String) :
    env.getVariable? name =
      env.current.numbers.findSome? fun number => (env.boundVariables number).lookup name := by
  unfold getVariable? variableIn?
  congr 1
  funext number
  cases found : env.scopes[number]? <;> simp [boundVariables, found, Scope.getVariable?]

theorem functionIn?_eq (env : Environment V F) (chain : Chain) (name : String) (arity : Nat) :
    env.functionIn? chain name arity =
      chain.numbers.findSome? fun number => (env.boundFunctions number).lookup (name, arity) := by
  unfold functionIn?
  congr 1
  funext number
  cases found : env.scopes[number]? <;> simp [boundFunctions, found, Scope.getFunction?]

theorem getFunction?_eq (env : Environment V F) (name : String) (arity : Nat) :
    env.getFunction? name arity =
      env.current.numbers.findSome? fun number =>
        (env.boundFunctions number).lookup (name, arity) :=
  env.functionIn?_eq env.current name arity

theorem bindsFunction_eq (env : Environment V F) (chain : Chain) (name : String) (arity : Nat) :
    env.bindsFunction chain name arity =
      ((env.boundFunctions chain.top).lookup (name, arity)).isSome := by
  unfold bindsFunction
  cases found : env.scopes[chain.top]? <;> simp [boundFunctions, found, Scope.getFunction?]

section operations

variable (env : Environment V F) (chain : Chain) (outer : List Nat) (number : Nat)

@[simp] theorem boundVariables_enter :
    (env.enter chain).boundVariables number = env.boundVariables number := rfl

@[simp] theorem boundFunctions_enter :
    (env.enter chain).boundFunctions number = env.boundFunctions number := rfl

@[simp] theorem scopes_enter : (env.enter chain).scopes = env.scopes := rfl

@[simp] theorem current_enter : (env.enter chain).current = chain := rfl

@[simp] theorem boundVariables_child :
    (env.child chain).2.boundVariables number = env.boundVariables number := by
  simp only [boundVariables, child, create, Array.getElem?_push]
  split
  · next last => simp [last]
  · rfl

@[simp] theorem boundFunctions_child :
    (env.child chain).2.boundFunctions number = env.boundFunctions number := by
  simp only [boundFunctions, child, create, Array.getElem?_push]
  split
  · next last => simp [last]
  · rfl

@[simp] theorem size_child : (env.child chain).2.scopes.size = env.scopes.size + 1 := by
  simp [child, create]

@[simp] theorem numbers_child :
    (env.child chain).1.numbers = env.scopes.size :: chain.numbers := rfl

@[simp] theorem top_child : (env.child chain).1.top = env.scopes.size := rfl

end operations

/-- No scope has the number that the next one will get. -/
@[simp] theorem boundVariables_size (env : Environment V F) :
    env.boundVariables env.scopes.size = [] := by
  simp [boundVariables]

@[simp] theorem current_defineVariable (env : Environment V F) (name : String) (value : V) :
    (env.defineVariable name value).current = env.current := rfl

@[simp] theorem size_defineVariable (env : Environment V F) (name : String) (value : V) :
    (env.defineVariable name value).scopes.size = env.scopes.size := by
  simp [defineVariable]

theorem boundVariables_defineVariable_top (env : Environment V F) (name : String) (value : V)
    (bounded : env.current.top < env.scopes.size) :
    (env.defineVariable name value).boundVariables env.current.top =
      (name, value) :: env.boundVariables env.current.top := by
  simp [boundVariables, defineVariable, Scope.defineVariable, Array.getElem_modify, bounded]

theorem boundVariables_defineVariable_of_ne (env : Environment V F) (name : String) (value : V)
    {number : Nat} (other : number ≠ env.current.top) :
    (env.defineVariable name value).boundVariables number = env.boundVariables number := by
  simp [boundVariables, defineVariable, Array.getElem?_modify, other.symm]

theorem boundVariables_defineVariable (env : Environment V F) (name : String) (value : V)
    (number : Nat) :
    (env.defineVariable name value).boundVariables number =
      if number = env.current.top ∧ number < env.scopes.size then
        (name, value) :: env.boundVariables number
      else env.boundVariables number := by
  split
  · next inside =>
    obtain ⟨rfl, bounded⟩ := inside
    exact env.boundVariables_defineVariable_top name value bounded
  · next outside =>
    by_cases top : number = env.current.top
    · have missing : env.scopes[env.current.top]? = none := by
        rw [Array.getElem?_eq_none_iff]
        omega
      simp [boundVariables, defineVariable, Array.getElem?_modify, top, missing]
    · exact env.boundVariables_defineVariable_of_ne name value top

@[simp] theorem boundFunctions_defineVariable (env : Environment V F) (name : String) (value : V)
    (number : Nat) :
    (env.defineVariable name value).boundFunctions number = env.boundFunctions number := by
  simp only [boundFunctions, defineVariable, Array.getElem?_modify]
  split
  · cases env.scopes[number]? <;> rfl
  · rfl

@[simp] theorem size_defineFunction (env : Environment V F) (name : String) (arity : Nat)
    (value : F) : (env.defineFunction name arity value).scopes.size = env.scopes.size := by
  simp [defineFunction]

@[simp] theorem boundVariables_defineFunction (env : Environment V F) (name : String) (arity : Nat)
    (value : F) (number : Nat) :
    (env.defineFunction name arity value).boundVariables number = env.boundVariables number := by
  simp only [boundVariables, defineFunction, Array.getElem?_modify]
  split
  · cases env.scopes[number]? <;> rfl
  · rfl

theorem boundFunctions_defineFunction_top (env : Environment V F) (name : String) (arity : Nat)
    (value : F) (bounded : env.current.top < env.scopes.size) :
    (env.defineFunction name arity value).boundFunctions env.current.top =
      ((name, arity), value) :: env.boundFunctions env.current.top := by
  simp [boundFunctions, defineFunction, Scope.defineFunction, Array.getElem_modify, bounded]

theorem boundFunctions_defineFunction_of_ne (env : Environment V F) (name : String) (arity : Nat)
    (value : F) {number : Nat} (other : number ≠ env.current.top) :
    (env.defineFunction name arity value).boundFunctions number = env.boundFunctions number := by
  simp [boundFunctions, defineFunction, Array.getElem?_modify, other.symm]

/-! ### Growth -/

/-- `after` has the chains of `before` and its scopes. Of these only the ones that are `open` may
have got more variables, and none has got a function. -/
structure Grows (isOpen : Nat → Prop) (before after : Environment V F) : Prop where
  current : after.current = before.current
  global : after.global = before.global
  size : before.scopes.size ≤ after.scopes.size
  boundVariables : ∀ number < before.scopes.size, ¬ isOpen number →
    after.boundVariables number = before.boundVariables number
  boundFunctions : ∀ number, after.boundFunctions number = before.boundFunctions number

abbrev Keeps (before after : Environment V F) : Prop :=
  Grows (fun _ => False) before after

abbrev KeepsOuter (before after : Environment V F) : Prop :=
  Grows (· = before.current.top) before after

namespace Grows

variable {isOpen : Nat → Prop} {first second third : Environment V F}

theorem refl (env : Environment V F) : Grows isOpen env env :=
  ⟨rfl, rfl, Nat.le_refl _, fun _ _ _ => rfl, fun _ => rfl⟩

theorem trans (left : Grows isOpen first second) (right : Grows isOpen second third) :
    Grows isOpen first third where
  current := right.current.trans left.current
  global := right.global.trans left.global
  size := Nat.le_trans left.size right.size
  boundVariables number inside closed :=
    (right.boundVariables number (Nat.lt_of_lt_of_le inside left.size) closed).trans
      (left.boundVariables number inside closed)
  boundFunctions number := (right.boundFunctions number).trans (left.boundFunctions number)

theorem mono {larger : Nat → Prop} (grows : Grows isOpen first second)
    (inclusion : ∀ number < first.scopes.size, isOpen number → larger number) :
    Grows larger first second where
  current := grows.current
  global := grows.global
  size := grows.size
  boundVariables number inside closed :=
    grows.boundVariables number inside fun opened => closed (inclusion number inside opened)
  boundFunctions := grows.boundFunctions

end Grows

theorem Keeps.outer {before after : Environment V F} (keeps : Keeps before after) :
    KeepsOuter before after :=
  keeps.mono fun _ _ => False.elim

theorem KeepsOuter.trans {first second third : Environment V F}
    (left : KeepsOuter first second) (right : KeepsOuter second third) :
    KeepsOuter first third := by
  have top : second.current.top = first.current.top := congrArg Chain.top left.current
  unfold KeepsOuter at right
  rw [top] at right
  exact Grows.trans left right

theorem keepsOuter_defineVariable (env : Environment V F) (name : String) (value : V) :
    KeepsOuter env (env.defineVariable name value) where
  current := rfl
  global := rfl
  size := by simp
  boundVariables _ _ closed := boundVariables_defineVariable_of_ne env name value closed
  boundFunctions := boundFunctions_defineVariable env name value

/-- Work in a new scope, after which the current chain is current again, leaves all scopes as they
were: what it bound is in the new scope. -/
theorem keeps_of_child {before after : Environment V F} {outer : Chain}
    (inner : KeepsOuter ((before.child outer).2.enter (before.child outer).1) after) :
    Keeps before (after.enter before.current) where
  current := rfl
  global := inner.global
  size := by
    have grown := inner.size
    simp only [scopes_enter, size_child] at grown
    simp only [scopes_enter]
    omega
  boundVariables number inside _ := by
    -- The open scope is the new one, whose number lies behind those of all scopes before.
    have kept := inner.boundVariables number
    simp only [scopes_enter, size_child, current_enter, top_child, boundVariables_enter,
      boundVariables_child] at kept
    exact kept (by omega) (by omega)
  boundFunctions number := by
    have kept := inner.boundFunctions number
    simpa using kept

/-! ### Additions -/

section additions

variable {before after : Environment V F}

/-- `after` has the chains of `before`, and the scopes that `before` has bind in it what they bound
there. The current one binds the added variable besides, if there is one. -/
structure Adds (added : Option (String × V)) (before after : Environment V F) : Prop where
  current : after.current = before.current
  global : after.global = before.global
  size : before.scopes.size ≤ after.scopes.size
  boundVariables : ∀ number < before.scopes.size, after.boundVariables number =
    if number = before.current.top then added.toList ++ before.boundVariables number
    else before.boundVariables number
  boundFunctions : ∀ number < before.scopes.size,
    after.boundFunctions number = before.boundFunctions number

theorem Grows.adds (keeps : Keeps before after) : Adds none before after where
  current := keeps.current
  global := keeps.global
  size := keeps.size
  boundVariables number inside := by
    rw [keeps.boundVariables number inside id, Option.toList_none, List.nil_append, ite_self]
  boundFunctions number _ := keeps.boundFunctions number

theorem Adds.define (adds : Adds none before after) (name : String) (value : V) :
    Adds (some (name, value)) before (after.defineVariable name value) where
  current := adds.current
  global := adds.global
  size := by
    rw [size_defineVariable]
    exact adds.size
  boundVariables number inside := by
    have kept := adds.boundVariables number inside
    rw [Option.toList_none, List.nil_append, ite_self] at kept
    have here : (number = after.current.top ∧ number < after.scopes.size) ↔
        number = before.current.top := by
      rw [adds.current]
      exact and_iff_left (Nat.lt_of_lt_of_le inside adds.size)
    rw [boundVariables_defineVariable, kept]
    simp only [here]
    rfl
  boundFunctions number inside := by
    rw [boundFunctions_defineVariable]
    exact adds.boundFunctions number inside

structure AddsFunction (added : Option ((String × Nat) × F)) (before after : Environment V F) :
    Prop where
  current : after.current = before.current
  global : after.global = before.global
  size : before.scopes.size ≤ after.scopes.size
  boundVariables : ∀ number < before.scopes.size,
    after.boundVariables number = before.boundVariables number
  boundFunctions : ∀ number < before.scopes.size, after.boundFunctions number =
    if number = before.current.top then added.toList ++ before.boundFunctions number
    else before.boundFunctions number

theorem AddsFunction.nothing (env : Environment V F) : AddsFunction none env env where
  current := rfl
  global := rfl
  size := Nat.le_refl _
  boundVariables _ _ := rfl
  boundFunctions _ _ := by rw [Option.toList_none, List.nil_append, ite_self]

/-- Work that leaves all scopes alone, once the function is bound. -/
theorem addsFunction_of_keeps {name : String} {arity : Nat} {value : F}
    (keeps : Keeps (before.defineFunction name arity value) after) :
    AddsFunction (some ((name, arity), value)) before after where
  current := keeps.current
  global := keeps.global
  size := by
    have grown := keeps.size
    rwa [size_defineFunction] at grown
  boundVariables number inside := by
    rw [keeps.boundVariables number (by rwa [size_defineFunction]) id,
      boundVariables_defineFunction]
  boundFunctions number inside := by
    rw [keeps.boundFunctions number]
    split
    · next isTop =>
      subst isTop
      exact boundFunctions_defineFunction_top before name arity value inside
    · next other => exact boundFunctions_defineFunction_of_ne before name arity value other

/-- The scope around the one that was pushed is the one that was current before. -/
theorem parent_current_push (env : Environment V F) : env.push.current.parent = env.current := rfl

end additions

end Environment

end Primer
