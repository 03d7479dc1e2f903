import Mathlib.Data.List.Forall2
import Primer.Proofs.Scope.Growth

/-! Environments over different values that bind the same names.

The current chains run in parallel: level by level the same names are bound in the same order, so a
name is found at the same place in both. A relation says what the two bindings of one place have to
do with each other; it is told the number of the scope on the left and how many bindings that scope
had before.
-/

set_option autoImplicit false

namespace Primer

variable {V W F G : Type}

namespace Bindings

def Agree (related : Nat → V → W → Prop) : List (String × V) → List (String × W) → Prop
  | [], [] => True
  | (name, value) :: rest, (other, image) :: others =>
    name = other ∧ related rest.length value image ∧ Agree related rest others
  | _, _ => False

theorem Agree.refl {related : Nat → V → V → Prop}
    (reflexive : ∀ index value, related index value value) (bindings : List (String × V)) :
    Agree related bindings bindings := by
  induction bindings with
  | nil => exact trivial
  | cons binding rest ih => exact ⟨rfl, reflexive _ _, ih⟩

theorem Agree.mono {related larger : Nat → V → W → Prop} {bindings : List (String × V)}
    {others : List (String × W)} (agree : Agree related bindings others)
    (inclusion : ∀ index value image, related index value image → larger index value image) :
    Agree larger bindings others := by
  induction bindings generalizing others with
  | nil => cases others <;> exact agree
  | cons binding rest ih =>
    cases others with
    | nil => exact agree
    | cons other others =>
      obtain ⟨same, first, tail⟩ := agree
      exact ⟨same, inclusion _ _ _ first, ih tail⟩

theorem Agree.names_eq {related : Nat → V → W → Prop} {bindings : List (String × V)}
    {others : List (String × W)} (agree : Agree related bindings others) :
    bindings.map Prod.fst = others.map Prod.fst := by
  induction bindings generalizing others with
  | nil =>
    cases others with
    | nil => rfl
    | cons other others => exact agree.elim
  | cons binding rest ih =>
    cases others with
    | nil => exact agree.elim
    | cons other others =>
      obtain ⟨same, -, tail⟩ := agree
      simp only [List.map_cons]
      rw [same, ih tail]

theorem Agree.length_eq {related : Nat → V → W → Prop} {bindings : List (String × V)}
    {others : List (String × W)} (agree : Agree related bindings others) :
    bindings.length = others.length := by
  simpa using congrArg List.length agree.names_eq

theorem Agree.lookup {related : Nat → V → W → Prop} {bindings : List (String × V)}
    {others : List (String × W)} (agree : Agree related bindings others) (name : String) :
    Option.Rel (fun value image => ∃ index, related index value image)
      (bindings.lookup name) (others.lookup name) := by
  induction bindings generalizing others with
  | nil =>
    cases others with
    | nil => exact .none
    | cons other others => exact agree.elim
  | cons binding rest ih =>
    cases others with
    | nil => exact agree.elim
    | cons other others =>
      obtain ⟨same, first, tail⟩ := agree
      rw [List.lookup_cons, List.lookup_cons, same]
      cases name == other.1 with
      | true => exact .some ⟨_, first⟩
      | false => exact ih tail

/-- The latest binding of the name; `index` bindings are older than it. -/
def Finds (bindings : List (String × V)) (name : String) (index : Nat) (value : V) : Prop :=
  ∃ newer older, bindings = newer ++ (name, value) :: older ∧ name ∉ newer.map Prod.fst ∧
    older.length = index

theorem Finds.lookup {bindings : List (String × V)} {name : String} {index : Nat} {value : V}
    (found : Finds bindings name index value) : bindings.lookup name = some value := by
  obtain ⟨newer, older, rfl, absent, -⟩ := found
  refine List.lookup_eq_some_iff.mpr ⟨newer, older, rfl, fun binding member => bne_iff_ne.mpr ?_⟩
  rintro rfl
  exact absent (List.mem_map_of_mem member)

theorem finds_of_lookup {bindings : List (String × V)} {name : String} {value : V}
    (found : bindings.lookup name = some value) : ∃ index, Finds bindings name index value := by
  obtain ⟨newer, older, rfl, others⟩ := List.lookup_eq_some_iff.mp found
  refine ⟨older.length, newer, older, rfl, fun member => ?_, rfl⟩
  obtain ⟨binding, inside, rfl⟩ := List.mem_map.mp member
  exact bne_iff_ne.mp (others binding inside) rfl

theorem Agree.finds {related : Nat → V → W → Prop} {bindings : List (String × V)}
    {others : List (String × W)} {name : String} {index : Nat} {value : V}
    (agree : Agree related bindings others) (found : Finds bindings name index value) :
    ∃ image, Finds others name index image ∧ related index value image := by
  obtain ⟨newer, older, rfl, absent, counted⟩ := found
  induction newer generalizing others with
  | nil =>
    cases others with
    | nil => exact agree.elim
    | cons other others =>
      obtain ⟨same, first, tail⟩ := agree
      refine ⟨other.2, ⟨[], others, by rw [same]; rfl, by simp, ?_⟩, counted ▸ first⟩
      exact tail.length_eq.symm.trans counted
  | cons binding newer ih =>
    cases others with
    | nil => exact agree.elim
    | cons other others =>
      obtain ⟨same, -, tail⟩ := agree
      simp only [List.map_cons, List.mem_cons, not_or] at absent
      obtain ⟨image, ⟨front, back, rfl, missing, length⟩, relation⟩ := ih tail absent.2
      refine ⟨image, ⟨other :: front, back, rfl, ?_, length⟩, relation⟩
      simp only [List.map_cons, List.mem_cons, not_or]
      exact ⟨same ▸ absent.1, missing⟩

end Bindings

namespace Environment

/-- The current chains bind the same names level by level, to related values. -/
def Agree (related : Nat → Nat → V → W → Prop) (env : Environment V F) (other : Environment W G) :
    Prop :=
  List.Forall₂
    (fun number image => Bindings.Agree (related number) (env.boundVariables number)
      (other.boundVariables image))
    env.current.numbers other.current.numbers

def levels (env : Environment V F) : List (List String) :=
  env.current.numbers.map fun number => (env.boundVariables number).map Prod.fst

def Finds (env : Environment V F) (name : String) (level index : Nat) (value : V) : Prop :=
  ∃ number, env.current.numbers[level]? = some number ∧
    Bindings.Finds (env.boundVariables number) name index value ∧
    ∀ nearer < level, ∀ inner, env.current.numbers[nearer]? = some inner →
      (env.boundVariables inner).lookup name = none

section agreement

variable {related : Nat → Nat → V → W → Prop} {env : Environment V F} {other : Environment W G}

theorem Agree.refl {related : Nat → Nat → V → V → Prop}
    (reflexive : ∀ number index value, related number index value value) (env : Environment V F) :
    Agree related env env :=
  List.forall₂_same.mpr fun number _ => Bindings.Agree.refl (reflexive number) _

theorem Agree.mono {larger : Nat → Nat → V → W → Prop} (agree : Agree related env other)
    (inclusion : ∀ number index value image, related number index value image →
      larger number index value image) :
    Agree larger env other :=
  agree.imp fun number _ level => level.mono (inclusion number)

theorem Agree.levels_eq (agree : Agree related env other) : env.levels = other.levels := by
  unfold Agree at agree
  unfold levels
  generalize env.current.numbers = numbers at agree ⊢
  generalize other.current.numbers = images at agree ⊢
  induction agree with
  | nil => rfl
  | cons level _ ih => rw [List.map_cons, List.map_cons, level.names_eq, ih]

theorem Agree.getVariable? (agree : Agree related env other) (name : String) :
    Option.Rel (fun value image => ∃ number index, related number index value image)
      (env.getVariable? name) (other.getVariable? name) := by
  unfold Agree at agree
  rw [getVariable?_eq, getVariable?_eq]
  generalize env.current.numbers = numbers at agree ⊢
  generalize other.current.numbers = images at agree ⊢
  induction agree with
  | nil => exact .none
  | @cons number image numbers images level _ ih =>
    rw [List.findSome?_cons, List.findSome?_cons]
    have both := level.lookup name
    generalize (env.boundVariables number).lookup name = left at both ⊢
    generalize (other.boundVariables image).lookup name = right at both ⊢
    cases both with
    | none => exact ih
    | some relation =>
      obtain ⟨index, relation⟩ := relation
      exact .some ⟨number, index, relation⟩

theorem Agree.some_of_getVariable? (agree : Agree related env other) {name : String} {value : V}
    (found : env.getVariable? name = some value) :
    ∃ image, other.getVariable? name = some image ∧
      ∃ number index, related number index value image := by
  have both := agree.getVariable? name
  rw [found] at both
  cases looked : other.getVariable? name with
  | none => rw [looked] at both; cases both
  | some image =>
    rw [looked] at both
    cases both with
    | some relation => exact ⟨image, rfl, relation⟩

theorem Finds.getVariable? {name : String} {level index : Nat} {value : V}
    (found : env.Finds name level index value) : env.getVariable? name = some value := by
  obtain ⟨number, at_level, here, absent⟩ := found
  rw [getVariable?_eq]
  generalize env.current.numbers = numbers at at_level absent
  induction numbers generalizing level with
  | nil => simp at at_level
  | cons first rest ih =>
    rw [List.findSome?_cons]
    cases level with
    | zero =>
      have same : first = number := by simpa using at_level
      rw [same, here.lookup]
    | succ level =>
      rw [absent 0 (Nat.succ_pos level) first rfl]
      have further : rest[level]? = some number := by simpa using at_level
      exact ih further
        (fun nearer less inner place => absent (nearer + 1) (by omega) inner (by simpa using place))

theorem finds_of_getVariable? {name : String} {value : V}
    (found : env.getVariable? name = some value) :
    ∃ level index, env.Finds name level index value := by
  rw [getVariable?_eq] at found
  unfold Finds
  generalize env.current.numbers = numbers at found
  induction numbers with
  | nil => simp at found
  | cons first rest ih =>
    rw [List.findSome?_cons] at found
    cases looked : (env.boundVariables first).lookup name with
    | some here =>
      rw [looked] at found
      cases found
      obtain ⟨index, place⟩ := Bindings.finds_of_lookup looked
      exact ⟨0, index, first, rfl, place, fun nearer less => absurd less (Nat.not_lt_zero _)⟩
    | none =>
      rw [looked] at found
      obtain ⟨level, index, number, at_level, place, absent⟩ := ih found
      refine ⟨level + 1, index, number, by simpa using at_level, place, ?_⟩
      intro nearer less inner here
      cases nearer with
      | zero =>
        have same : first = inner := by simpa using here
        exact same ▸ looked
      | succ nearer => exact absent nearer (by omega) inner (by simpa using here)

/-- A name is found at the same level and behind as many older bindings on both sides. -/
theorem Agree.finds (agree : Agree related env other) {name : String} {level index : Nat}
    {value : V} (found : env.Finds name level index value) :
    ∃ number image, env.current.numbers[level]? = some number ∧
      other.Finds name level index image ∧ related number index value image := by
  obtain ⟨number, at_level, here, absent⟩ := found
  -- Both chains are as long, so each level has a scope on either side.
  have aligned := List.forall₂_iff_get.mp agree
  have bound := (List.getElem?_eq_some_iff.mp at_level).1
  have bound' : level < other.current.numbers.length := aligned.1 ▸ bound
  have same := aligned.2 level bound bound'
  have number_eq : env.current.numbers.get ⟨level, bound⟩ = number :=
    (List.getElem?_eq_some_iff.mp at_level).2
  rw [number_eq] at same
  obtain ⟨image, place, relation⟩ := same.finds here
  refine ⟨number, image, at_level, ⟨_, List.getElem?_eq_getElem bound', place, ?_⟩, relation⟩
  -- Nearer levels bind the same names, so the name is missing from them on the right as well.
  intro nearer less inner at_nearer
  have near' := (List.getElem?_eq_some_iff.mp at_nearer).1
  have near : nearer < env.current.numbers.length := aligned.1 ▸ near'
  have lookups := (aligned.2 nearer near near').lookup name
  rw [List.get_eq_getElem, absent nearer less _ (List.getElem?_eq_getElem near)] at lookups
  have inner_eq : other.current.numbers.get ⟨nearer, near'⟩ = inner :=
    (List.getElem?_eq_some_iff.mp at_nearer).2
  rw [inner_eq] at lookups
  cases looked : (other.boundVariables inner).lookup name with
  | none => rfl
  | some value => rw [looked] at lookups; cases lookups

end agreement

/-! ### Chains that lead to the root -/

/-- The current chain leads from newer to older scopes down to the first one, which is the global
scope and the only one that binds functions. -/
structure Rooted (env : Environment V F) : Prop where
  global : env.global = { top := 0, outer := [] }
  descending : env.current.numbers.Pairwise (· > ·)
  bounded : env.current.top < env.scopes.size
  root : 0 ∈ env.current.numbers
  bare : ∀ number, number ≠ 0 → env.boundFunctions number = []

theorem rooted_root : Rooted (root : Environment V F) where
  global := rfl
  descending := List.pairwise_singleton _ _
  bounded := Nat.one_pos
  root := List.mem_singleton.mpr rfl
  bare number other := by simp [boundFunctions, Environment.root, other]

namespace Rooted

variable {env other : Environment V F}

theorem lt_size (rooted : Rooted env) {number : Nat} (member : number ∈ env.current.numbers) :
    number < env.scopes.size := by
  rcases List.mem_cons.mp member with rfl | outer
  · exact rooted.bounded
  · have older := (List.pairwise_cons.mp rooted.descending).1 number outer
    exact Nat.lt_trans older rooted.bounded

theorem ne_top (rooted : Rooted env) {number : Nat} (outer : number ∈ env.current.outer) :
    number ≠ env.current.top :=
  Nat.ne_of_lt ((List.pairwise_cons.mp rooted.descending).1 number outer)

theorem getFunction? (rooted : Rooted env) (name : String) (arity : Nat) :
    env.getFunction? name arity = (env.boundFunctions 0).lookup (name, arity) := by
  rw [getFunction?_eq]
  have root := rooted.root
  -- Only the scope with number zero can answer, wherever it stands in the chain.
  generalize env.current.numbers = numbers at root
  induction numbers with
  | nil => cases root
  | cons first rest ih =>
    rw [List.findSome?_cons]
    by_cases zero : first = 0
    · subst zero
      cases found : (env.boundFunctions 0).lookup (name, arity) with
      | some value => rfl
      | none =>
        apply List.findSome?_eq_none_iff.mpr
        intro number _
        by_cases also : number = 0
        · rw [also, found]
        · rw [rooted.bare number also]
          rfl
    · rw [rooted.bare first zero]
      exact ih ((List.mem_cons.mp root).resolve_left (Ne.symm zero))

theorem of_grows {isOpen : Nat → Prop} (rooted : Rooted env) (grows : Grows isOpen env other) :
    Rooted other where
  global := grows.global.trans rooted.global
  descending := grows.current ▸ rooted.descending
  bounded := grows.current ▸ Nat.lt_of_lt_of_le rooted.bounded grows.size
  root := grows.current ▸ rooted.root
  bare number other := (grows.boundFunctions number).trans (rooted.bare number other)

theorem defineFunction (rooted : Rooted env) (top : env.current.top = 0) (name : String)
    (arity : Nat) (value : F) : Rooted (env.defineFunction name arity value) where
  global := rooted.global
  descending := rooted.descending
  bounded := (size_defineFunction env name arity value).symm ▸ rooted.bounded
  root := rooted.root
  bare number other := by
    rw [boundFunctions_defineFunction_of_ne env name arity value (top ▸ other)]
    exact rooted.bare number other

theorem child (rooted : Rooted env) {chain : Chain}
    (descending : chain.numbers.Pairwise (· > ·))
    (bounded : ∀ number ∈ chain.numbers, number < env.scopes.size)
    (root : 0 ∈ chain.numbers) :
    Rooted ((env.child chain).2.enter (env.child chain).1) where
  global := rooted.global
  descending := by
    rw [current_enter, numbers_child]
    exact List.pairwise_cons.mpr ⟨bounded, descending⟩
  bounded := by simp
  root := by
    rw [current_enter, numbers_child]
    exact List.mem_cons_of_mem _ root
  bare number other := by simpa using rooted.bare number other

theorem child_current (rooted : Rooted env) :
    Rooted ((env.child env.current).2.enter (env.child env.current).1) :=
  rooted.child rooted.descending (fun _ => rooted.lt_size) rooted.root

theorem child_root (rooted : Rooted env) :
    Rooted ((env.child { top := 0, outer := [] }).2.enter
      (env.child { top := 0, outer := [] }).1) :=
  rooted.child (List.pairwise_singleton _ _)
    (fun _ member => (List.mem_singleton.mp member) ▸ rooted.lt_size rooted.root)
    (List.mem_singleton.mpr rfl)

/-- A scope that is opened is never the global one. -/
theorem push_ne_root (rooted : Rooted env) : env.push.current.top ≠ 0 :=
  Nat.ne_of_gt (rooted.lt_size rooted.root)

end Rooted

/-- A descending chain that contains zero ends with it. -/
theorem last_of_descending {numbers : List Nat} (descending : numbers.Pairwise (· > ·))
    (root : 0 ∈ numbers) : numbers.getLast? = some 0 := by
  induction numbers with
  | nil => cases root
  | cons first rest ih =>
    obtain ⟨above, tail⟩ := List.pairwise_cons.mp descending
    cases rest with
    | nil => rw [List.mem_singleton.mp root]; rfl
    | cons second others =>
      have positive := above second List.mem_cons_self
      rw [List.getLast?_cons_cons]
      exact ih tail ((List.mem_cons.mp root).resolve_left (by omega))

/-- Chains that agree do so on their global scopes. -/
theorem Agree.root {related : Nat → Nat → V → W → Prop} {env : Environment V F}
    {other : Environment W G} (agree : Agree related env other) (rooted : Rooted env)
    (otherRooted : Rooted other) :
    Bindings.Agree (related 0) (env.boundVariables 0) (other.boundVariables 0) := by
  have left := last_of_descending rooted.descending rooted.root
  have right := last_of_descending otherRooted.descending otherRooted.root
  unfold Agree at agree
  generalize env.current.numbers = numbers at agree left
  generalize other.current.numbers = images at agree right
  induction agree with
  | nil => cases left
  | @cons number image numbers images level rest ih =>
    cases rest with
    | nil =>
      cases left
      cases right
      exact level
    | cons =>
      rw [List.getLast?_cons_cons] at left right
      exact ih left right

/-! ### Agreement through operations -/

section operations

variable {related : Nat → Nat → V → W → Prop} {env after : Environment V F}
  {other otherAfter : Environment W G}

theorem levels_agree_of_eq {numbers images : List Nat}
    (levels : List.Forall₂
      (fun number image => Bindings.Agree (related number) (env.boundVariables number)
        (other.boundVariables image)) numbers images)
    (left : ∀ number ∈ numbers, after.boundVariables number = env.boundVariables number)
    (right : ∀ image ∈ images, otherAfter.boundVariables image = other.boundVariables image) :
    List.Forall₂
      (fun number image => Bindings.Agree (related number) (after.boundVariables number)
        (otherAfter.boundVariables image)) numbers images := by
  induction levels with
  | nil => exact .nil
  | @cons number image numbers images level _ ih =>
    constructor
    · rw [left number List.mem_cons_self, right image List.mem_cons_self]
      exact level
    · apply ih
      · exact fun inner member => left inner (List.mem_cons_of_mem _ member)
      · exact fun inner member => right inner (List.mem_cons_of_mem _ member)

theorem Agree.of_keeps (agree : Agree related env other) (rooted : Rooted env)
    (otherRooted : Rooted other) (keeps : Keeps env after) (otherKeeps : Keeps other otherAfter) :
    Agree related after otherAfter := by
  unfold Agree at agree ⊢
  rw [keeps.current, otherKeeps.current]
  apply levels_agree_of_eq agree
  · intro number member
    exact keeps.boundVariables number (rooted.lt_size member) id
  · intro image member
    exact otherKeeps.boundVariables image (otherRooted.lt_size member) id

theorem Agree.child {chain otherChain : Chain}
    (agree : List.Forall₂
      (fun number image => Bindings.Agree (related number) (env.boundVariables number)
        (other.boundVariables image)) chain.numbers otherChain.numbers) :
    Agree related ((env.child chain).2.enter (env.child chain).1)
      ((other.child otherChain).2.enter (other.child otherChain).1) := by
  unfold Agree
  rw [current_enter, current_enter, numbers_child, numbers_child]
  simp only [boundVariables_enter, boundVariables_child]
  refine .cons ?_ agree
  rw [boundVariables_size, boundVariables_size]
  trivial

theorem Agree.child_root (current : env.current = { top := 0, outer := [] })
    (level : Bindings.Agree (related 0) (env.boundVariables 0) (other.boundVariables 0)) :
    Agree related ((env.child env.current).2.enter (env.child env.current).1)
      ((other.child { top := 0, outer := [] }).2.enter
        (other.child { top := 0, outer := [] }).1) := by
  apply Agree.child
  rw [current]
  exact .cons level .nil

theorem Agree.define (agree : Agree related env other) (rooted : Rooted env)
    (otherRooted : Rooted other) (name : String) {value : V} {image : W}
    (relation : related env.current.top (env.boundVariables env.current.top).length value image) :
    Agree related (env.defineVariable name value) (other.defineVariable name image) := by
  unfold Agree at agree ⊢
  rw [current_defineVariable, current_defineVariable]
  obtain ⟨first, rest⟩ := List.forall₂_cons.mp agree
  constructor
  · rw [boundVariables_defineVariable_top env name value rooted.bounded,
      boundVariables_defineVariable_top other name image otherRooted.bounded]
    exact ⟨rfl, relation, first⟩
  · -- The chains descend, so no outer scope is the one that gets the binding.
    apply levels_agree_of_eq rest
    · intro number member
      exact boundVariables_defineVariable_of_ne env name value (rooted.ne_top member)
    · intro image member
      exact boundVariables_defineVariable_of_ne other name _ (otherRooted.ne_top member)

end operations

end Environment

end Primer
