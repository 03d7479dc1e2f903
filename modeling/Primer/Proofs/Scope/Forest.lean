import Mathlib.Logic.Relation
import Primer.Scope.Basic

/-! Scopes as a forest of finite maps.

A scope has a link to the scope around it and knows what was defined in it. What can be done to an
environment is done here to the links and to the list of all definitions. Links lead to older scopes
only, so every walk outwards ends.
-/

set_option autoImplicit false

namespace Primer

variable {V F : Type}

namespace Environment

inductive Key where
  | named (name : String)
  | function (name : String) (arity : Nat)
  deriving DecidableEq

inductive Definition (V F : Type) where
  | named (name : String) (value : V)
  | function (name : String) (arity : Nat) (value : F)

def Definition.key : Definition V F → Key
  | named name _ => .named name
  | function name arity _ => .function name arity

def Definition.value : Definition V F → V ⊕ F
  | named _ value => .inl value
  | function _ _ value => .inr value

inductive Destination where
  | global
  | childOfGlobal
  | childOfCurrent
  | detached

/-- What can be done to an environment. -/
inductive Action (V F : Type) where
  | push
  | pop
  | enter (destination : Destination)
  /-- Goes back to a scope that was left, `index` others after it. There may be none. -/
  | restore (index : Nat)
  | define (definition : Definition V F)

end Environment

open Environment

theorem List.lookup_cons_eq_ite {K A : Type} [BEq K] [LawfulBEq K] [DecidableEq K]
    (entry : K × A) (entries : List (K × A)) (key : K) :
    (entry :: entries).lookup key =
      if key = entry.1 then some entry.2 else entries.lookup key := by
  rw [List.lookup_cons]
  by_cases same : key = entry.1
  · simp [same]
  · simp [same, beq_eq_false_iff_ne.mpr same]

abbrev Links := List (Option Nat)

namespace Links

def Inside (links : Links) (inner outer : Nat) : Prop :=
  links[inner]? = some (some outer)

inductive Path (links : Links) : Nat → List Nat → Prop where
  | root {scope : Nat} (isRoot : links[scope]? = some none) : Path links scope [scope]
  | inside {scope outer : Nat} {path : List Nat} (link : links.Inside scope outer)
      (rest : Path links outer path) : Path links scope (scope :: path)

def Leads (links : Links) (outer : Option Nat) (path : List Nat) : Prop :=
  match outer with
  | none => path = []
  | some scope => links.Path scope path

/-- Every scope is younger than the scope around it. -/
def Ordered (links : Links) : Prop :=
  ∀ inner outer, links.Inside inner outer → outer < inner

variable {links : Links} {scope : Nat} {path : List Nat} {outer : Option Nat}

theorem Path.lt_length (isPath : links.Path scope path) : scope < links.length := by
  cases isPath with
  | root isRoot => exact (List.getElem?_eq_some_iff.mp isRoot).1
  | inside link => exact (List.getElem?_eq_some_iff.mp link).1

theorem Path.head {first : Nat} (isPath : links.Path scope (first :: path)) : first = scope := by
  cases isPath <;> rfl

theorem Path.unique {other : List Nat} (first : links.Path scope path)
    (second : links.Path scope other) : path = other := by
  induction first generalizing other with
  | root isRoot =>
    cases second with
    | root => rfl
    | inside link =>
      rw [Inside, isRoot] at link
      cases link
  | inside link rest ih =>
    cases second with
    | root isRoot =>
      rw [Inside, isRoot] at link
      cases link
    | inside also others =>
      rw [Inside, link] at also
      cases also
      rw [ih others]

theorem Path.mem_le (isPath : links.Path scope path) (ordered : links.Ordered) :
    ∀ other ∈ path, other ≤ scope := by
  induction isPath with
  | root => simp
  | inside link rest ih =>
    have less := ordered _ _ link
    intro other member
    rcases List.mem_cons.mp member with rfl | behind
    · exact Nat.le_refl other
    · have bound := ih other behind
      omega

theorem Path.nodup (isPath : links.Path scope path) (ordered : links.Ordered) : path.Nodup := by
  induction isPath with
  | root => simp
  | inside link rest ih =>
    refine List.nodup_cons.mpr ⟨fun member => ?_, ih⟩
    have less := ordered _ _ link
    have bound := rest.mem_le ordered _ member
    omega

theorem Ordered.acyclic (ordered : links.Ordered) (scope : Nat) :
    ¬ Relation.TransGen links.Inside scope scope := by
  have less : ∀ outer, Relation.TransGen links.Inside scope outer → outer < scope := by
    intro outer walk
    induction walk with
    | single link => exact ordered _ _ link
    | tail _ link ih =>
      have next := ordered _ _ link
      omega
  exact fun cycle => Nat.lt_irrefl scope (less scope cycle)

/-- Walking outwards ends, since the scopes get older. -/
theorem Ordered.exists_path (ordered : links.Ordered) (exist : scope < links.length) :
    ∃ path, links.Path scope path := by
  induction scope using Nat.strongRecOn with
  | ind scope ih =>
    cases link : links[scope] with
    | none => exact ⟨_, .root (List.getElem?_eq_some_iff.mpr ⟨exist, link⟩)⟩
    | some outer =>
      have inside : links.Inside scope outer := List.getElem?_eq_some_iff.mpr ⟨exist, link⟩
      have less := ordered _ _ inside
      obtain ⟨path, rest⟩ := ih outer less (by omega)
      exact ⟨_, .inside inside rest⟩

/-! ### A new link -/

theorem Ordered.append (ordered : links.Ordered)
    (exist : ∀ scope, outer = some scope → scope < links.length) :
    Ordered (links ++ [outer]) := by
  intro inner other link
  rw [Inside, List.getElem?_append] at link
  split at link
  · exact ordered inner other link
  · have isNew : inner - links.length = 0 ∧ outer = some other := by
      simpa [List.getElem?_singleton] using link
    have bound := exist other isNew.2
    omega

theorem Path.append (isPath : links.Path scope path) (outer : Option Nat) :
    Path (links ++ [outer]) scope path := by
  have kept : ∀ (scope : Nat) (link : Option Nat), links[scope]? = some link →
      (links ++ [outer])[scope]? = some link := by
    intro scope link found
    rwa [List.getElem?_append_left (List.getElem?_eq_some_iff.mp found).1]
  induction isPath with
  | root isRoot => exact .root (kept _ _ isRoot)
  | inside link _ ih => exact .inside (kept _ _ link) ih

theorem Leads.lt_length (leads : links.Leads outer path) :
    ∀ scope, outer = some scope → scope < links.length := by
  rintro scope rfl
  exact Path.lt_length leads

theorem Leads.path_append (leads : links.Leads outer path) :
    Path (links ++ [outer]) links.length (links.length :: path) := by
  have link : (links ++ [outer])[links.length]? = some outer := by simp
  cases outer with
  | none =>
    obtain rfl : path = [] := leads
    exact .root link
  | some scope => exact .inside link (Path.append leads _)

end Links

/-- Scopes are numbered in the order of their creation, and the first one is the global one. -/
structure Forest (V F : Type) where
  links : Links
  definitions : List ((Nat × Key) × (V ⊕ F))
  current : Nat
  left : List Nat

namespace Forest

def start : Forest V F :=
  { links := [none], definitions := [], current := 0, left := [] }

def create (forest : Forest V F) (outer : Option Nat) : Forest V F :=
  { forest with links := forest.links ++ [outer], current := forest.links.length }

def goTo (forest : Forest V F) : Destination → Forest V F
  | .global => { forest with current := 0 }
  | .childOfGlobal => forest.create (some 0)
  | .childOfCurrent => forest.create (some forest.current)
  | .detached => forest.create none

def act (forest : Forest V F) : Action V F → Forest V F
  | .push => forest.create (some forest.current)
  | .pop => { forest with current := forest.links[forest.current]?.join.getD forest.current }
  | .enter destination => { forest.goTo destination with left := forest.current :: forest.left }
  | .restore index => { forest with current := forest.left[index]?.getD forest.current }
  | .define definition =>
    { forest with
      definitions := ((forest.current, definition.key), definition.value) :: forest.definitions }

def run (actions : List (Action V F)) : Forest V F :=
  actions.foldl act start

def latest? (forest : Forest V F) (scope : Nat) (key : Key) : Option (V ⊕ F) :=
  forest.definitions.lookup (scope, key)

/-- What a walk outwards from a scope finds: the nearest scope that has the key decides. -/
inductive Finds (forest : Forest V F) (key : Key) : Nat → Option (V ⊕ F) → Prop where
  | here {scope : Nat} {value : V ⊕ F} (found : forest.latest? scope key = some value) :
    Finds forest key scope (some value)
  | further {scope outer : Nat} {result : Option (V ⊕ F)}
      (missing : forest.latest? scope key = none) (link : forest.links.Inside scope outer)
      (rest : Finds forest key outer result) : Finds forest key scope result
  | nowhere {scope : Nat} (missing : forest.latest? scope key = none)
      (isRoot : forest.links[scope]? = some none) : Finds forest key scope none

/-- The scope is on the path, and no scope in front of it has the key. -/
inductive Foremost (forest : Forest V F) (key : Key) (scope : Nat) : List Nat → Prop where
  | here {path : List Nat} : Foremost forest key scope (scope :: path)
  | further {nearer : Nat} {path : List Nat} (missing : forest.latest? nearer key = none)
      (rest : Foremost forest key scope path) : Foremost forest key scope (nearer :: path)

variable {forest : Forest V F}

/-- Along the path a walk finds what the first scope with the key has. -/
theorem finds_of_path {scope : Nat} {path : List Nat} (isPath : forest.links.Path scope path)
    (key : Key) : forest.Finds key scope (path.findSome? (forest.latest? · key)) := by
  induction isPath with
  | @root scope isRoot =>
    cases found : forest.latest? scope key with
    | none => simpa [found] using Finds.nowhere found isRoot
    | some value => simpa [found] using Finds.here found
  | @inside scope outer path link rest ih =>
    cases found : forest.latest? scope key with
    | none => simpa [found] using Finds.further found link ih
    | some value => simpa [found] using Finds.here found

/-! ### Definitions -/

theorem latest?_define (forest : Forest V F) (definition : Definition V F) (scope : Nat)
    (key : Key) :
    (forest.act (.define definition)).latest? scope key =
      if scope = forest.current ∧ key = definition.key then some definition.value
      else forest.latest? scope key := by
  unfold latest? act
  rw [List.lookup_cons_eq_ite]
  simp only [Prod.mk.injEq]

/-- A definition counts on a path where nothing nearer has its key, and changes nothing else. -/
theorem findSome?_define (forest : Forest V F) (definition : Definition V F) (key : Key)
    (path : List Nat) :
    (key = definition.key ∧ forest.Foremost key forest.current path ∧
        path.findSome? ((forest.act (.define definition)).latest? · key) =
          some definition.value) ∨
      (¬ (key = definition.key ∧ forest.Foremost key forest.current path) ∧
        path.findSome? ((forest.act (.define definition)).latest? · key) =
          path.findSome? (forest.latest? · key)) := by
  by_cases same : key = definition.key
  · subst same
    induction path with
    | nil => exact .inr ⟨fun both => (nomatch both.2), rfl⟩
    | cons scope path ih =>
      by_cases isCurrent : scope = forest.current
      · subst isCurrent
        exact .inl ⟨rfl, .here, by simp [latest?_define]⟩
      · -- A scope in front of the current one hides the definition if it has the key itself.
        cases found : forest.latest? scope definition.key with
        | some value =>
          refine .inr ⟨fun ⟨_, foremost⟩ => ?_, by simp [latest?_define, isCurrent, found]⟩
          cases foremost with
          | here => exact isCurrent rfl
          | further missing =>
            rw [found] at missing
            cases missing
        | none =>
          rcases ih with ⟨_, foremost, counts⟩ | ⟨hidden, counts⟩
          · exact .inl ⟨rfl, .further found foremost,
              by simpa [latest?_define, isCurrent, found] using counts⟩
          · refine .inr ⟨fun ⟨_, foremost⟩ => ?_,
              by simpa [latest?_define, isCurrent, found] using counts⟩
            cases foremost with
            | here => exact isCurrent rfl
            | further _ rest => exact hidden ⟨rfl, rest⟩
  · exact .inr ⟨fun both => same both.1, by simp [latest?_define, same]⟩

/-! ### One definition more -/

structure DiffersIn (scope : Nat) (first second : Forest V F) : Prop where
  links : second.links = first.links
  current : second.current = first.current
  left : second.left = first.left
  latest? : ∀ other ≠ scope, ∀ key, second.latest? other key = first.latest? other key

theorem differsIn_define (definition : Definition V F) :
    DiffersIn forest.current forest (forest.act (.define definition)) where
  links := rfl
  current := rfl
  left := rfl
  latest? other different key := by simp [latest?_define, different]

namespace DiffersIn

variable {scope : Nat} {first second : Forest V F}

theorem act (differs : DiffersIn scope first second) (action : Action V F) :
    DiffersIn scope (first.act action) (second.act action) := by
  obtain ⟨links, current, left, latest?⟩ := differs
  cases action with
  | define definition =>
    refine ⟨links, current, left, fun other different key => ?_⟩
    rw [latest?_define, latest?_define, current, latest? other different key]
  | push | pop | restore => exact ⟨by simp [Forest.act, create, links, current],
      by simp [Forest.act, create, links, current, left], left, latest?⟩
  | enter destination =>
    cases destination <;>
      exact ⟨by simp [Forest.act, goTo, create, links, current],
        by simp [Forest.act, goTo, create, links], by simp [Forest.act, left, current], latest?⟩

theorem foldl (differs : DiffersIn scope first second) (actions : List (Action V F)) :
    DiffersIn scope (actions.foldl Forest.act first) (actions.foldl Forest.act second) := by
  induction actions generalizing first second with
  | nil => exact differs
  | cons action others ih => exact ih (differs.act action)

theorem findSome? (differs : DiffersIn scope first second) {path : List Nat}
    (absent : scope ∉ path) (key : Key) :
    path.findSome? (second.latest? · key) = path.findSome? (first.latest? · key) := by
  induction path with
  | nil => rfl
  | cons other path ih =>
    have different : other ≠ scope := fun same => absent (same ▸ List.mem_cons_self)
    have others : scope ∉ path := fun member => absent (List.mem_cons_of_mem other member)
    rw [List.findSome?_cons, List.findSome?_cons, differs.latest? other different key, ih others]

end DiffersIn

end Forest

end Primer
