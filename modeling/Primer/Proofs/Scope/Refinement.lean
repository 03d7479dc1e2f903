import Mathlib.Data.List.Forall2
import Primer.Proofs.Scope.Forest
import Primer.Proofs.Scope.Growth

/-! Environments refine forests of finite maps.

Whatever is done to an environment, its chains are paths of the forest to which the same is done,
and its scopes have what is defined in the forest. So what a look-up finds is decided by the nearest
scope on the chain, and a definition shows exactly along the chains that it is in front of.
-/

set_option autoImplicit false

namespace Primer

variable {V F : Type}

open Environment

theorem Chain.numbers_injective : Function.Injective Chain.numbers := by
  intro first second same
  cases first
  cases second
  cases same
  rfl

namespace Environment

def find? (env : Environment V F) (chain : Chain) : Key → Option (V ⊕ F)
  | .named name => (env.variableIn? chain name).map .inl
  | .function name arity => (env.functionIn? chain name arity).map .inr

def bound? (env : Environment V F) (scope : Nat) : Key → Option (V ⊕ F)
  | .named name => ((env.boundVariables scope).lookup name).map .inl
  | .function name arity => ((env.boundFunctions scope).lookup (name, arity)).map .inr

def define (env : Environment V F) : Definition V F → Environment V F
  | .named name value => env.defineVariable name value
  | .function name arity value => env.defineFunction name arity value

def target (env : Environment V F) : Destination → Chain × Environment V F
  | .global => (env.global, env)
  | .childOfGlobal => env.child env.global
  | .childOfCurrent => env.child env.current
  | .detached => env.create []

section bound

variable (env : Environment V F)

theorem find?_eq (chain : Chain) (key : Key) :
    env.find? chain key = chain.numbers.findSome? (env.bound? · key) := by
  cases key with
  | named name =>
    have found : env.variableIn? chain name =
        chain.numbers.findSome? fun number => (env.boundVariables number).lookup name :=
      (env.enter chain).getVariable?_eq name
    change (env.variableIn? chain name).map Sum.inl = _
    rw [found, List.map_findSome?]
    rfl
  | function name arity =>
    change (env.functionIn? chain name arity).map Sum.inr = _
    rw [functionIn?_eq, List.map_findSome?]
    rfl

theorem bound?_create (outer : List Nat) (scope : Nat) (key : Key) :
    (env.create outer).2.bound? scope key = env.bound? scope key := by
  -- The new scope has no bindings, whatever lies around it.
  change (env.child env.current).2.bound? scope key = _
  cases key <;> simp [bound?]

theorem bound?_define (exist : env.current.top < env.scopes.size) (definition : Definition V F)
    (scope : Nat) (key : Key) :
    (env.define definition).bound? scope key =
      if scope = env.current.top ∧ key = definition.key then some definition.value
      else env.bound? scope key := by
  by_cases isCurrent : scope = env.current.top
  · subst isCurrent
    cases definition with
    | named name value =>
      have added := env.boundVariables_defineVariable_top name value exist
      cases key with
      | named other =>
        simp only [bound?, define, added, List.lookup_cons_eq_ite, Definition.key, Key.named.injEq,
          true_and]
        split <;> rfl
      | function other count => simp [bound?, define, Definition.key]
    | function name arity value =>
      have added := env.boundFunctions_defineFunction_top name arity value exist
      cases key with
      | named other => simp [bound?, define, Definition.key]
      | function other count =>
        simp only [bound?, define, added, List.lookup_cons_eq_ite, Definition.key, Prod.mk.injEq,
          Key.function.injEq, true_and]
        split <;> rfl
  · rw [if_neg fun both => isCurrent both.1]
    cases definition <;> cases key <;>
      simp [bound?, define, boundVariables_defineVariable_of_ne _ _ _ isCurrent,
        boundFunctions_defineFunction_of_ne _ _ _ _ isCurrent]

end bound

end Environment

/-- An environment that is moved about in. -/
structure Trail (V F : Type) where
  env : Environment V F
  left : List Chain

namespace Trail

def start : Trail V F :=
  { env := .root, left := [] }

def act (trail : Trail V F) : Action V F → Trail V F
  | .push => { trail with env := trail.env.push }
  | .pop => { trail with env := trail.env.pop }
  | .enter destination =>
    let (chain, env) := trail.env.target destination
    { env := env.enter chain, left := trail.env.current :: trail.left }
  | .restore index => { trail with env := trail.left[index]?.elim trail.env trail.env.enter }
  | .define definition => { trail with env := trail.env.define definition }

def run (actions : List (Action V F)) : Trail V F :=
  actions.foldl act start

/-- The chains are paths of the forest, and the scopes have what is defined in it. -/
structure Matches (trail : Trail V F) (forest : Forest V F) : Prop where
  ordered : forest.links.Ordered
  size : trail.env.scopes.size = forest.links.length
  global : forest.links.Path 0 trail.env.global.numbers
  current : forest.links.Path forest.current trail.env.current.numbers
  left : List.Forall₂ (fun scope chain => forest.links.Path scope (Chain.numbers chain))
    forest.left trail.left
  bound : ∀ scope key, trail.env.bound? scope key = forest.latest? scope key

/-- The environment behaves like the forest. -/
structure Refines (trail : Trail V F) (forest : Forest V F) : Prop where
  acyclic : ∀ scope, ¬ Relation.TransGen forest.links.Inside scope scope
  ends : ∀ scope, scope < forest.links.length ↔ ∃ path, forest.links.Path scope path
  chain : forest.links.Path forest.current trail.env.current.numbers ∧
    trail.env.current.numbers.Nodup
  depth : ∀ path, forest.links.Path forest.current path ↔
    path = trail.env.current.numbers ∧ trail.env.depth = path.length
  findsVariable : ∀ name, forest.Finds (.named name) forest.current
    ((trail.env.getVariable? name).map .inl)
  findsFunction : ∀ name arity, forest.Finds (.function name arity) forest.current
    ((trail.env.getFunction? name arity).map .inr)
  define : ∀ definition chain key,
    (key = definition.key ∧ forest.Foremost key forest.current chain.numbers ∧
        (trail.env.define definition).find? chain key = some definition.value) ∨
      (¬ (key = definition.key ∧ forest.Foremost key forest.current chain.numbers) ∧
        (trail.env.define definition).find? chain key = trail.env.find? chain key)
  root : forest.links[forest.current]? = some none ↔ trail.env.pop = trail.env

theorem getElem?_of_forall₂ {α β : Type} {relation : α → β → Prop} {first : List α}
    {second : List β} (all : List.Forall₂ relation first second) (index : Nat) :
    (first[index]? = none ∧ second[index]? = none) ∨
      ∃ a b, first[index]? = some a ∧ second[index]? = some b ∧ relation a b := by
  induction all generalizing index with
  | nil => exact .inl ⟨rfl, rfl⟩
  | cons related _ ih =>
    cases index with
    | zero => exact .inr ⟨_, _, rfl, rfl, related⟩
    | succ index => exact ih index

section parent

variable {links : Links} {scope : Nat} {chain : Chain}

theorem path_parent (path : links.Path scope chain.numbers) :
    links.Path (links[scope]?.join.getD scope) chain.parent.numbers := by
  obtain ⟨top, outer⟩ := chain
  unfold Chain.numbers at path
  cases path with
  | root isRoot =>
    rw [isRoot]
    exact .root isRoot
  | inside link rest =>
    rw [Links.Inside] at link
    rw [link]
    cases outer with
    | nil => cases rest
    | cons next more => exact rest

theorem isRoot_iff (path : links.Path scope chain.numbers) :
    links[scope]? = some none ↔ chain.parent = chain := by
  obtain ⟨top, outer⟩ := chain
  unfold Chain.numbers at path
  cases path with
  | root isRoot => exact iff_of_true isRoot rfl
  | inside link rest =>
    rw [Links.Inside] at link
    cases outer with
    | nil => cases rest
    | cons next more =>
      -- A scope less is another chain.
      refine iff_of_false (by simp [link]) fun stays => ?_
      have shorter := congrArg (fun chain => chain.outer.length) stays
      simp [Chain.parent] at shorter

end parent

namespace Matches

variable {trail : Trail V F} {forest : Forest V F}

theorem start : Matches (Trail.start : Trail V F) Forest.start where
  ordered inner outer link := by
    cases inner <;> simp [Links.Inside, Forest.start] at link
  size := rfl
  global := .root rfl
  current := .root rfl
  left := .nil
  bound scope key := by
    cases scope <;> cases key <;> rfl

theorem top (same : Matches trail forest) : trail.env.current.top = forest.current :=
  same.current.head

theorem top_lt_size (same : Matches trail forest) :
    trail.env.current.top < trail.env.scopes.size := by
  rw [same.top, same.size]
  exact same.current.lt_length

theorem find? (same : Matches trail forest) (chain : Chain) (key : Key) :
    trail.env.find? chain key = chain.numbers.findSome? (forest.latest? · key) := by
  rw [find?_eq]
  congr 1
  funext scope
  exact same.bound scope key

theorem moveTo (same : Matches trail forest) {scope : Nat} {chain : Chain}
    (path : forest.links.Path scope chain.numbers) :
    Matches { trail with env := trail.env.enter chain } { forest with current := scope } :=
  { same with current := path }

theorem create (same : Matches trail forest) (outer : Option Nat) {numbers : List Nat}
    (leads : forest.links.Leads outer numbers) :
    Matches { trail with env := (trail.env.create numbers).2.enter (trail.env.create numbers).1 }
      (forest.create outer) where
  ordered := same.ordered.append leads.lt_length
  size := by simpa [Environment.create, Forest.create] using same.size
  global := same.global.append outer
  current := by
    change Links.Path _ forest.links.length (trail.env.scopes.size :: numbers)
    rw [same.size]
    exact leads.path_append
  left := same.left.imp fun _ _ path => path.append outer
  bound scope key := (trail.env.bound?_create numbers scope key).trans (same.bound scope key)

theorem remember (same : Matches trail forest) {scope : Nat} {chain : Chain}
    (path : forest.links.Path scope chain.numbers) :
    Matches { trail with left := chain :: trail.left }
      { forest with left := scope :: forest.left } :=
  { same with left := .cons path same.left }

theorem pop (same : Matches trail forest) : Matches (trail.act .pop) (forest.act .pop) :=
  same.moveTo (path_parent same.current)

theorem enter (same : Matches trail forest) (destination : Destination) :
    Matches (trail.act (.enter destination)) (forest.act (.enter destination)) := by
  cases destination with
  | global => exact (same.moveTo same.global).remember same.current
  | childOfGlobal => exact (same.create (some 0) same.global).remember (same.current.append _)
  | childOfCurrent =>
    exact (same.create (some forest.current) same.current).remember (same.current.append _)
  | detached => exact (same.create none rfl).remember (same.current.append _)

theorem restore (same : Matches trail forest) (index : Nat) :
    Matches (trail.act (.restore index)) (forest.act (.restore index)) := by
  rcases getElem?_of_forall₂ same.left index with
    ⟨noScope, noChain⟩ | ⟨scope, chain, isScope, isChain, path⟩
  · simpa [Trail.act, Forest.act, noScope, noChain] using same
  · simpa [Trail.act, Forest.act, isScope, isChain] using same.moveTo path

theorem define (same : Matches trail forest) (definition : Definition V F) :
    Matches (trail.act (.define definition)) (forest.act (.define definition)) := by
  have size : (trail.env.define definition).scopes.size = trail.env.scopes.size := by
    cases definition <;> simp [Environment.define]
  have chains : (trail.env.define definition).global = trail.env.global ∧
      (trail.env.define definition).current = trail.env.current := by
    cases definition <;> exact ⟨rfl, rfl⟩
  refine ⟨same.ordered, size.trans same.size, ?_, ?_, same.left, fun scope key => ?_⟩
  · exact chains.1 ▸ same.global
  · exact chains.2 ▸ same.current
  · rw [Forest.latest?_define, ← same.top, ← same.bound scope key]
    exact trail.env.bound?_define same.top_lt_size definition scope key

theorem act (same : Matches trail forest) (action : Action V F) :
    Matches (trail.act action) (forest.act action) := by
  cases action with
  | push => exact same.create (some forest.current) same.current
  | pop => exact same.pop
  | enter destination => exact same.enter destination
  | restore index => exact same.restore index
  | define definition => exact same.define definition

theorem foldl (same : Matches trail forest) (actions : List (Action V F)) :
    Matches (actions.foldl Trail.act trail) (actions.foldl Forest.act forest) := by
  induction actions generalizing trail forest with
  | nil => exact same
  | cons action others ih => exact ih (same.act action)

theorem refines (same : Matches trail forest) : Refines trail forest where
  acyclic := same.ordered.acyclic
  ends scope := ⟨same.ordered.exists_path, fun ⟨_, path⟩ => path.lt_length⟩
  chain := ⟨same.current, same.current.nodup same.ordered⟩
  depth path := by
    constructor
    · intro other
      rw [other.unique same.current]
      exact ⟨rfl, rfl⟩
    · rintro ⟨rfl, -⟩
      exact same.current
  findsVariable name := by
    change forest.Finds _ _ (trail.env.find? trail.env.current (.named name))
    rw [same.find?]
    exact Forest.finds_of_path same.current _
  findsFunction name arity := by
    change forest.Finds _ _ (trail.env.find? trail.env.current (.function name arity))
    rw [same.find?]
    exact Forest.finds_of_path same.current _
  define definition chain key := by
    have shows := forest.findSome?_define definition key chain.numbers
    rwa [← same.find?, ← (same.define definition).find?] at shows
  root := by
    rw [isRoot_iff same.current]
    constructor
    · intro stays
      change trail.env.enter trail.env.current.parent = trail.env
      rw [stays]
      rfl
    · exact congrArg Environment.current

end Matches

theorem matches_run (actions : List (Action V F)) :
    Matches (Trail.run actions) (Forest.run actions) :=
  Matches.start.foldl actions

/-- An environment behaves like the forest to which the same is done. A definition does not show as
long as its scope is not on the chain: look-ups find what they would find without it. -/
theorem refines_forest (actions : List (Action V F)) :
    (Trail.run actions).Refines (Forest.run actions) ∧
      ∀ earlier definition later, actions = earlier ++ .define definition :: later →
        (Trail.run earlier).env.current.top ∉ (Trail.run actions).env.current.numbers →
        let without := Trail.run (earlier ++ later)
        (Trail.run actions).env.current = without.env.current ∧
          ∀ key, (Trail.run actions).env.find? without.env.current key =
            without.env.find? without.env.current key := by
  refine ⟨(matches_run actions).refines, ?_⟩
  rintro earlier definition later rfl absent
  have before := matches_run earlier
  have without := matches_run (earlier ++ later)
  have all := matches_run (earlier ++ .define definition :: later)
  have differs : Forest.DiffersIn (Forest.run earlier).current (Forest.run (earlier ++ later))
      (Forest.run (earlier ++ .define definition :: later)) := by
    simp only [Forest.run, List.foldl_append, List.foldl_cons]
    exact (Forest.differsIn_define definition).foldl later
  have path := all.current
  rw [differs.links, differs.current] at path
  have numbers := path.unique without.current
  rw [before.top, numbers] at absent
  refine ⟨Chain.numbers_injective numbers, fun key => ?_⟩
  rw [all.find?, without.find?]
  exact differs.findSome? absent key

end Trail

end Primer
