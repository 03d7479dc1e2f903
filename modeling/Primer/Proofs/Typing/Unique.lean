import Primer.Proofs.Typing.Visit

/-! Checking comes to a place once.

What stands in a place and the checker that comes there are determined by the place, for functions
are told apart by name and number of parameters.
-/

set_option autoImplicit false

namespace Primer

theorem Place.turn_inj {place other : Place} {index count : Nat}
    (same : place.turn index = other.turn count) : place = other ∧ index = count := by
  obtain ⟨root, path⟩ := place
  obtain ⟨otherRoot, otherPath⟩ := other
  cases same
  exact ⟨rfl, rfl⟩

theorem Root.place_ne_turn {root : Root} {place : Place} {index : Nat} :
    root.place ≠ place.turn index := by
  intro same
  cases congrArg Place.path same

theorem Root.place_inj {root other : Root} (same : root.place = other.place) : root = other :=
  congrArg Place.root same

theorem Checker.bound_of_functions {functions typed : List Function} {before after : Checker}
    (checked : functions.mapM Check.function before = .ok typed after) (top : before.AtTop)
    {function : Function} (member : function ∈ functions) :
    ∃ signature, (after.names.boundFunctions 0).lookup (function.name, function.arity) =
      some signature := by
  induction functions generalizing before typed with
  | nil => cases member
  | cons first rest ih =>
    obtain ⟨result, others, middle, head, tail, -⟩ := EStateM.mapM_cons_eq_ok.mp checked
    obtain ⟨middleTop, -, signature, -, functions⟩ := top.of_function head
    rcases List.mem_cons.mp member with rfl | later
    · refine ⟨signature, (extends_functions tail middleTop).2.2 _ signature ?_⟩
      rw [functions, List.lookup_cons_self]
    · exact ih tail middleTop later

section functions

variable {functions typed : List Function} {loaded last : Checker}

theorem Checker.fresh_of_bound
    (checked : functions.mapM Check.function loaded = .ok typed last) (top : loaded.AtTop)
    {key : String × Nat} {signature : Signature}
    (bound : (loaded.names.boundFunctions 0).lookup key = some signature)
    {function : Function} (member : function ∈ typed) :
    (function.name, function.arity) ≠ key := by
  induction functions generalizing loaded typed with
  | nil =>
    cases checked
    cases member
  | cons first rest ih =>
    obtain ⟨result, others, middle, head, tail, rfl⟩ := EStateM.mapM_cons_eq_ok.mp checked
    obtain ⟨middleTop, -, kept⟩ := extends_function head top
    rcases List.mem_cons.mp member with rfl | later
    · obtain ⟨_, _, -, fresh, -, -, same, -⟩ := Check.of_function head
      have named : (function.name, function.arity) = (first.name, first.arity) := by rw [same]; rfl
      have zero := Chain.top_eq_zero top.current
      rintro rfl
      rw [Environment.bindsFunction_eq, zero, ← named, bound] at fresh
      cases fresh
    · exact ih tail middleTop (kept key signature bound) later

/-- A later function with the name and number of parameters of an earlier one is refused. -/
theorem Checker.fresh_of_functions
    (checked : functions.mapM Check.function loaded = .ok typed last) (top : loaded.AtTop)
    {earlier later : List Function} {function other : Function}
    (split : functions = earlier ++ function :: later) (member : other ∈ earlier) :
    (other.name, other.arity) ≠ (function.name, function.arity) := by
  intro same
  rw [split] at checked
  obtain ⟨done, _, middle, ran, laterRan, -⟩ := EStateM.mapM_append_eq_ok.mp checked
  obtain ⟨_, _, _, step, -⟩ := EStateM.mapM_cons_eq_ok.mp laterRan
  obtain ⟨middleTop, -⟩ := extends_functions ran top
  obtain ⟨signature, bound⟩ := bound_of_functions ran top member
  obtain ⟨-, -, -, fresh, -⟩ := Check.of_function step
  have zero := Chain.top_eq_zero middleTop.current
  rw [Environment.bindsFunction_eq, zero, ← same, bound] at fresh
  cases fresh

/-- So a name and number of parameters stand for one function, with certain functions before it. -/
theorem Checker.function_unique
    (checked : functions.mapM Check.function loaded = .ok typed last) (top : loaded.AtTop)
    {earlier later earlier' later' : List Function} {function other : Function}
    (split : functions = earlier ++ function :: later)
    (otherSplit : functions = earlier' ++ other :: later')
    (same : (function.name, function.arity) = (other.name, other.arity)) :
    earlier' = earlier ∧ other = function := by
  rcases List.append_eq_append_iff.mp (split.symm.trans otherSplit) with
    ⟨between, rfl, rest⟩ | ⟨between, rfl, rest⟩
  -- Whatever stands between the two makes one of them earlier than the other.
  · cases between with
    | nil =>
      cases rest
      exact ⟨List.append_nil _, rfl⟩
    | cons first between =>
      cases rest
      exact absurd same (fresh_of_functions checked top otherSplit (List.mem_of_split rfl))
  · cases between with
    | nil =>
      cases rest
      exact ⟨(List.append_nil _).symm, rfl⟩
    | cons first between =>
      cases rest
      exact absurd same.symm (fresh_of_functions checked top split (List.mem_of_split rfl))

end functions

theorem Visit.unique {part inner other : Part Ty} {checker after found : Checker} {index : Nat}
    (visit : Visit part checker index inner after) (again : Visit part checker index other found) :
    other = inner ∧ found = after := by
  cases visit with
  -- Only these rules mention a result of checking, and checking has one result.
  | elseBody before =>
    cases again with
    | elseBody also =>
      cases before.symm.trans also
      exact ⟨rfl, rfl⟩
  | cases about =>
    cases again with
    | cases also =>
      cases about.symm.trans also
      exact ⟨rfl, rfl⟩
  | next before =>
    cases again with
    | next also =>
      cases before.symm.trans also
      exact ⟨rfl, rfl⟩
  | unmatched before =>
    cases again with
    | unmatched also =>
      cases before.symm.trans also
      exact ⟨rfl, rfl⟩
  | _ =>
    cases again
    exact ⟨rfl, rfl⟩

section program

variable {program typed : Program} {loaded last : Checker}

theorem Program.ChecksGlobal.unique {index : Nat} {global other : Global} {checker found : Checker}
    (checks : program.ChecksGlobal index global checker)
    (again : program.ChecksGlobal index other found) : other = global ∧ found = checker := by
  obtain ⟨earlier, later, done, split, counted, ran⟩ := checks
  obtain ⟨earlier', later', done', split', counted', ran'⟩ := again
  obtain ⟨rfl, rest⟩ := List.append_inj (split.symm.trans split') (counted.trans counted'.symm)
  cases rest
  cases ran.symm.trans ran'
  exact ⟨rfl, rfl⟩

theorem Program.Passes.checksBody_unique (passes : program.Passes typed loaded last)
    {function other : Function} {checker found : Checker}
    (checks : program.ChecksBody function checker) (again : program.ChecksBody other found)
    (same : (function.name, function.arity) = (other.name, other.arity)) :
    other = function ∧ found = checker := by
  obtain ⟨earlier, later, globals, done, between, before, signature, globalsRan, split, ran, spelled,
    rfl⟩ := checks
  obtain ⟨earlier', later', globals', done', between', before', signature', globalsRan', split',
    ran', spelled', rfl⟩ := again
  obtain ⟨rfl, rfl⟩ :=
    Checker.function_unique passes.functions passes.atTop_loaded split split' same
  cases globalsRan.symm.trans globalsRan'
  cases ran.symm.trans ran'
  cases spelled.symm.trans spelled'
  exact ⟨rfl, rfl⟩

theorem Visits.unique (passes : program.Passes typed loaded last) {place : Place}
    {part other : Part Ty} {checker found : Checker} (visits : Visits program place part checker)
    (again : Visits program place other found) : other = part ∧ found = checker := by
  -- The place is generalized in each case, for its index does not tell which rule was used last.
  induction visits generalizing other found with
  | @global index global value checker checks given =>
    generalize same : (Root.global index).place = place at again
    cases again with
    | global also written =>
      cases Root.place_inj same
      obtain ⟨rfl, rfl⟩ := checks.unique also
      cases given.symm.trans written
      exact ⟨rfl, rfl⟩
    | body also => cases Root.place_inj same
    | turn => exact absurd same Root.place_ne_turn
  | @body function checker checks =>
    generalize same : (Root.body function.name function.arity).place = place at again
    cases again with
    | global also written => cases Root.place_inj same
    | body also =>
      have key := Root.place_inj same
      injection key with name arity
      obtain ⟨rfl, rfl⟩ := passes.checksBody_unique checks also (Prod.ext name arity)
      exact ⟨rfl, rfl⟩
    | turn => exact absurd same Root.place_ne_turn
  | @turn place part inner checker after index visits visit ih =>
    generalize same : place.turn index = further at again
    cases again with
    | global also written => exact absurd same.symm Root.place_ne_turn
    | body also => exact absurd same.symm Root.place_ne_turn
    | turn also next =>
      obtain ⟨rfl, rfl⟩ := Place.turn_inj same
      obtain ⟨rfl, rfl⟩ := ih also
      exact visit.unique next

end program

end Primer
