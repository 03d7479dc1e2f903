import Primer.Java.Translation
import Primer.Proofs.Java.Scoping
import Primer.Proofs.Tree.Naming
import Primer.Proofs.Typing.Unique
import Primer.Proofs.Typing.View

/-! The scopes of checking beside the scopes of Java.

Every variable of a function that checking sees is in scope in Java, which may have more in scope:
variables of earlier cases of a switch, and a variable within its own initializer. As long as no
name is in scope twice, a name stands for the same declaration on both sides, unless one of the
additional variables has it.
-/

set_option autoImplicit false

namespace Primer

/-- The variable is bound behind so many older ones, whatever newer ones there are. -/
def Bindings.Holds {V : Type} (bindings : List (String × V)) (name : String) (index : Nat)
    (value : V) : Prop :=
  bindings.reverse[index]? = some (name, value)

section holds

variable {V : Type} {bindings : List (String × V)} {name : String} {index : Nat} {value : V}

theorem Bindings.Holds.bounded (holds : Bindings.Holds bindings name index value) :
    index < bindings.length := by
  have inside := (List.getElem?_eq_some_iff.mp holds).1
  rwa [List.length_reverse] at inside

theorem Bindings.holds_cons {entry : String × V} :
    Holds (entry :: bindings) name index value ↔
      (name, value) = entry ∧ index = bindings.length ∨ Holds bindings name index value := by
  unfold Holds
  rw [List.reverse_cons, List.getElem?_append, List.length_reverse]
  split
  · next inside => exact ⟨.inr, fun either => either.resolve_left fun ⟨_, last⟩ => by omega⟩
  · next outside =>
    have none : bindings.reverse[index]? = none :=
      List.getElem?_eq_none (by rw [List.length_reverse]; omega)
    rw [none, List.getElem?_singleton]
    split
    · next zero =>
      have last : index = bindings.length := by omega
      simp [last, eq_comm]
    · next positive =>
      have beyond : index ≠ bindings.length := by omega
      simp [beyond]

theorem Bindings.Finds.holds (finds : Bindings.Finds bindings name index value) :
    Bindings.Holds bindings name index value := by
  obtain ⟨newer, older, rfl, -, rfl⟩ := finds
  simp [Bindings.Holds]

end holds

section define

variable {V F : Type} {env : Environment V F} {name other : String} {value found : V}
  {number index : Nat}

theorem Environment.holds_defineVariable
    (holds : Bindings.Holds ((env.defineVariable name value).boundVariables number) other index
      found) :
    (number = env.current.top ∧ (other, found) = (name, value) ∧
        index = (env.boundVariables number).length) ∨
      Bindings.Holds (env.boundVariables number) other index found := by
  rw [boundVariables_defineVariable] at holds
  split at holds
  · next inside =>
    rcases Bindings.holds_cons.mp holds with ⟨new, last⟩ | old
    · exact .inl ⟨inside.1, new, last⟩
    · exact .inr old
  · exact .inr holds

theorem Environment.bound_defineVariable
    (bound : other ∈ (env.boundVariables number).map Prod.fst) :
    other ∈ ((env.defineVariable name value).boundVariables number).map Prod.fst := by
  rw [boundVariables_defineVariable]
  split
  · exact List.mem_cons_of_mem _ bound
  · exact bound

end define

section lookup

variable {V : Type} {entries : List (String × V)} {name : String}

theorem List.lookup_of_distinct (distinct : (entries.map Prod.fst).Nodup) {value : V}
    (member : (name, value) ∈ entries) : entries.lookup name = some value := by
  induction entries with
  | nil => cases member
  | cons entry rest ih =>
    obtain ⟨fresh, others⟩ := List.nodup_cons.mp distinct
    refine List.lookup_cons_eq_some.mpr ?_
    rcases List.mem_cons.mp member with rfl | later
    · exact .inl ⟨rfl, rfl⟩
    · refine .inr ⟨?_, ih others later⟩
      rintro rfl
      exact fresh (List.mem_map.mpr ⟨_, later, rfl⟩)

theorem List.idxOf_of_count_eq_one {items : List String} (once : items.count name = 1)
    {index : Nat} (found : items[index]? = some name) : items.idxOf name = index := by
  induction items generalizing index with
  | nil => cases found
  | cons first rest ih =>
    by_cases same : first = name
    · subst same
      rw [List.idxOf_cons_self]
      cases index with
      | zero => rfl
      | succ index =>
        have none : rest.count first = 0 := by simpa using once
        have member : first ∈ rest := List.mem_of_getElem? found
        exact absurd (List.count_pos_iff.mpr member) (by omega)
    · cases index with
      | zero => exact absurd (Option.some.inj found) same
      | succ index =>
        rw [List.count_cons_of_ne same] at once
        rw [List.idxOf_cons_ne _ same, ih once found]

end lookup

theorem Java.Context.hasLocal_iff {context : Java.Context} {name : String} :
    context.hasLocal name = true ↔ name ∈ context.locals.map Prod.fst := by
  rw [hasLocal, Option.isSome_iff_ne_none, ne_eq, List.lookup_eq_none, not_not]

theorem Java.Context.denoted?_of_mem {context : Java.Context}
    (distinct : (context.locals.map Prod.fst).Nodup) {name : String} {origin : Origin}
    (member : (name, origin) ∈ context.locals) : context.denoted? name = some origin := by
  rw [denoted?, List.lookup_of_distinct distinct member]

theorem Java.Context.denoted?_of_free {context : Java.Context} {name : String}
    (free : name ∉ context.locals.map Prod.fst) :
    context.denoted? name =
      if context.fields.count name = 1 then some (.global (context.fields.idxOf name))
      else none := by
  rw [denoted?, List.lookup_eq_none.mpr free]

/-! ### What names mean -/

def Program.Binds (program : Program) (names : Names) (name : String) (origin : Origin) : Prop :=
  ∃ level number index binding, names.Finds name level index binding ∧
    names.current.numbers[level]? = some number ∧ Declares program origin number index binding

/-- A declarator redeclares nothing. A name denotes what checking has found for the variable that
stands in the same place of the program. -/
def Java.Mention.Sound (program : Program) : Java.Mention → Prop
  | .declarator _ _ fresh => fresh = true
  | .use place name denoted =>
    ∃ part checker bound origin, Visits program place part checker ∧
      part.access? = some (name, bound) ∧ denoted = some origin ∧
      program.Binds checker.names name origin

/-- A name denotes what it stands for just if it is settled. -/
def Program.Settles (program : Program) (names : Names) (context : Java.Context)
    (around : Surroundings) : Prop :=
  ∀ name binding, names.getVariable? name = some binding →
    ((∃ origin, context.denoted? name = some origin ∧ program.Binds names name origin) ↔
      around.settles name = true)

structure Program.Aligned (program : Program) (names : Names) (context : Java.Context)
    (around : Surroundings) : Prop where
  rooted : names.Rooted
  inner : names.current.top ≠ 0
  fields : context.fields = around.globals
  globals : ∀ name index binding, Bindings.Holds (names.boundVariables 0) name index binding →
    around.globals[index]? = some name ∧ Declares program (.global index) 0 index binding
  taken : ∀ name, name ∈ around.taken ↔ name ∈ context.locals.map Prod.fst
  distinct : (context.locals.map Prod.fst).Nodup
  inScope : ∀ number ∈ names.current.numbers, number ≠ 0 → ∀ name index binding,
    Bindings.Holds (names.boundVariables number) name index binding →
    ∃ origin, (name, origin) ∈ context.locals ∧ Declares program origin number index binding
  seen : ∀ name ∈ around.taken, name ∉ around.unseen →
    ∃ number ∈ names.current.numbers, number ≠ 0 ∧
      name ∈ (names.boundVariables number).map Prod.fst
  unseen : ∀ name ∈ around.unseen, name ∈ around.taken ∧
    ∀ origin, (name, origin) ∈ context.locals → ∀ number index binding,
      Declares program origin number index binding →
      number < names.scopes.size ∧ number ∉ names.current.numbers

namespace Program.Aligned

variable {program : Program} {names other : Names} {context : Java.Context}
  {around : Surroundings} {name : String} {binding : Variable}

/-- A variable that is found in the global scope is bound in no other scope of the chain. -/
theorem not_bound_within (rooted : names.Rooted) {level index number : Nat}
    (finds : names.Finds name level index binding)
    (atLevel : names.current.numbers[level]? = some 0) (member : number ∈ names.current.numbers)
    (within : number ≠ 0) : name ∉ (names.boundVariables number).map Prod.fst := by
  obtain ⟨_, _, -, absent⟩ := finds
  obtain ⟨nearer, inside, here⟩ := List.mem_iff_getElem.mp member
  obtain ⟨bounded, root⟩ := List.getElem?_eq_some_iff.mp atLevel
  -- The chain descends to the global scope, so every other one is nearer.
  have less : nearer < level := by
    rcases Nat.lt_trichotomy nearer level with less | same | more
    · exact less
    · subst same
      exact absurd (here.symm.trans root) within
    · have descends := List.pairwise_iff_getElem.mp rooted.descending _ _ bounded inside more
      rw [root] at descends
      exact absurd descends (Nat.not_lt_zero _)
  exact List.lookup_eq_none.mp (absent nearer less number (here ▸ List.getElem?_eq_getElem inside))

/-- In Java the name denotes a variable that checking keeps elsewhere. -/
theorem not_denotes_unseen (aligned : program.Aligned names context around)
    (isUnseen : name ∈ around.unseen) :
    ¬ ∃ origin, context.denoted? name = some origin ∧ program.Binds names name origin := by
  rintro ⟨origin, denoted, _, number, index, binding, -, atLevel, declares⟩
  obtain ⟨isTaken, foreign⟩ := aligned.unseen name isUnseen
  obtain ⟨⟨_, other⟩, inside, rfl⟩ := List.mem_map.mp ((aligned.taken name).mp isTaken)
  cases denoted.symm.trans (Java.Context.denoted?_of_mem aligned.distinct inside)
  exact (foreign _ inside _ _ _ declares).2 (List.mem_of_getElem? atLevel)

theorem denotes_global (aligned : program.Aligned names context around)
    (free : name ∉ around.taken) {level index : Nat}
    (finds : names.Finds name level index binding)
    (atLevel : names.current.numbers[level]? = some 0) :
    (∃ origin, context.denoted? name = some origin ∧ program.Binds names name origin) ↔
      around.globals.count name = 1 := by
  obtain ⟨_, here, held, -⟩ := id finds
  cases atLevel.symm.trans here
  obtain ⟨listed, declares⟩ := aligned.globals name index binding held.holds
  rw [Java.Context.denoted?_of_free fun inside => free ((aligned.taken name).mpr inside),
    aligned.fields]
  constructor
  · rintro ⟨origin, denoted, -⟩
    by_contra several
    rw [if_neg several] at denoted
    cases denoted
  · intro once
    rw [if_pos once, List.idxOf_of_count_eq_one once listed]
    exact ⟨.global index, rfl, level, 0, index, binding, finds, atLevel, declares⟩

/-- A variable of the function that checking finds is in scope, and it alone has its name. -/
theorem denotes_local (aligned : program.Aligned names context around) {level number index : Nat}
    (finds : names.Finds name level index binding)
    (atLevel : names.current.numbers[level]? = some number) (within : number ≠ 0) :
    name ∈ around.taken ∧
      ∃ origin, context.denoted? name = some origin ∧ program.Binds names name origin := by
  obtain ⟨_, here, held, -⟩ := id finds
  cases atLevel.symm.trans here
  obtain ⟨origin, inside, declares⟩ := aligned.inScope number (List.mem_of_getElem? atLevel)
    within name index binding held.holds
  exact ⟨(aligned.taken name).mpr (List.mem_map_of_mem inside), origin,
    Java.Context.denoted?_of_mem aligned.distinct inside, level, number, index, binding, finds,
    atLevel, declares⟩

theorem settles (aligned : program.Aligned names context around) :
    program.Settles names context around := by
  intro name binding bound
  obtain ⟨level, index, finds⟩ := Environment.finds_of_getVariable? bound
  obtain ⟨number, atLevel, -⟩ := id finds
  rw [Surroundings.settles_iff]
  by_cases isUnseen : name ∈ around.unseen
  · exact iff_of_false (aligned.not_denotes_unseen isUnseen) fun settled => settled.1 isUnseen
  · by_cases isGlobal : number = 0
    · subst isGlobal
      have free : name ∉ around.taken := by
        intro isTaken
        obtain ⟨inner, inside, within, held⟩ := aligned.seen name isTaken isUnseen
        exact not_bound_within aligned.rooted finds atLevel inside within held
      rw [aligned.denotes_global free finds atLevel]
      exact ⟨fun once => ⟨isUnseen, .inr once⟩, fun settled => settled.2.resolve_left free⟩
    · obtain ⟨isTaken, denotes⟩ := aligned.denotes_local finds atLevel isGlobal
      exact iff_of_true denotes ⟨isUnseen, .inl isTaken⟩

/-! ### Through the work of checking -/

theorem of_keeps (aligned : program.Aligned names context around) (keeps : names.Keeps other) :
    program.Aligned other context around := by
  have same {number : Nat} (member : number ∈ names.current.numbers) :
      other.boundVariables number = names.boundVariables number :=
    keeps.boundVariables number (aligned.rooted.lt_size member) id
  exact
    { rooted := aligned.rooted.of_grows keeps
      inner := keeps.current ▸ aligned.inner
      fields := aligned.fields
      globals := by
        rw [same aligned.rooted.root]
        exact aligned.globals
      taken := aligned.taken
      distinct := aligned.distinct
      inScope := by
        intro number member within
        rw [keeps.current] at member
        rw [same member]
        exact aligned.inScope number member within
      seen := by
        intro name isTaken isSeen
        obtain ⟨number, member, within, held⟩ := aligned.seen name isTaken isSeen
        exact ⟨number, keeps.current ▸ member, within, (same member).symm ▸ held⟩
      unseen := by
        intro name isUnseen
        obtain ⟨isTaken, foreign⟩ := aligned.unseen name isUnseen
        refine ⟨isTaken, fun origin inside number index binding declares => ?_⟩
        obtain ⟨less, outside⟩ := foreign origin inside number index binding declares
        exact ⟨Nat.lt_of_lt_of_le less keeps.size, keeps.current ▸ outside⟩ }

theorem push (aligned : program.Aligned names context around) :
    program.Aligned names.push context around := by
  have numbers : names.push.current.numbers = names.scopes.size :: names.current.numbers := rfl
  have bindings (number : Nat) : names.push.boundVariables number = names.boundVariables number :=
    names.boundVariables_child names.current number
  have size : names.push.scopes.size = names.scopes.size + 1 := names.size_child names.current
  exact
    { rooted := aligned.rooted.child_current
      inner := aligned.rooted.push_ne_root
      fields := aligned.fields
      globals := by
        rw [bindings]
        exact aligned.globals
      taken := aligned.taken
      distinct := aligned.distinct
      inScope := by
        intro number member within name index binding holds
        rw [bindings] at holds
        rw [numbers] at member
        rcases List.mem_cons.mp member with rfl | outer
        · rw [Environment.boundVariables_size] at holds
          cases holds
        · exact aligned.inScope number outer within name index binding holds
      seen := by
        intro name isTaken isSeen
        obtain ⟨number, member, within, held⟩ := aligned.seen name isTaken isSeen
        exact ⟨number, List.mem_cons_of_mem _ member, within, (bindings number).symm ▸ held⟩
      unseen := by
        intro name isUnseen
        obtain ⟨isTaken, foreign⟩ := aligned.unseen name isUnseen
        refine ⟨isTaken, fun origin inside number index binding declares => ?_⟩
        obtain ⟨less, outside⟩ := foreign origin inside number index binding declares
        rw [numbers, List.mem_cons, size]
        exact ⟨Nat.lt_succ_of_lt less, not_or.mpr ⟨Nat.ne_of_lt less, outside⟩⟩ }

theorem declare (aligned : program.Aligned names context around) (free : name ∉ around.taken)
    {origin : Origin} (declares : Declares program origin names.current.top
      (names.boundVariables names.current.top).length binding) :
    program.Aligned (names.defineVariable name binding) (context.declare name origin)
      (around.declare name) where
  rooted := aligned.rooted.of_grows (names.keepsOuter_defineVariable name binding)
  inner := aligned.inner
  fields := aligned.fields
  globals := by
    rw [names.boundVariables_defineVariable_of_ne name binding (Ne.symm aligned.inner)]
    exact aligned.globals
  taken other := by
    simp only [Surroundings.declare, Java.Context.declare, List.map_cons, List.mem_cons,
      aligned.taken]
  distinct := List.nodup_cons.mpr
    ⟨fun held => free ((aligned.taken name).mpr held), aligned.distinct⟩
  inScope number member within other index found holds := by
    rcases Environment.holds_defineVariable holds with ⟨rfl, new, rfl⟩ | old
    · cases new
      exact ⟨origin, List.mem_cons_self, declares⟩
    · obtain ⟨older, held, made⟩ := aligned.inScope number member within other index found old
      exact ⟨older, List.mem_cons_of_mem _ held, made⟩
  seen other isTaken isSeen := by
    rcases List.mem_cons.mp isTaken with rfl | before
    · refine ⟨names.current.top, List.mem_cons_self, aligned.inner, ?_⟩
      rw [names.boundVariables_defineVariable_top other binding aligned.rooted.bounded]
      exact List.mem_cons_self
    · obtain ⟨number, member, within, held⟩ := aligned.seen other before isSeen
      exact ⟨number, member, within, Environment.bound_defineVariable held⟩
  unseen other isUnseen := by
    obtain ⟨isTaken, foreign⟩ := aligned.unseen other isUnseen
    refine ⟨List.mem_cons_of_mem _ isTaken, fun older held => ?_⟩
    rw [Environment.size_defineVariable]
    rcases List.mem_cons.mp held with same | before
    · cases same
      exact absurd isTaken free
    · exact foreign older before

/-- Variables that come into scope in Java while checking keeps them in scopes it has left. -/
theorem hide (aligned : program.Aligned names context around) {newer : List (String × Origin)}
    {declared : List String} (named : newer.map Prod.fst = declared.reverse)
    (distinct : ((newer ++ context.locals).map Prod.fst).Nodup)
    (foreign : ∀ entry ∈ newer, ∀ number index binding,
      Declares program entry.2 number index binding →
      number < names.scopes.size ∧ number ∉ names.current.numbers) :
    program.Aligned names { context with locals := newer ++ context.locals }
      (around.hide declared) where
  rooted := aligned.rooted
  inner := aligned.inner
  fields := aligned.fields
  globals := aligned.globals
  taken other := by
    rw [List.map_append, named]
    simp only [Surroundings.hide, List.mem_append, List.mem_reverse, aligned.taken]
  distinct := distinct
  inScope number member within other index found holds := by
    obtain ⟨origin, held, made⟩ := aligned.inScope number member within other index found holds
    exact ⟨origin, List.mem_append_right _ held, made⟩
  seen other isTaken isSeen := by
    obtain ⟨old, wasSeen⟩ := not_or.mp fun either => isSeen (List.mem_append.mpr either)
    exact aligned.seen other ((List.mem_append.mp isTaken).resolve_left old) wasSeen
  unseen other isUnseen := by
    have before (held : other ∈ context.locals.map Prod.fst) : other ∈ around.unseen := by
      refine (List.mem_append.mp isUnseen).resolve_left fun new => ?_
      rw [List.map_append, named] at distinct
      exact (List.nodup_append.mp distinct).2.2 _ (List.mem_reverse.mpr new) _ held rfl
    refine ⟨?_, fun origin held => ?_⟩
    · exact (List.mem_append.mp isUnseen).elim (List.mem_append_left _) fun old =>
        List.mem_append_right _ (aligned.unseen other old).1
    · rcases List.mem_append.mp held with new | old
      · exact foreign _ new
      · exact (aligned.unseen other (before (List.mem_map_of_mem old))).2 origin old

end Program.Aligned

section program

variable {program typed : Program} {loaded last checker after : Checker} {place : Place}
  {context : Java.Context} {around : Surroundings}

/-- What a declaration makes is kept in the scope that checking has there. -/
theorem Declares.of_visits (passes : program.Passes typed loaded last) {name : String}
    {typeName : Option String} {value : Option Expr} {bound : Option Variable}
    (visits : Visits program place (.statement (.declaration name typeName value bound)) checker)
    {number index : Nat} {binding : Variable}
    (declares : Declares program (.declaration place) number index binding) :
    number = checker.names.current.top ∧
      index = (checker.names.boundVariables checker.names.current.top).length := by
  cases declares with
  | declaration also =>
    obtain ⟨-, rfl⟩ := visits.unique passes also
    exact ⟨rfl, rfl⟩

/-- In its own initializer a variable is in scope in Java, but checking does not see it yet. -/
theorem Program.Aligned.settles_initial (passes : program.Passes typed loaded last)
    (aligned : program.Aligned checker.names context around) {name : String}
    {typeName : Option String} {value : Option Expr} {bound : Option Variable}
    (visits : Visits program place (.statement (.declaration name typeName value bound)) checker) :
    program.Settles checker.names (context.declare name (.declaration place))
      (around.hide [name]) := by
  intro other binding found
  by_cases same : other = name
  · subst same
    refine iff_of_false ?_ (by simp [Surroundings.settles, Surroundings.hide])
    rintro ⟨origin, denoted, level, number, index, finding, ⟨_, atLevel', here, -⟩, atLevel,
      declares⟩
    rw [Java.Context.denoted?, Java.Context.declare, List.lookup_cons_self] at denoted
    cases denoted
    cases atLevel'.symm.trans atLevel
    -- What is found is older than what the declaration is going to bind.
    obtain ⟨rfl, rfl⟩ := declares.of_visits passes visits
    exact Nat.lt_irrefl _ here.holds.bounded
  · have differs : (other == name) = false := beq_eq_false_iff_ne.mpr same
    have denoted : (context.declare name (.declaration place)).denoted? other =
        context.denoted? other := by
      simp only [Java.Context.denoted?, Java.Context.declare, List.lookup_cons, differs]
      rfl
    have settled : (around.hide [name]).settles other = around.settles other := by
      simp [Surroundings.settles, Surroundings.hide, same]
    rw [denoted, settled]
    exact aligned.settles other binding found

theorem Stmt.behind_toJava {statement typed : Stmt}
    (checked : statement.check checker = .ok typed after) (context : Java.Context) (place : Place) :
    statement.declaredName? = none ∧ typed.toJava.behind context place = context ∨
      ∃ name, statement.declaredName? = some name ∧
        typed.toJava.behind context place = context.declare name (.declaration place) := by
  cases Stmt.typed_of_check checked with
  | declaration declared =>
    obtain ⟨-, same, -⟩ := Variable.initial_of_declare declared
    have emitted := congrArg Variable.emittedName same
    exact .inr ⟨_, rfl, congrArg (context.declare · _) emitted⟩
  | expression | assignment | conditional | loop | switch | returns => exact .inl ⟨rfl, rfl⟩

theorem Stmt.allBehind_toJava (passes : program.Passes typed loaded last) (context : Java.Context)
    {statements done : List Stmt} (checked : Stmt.checkAll statements checker = .ok done after)
    (visits : Visits program place (.statements statements) checker) :
    ∃ newer, Java.Stmt.allBehind context place (Stmt.allToJava done) =
        { context with locals := newer ++ context.locals } ∧
      newer.map Prod.fst = (Stmt.declaredNames statements).reverse ∧
      ∀ entry ∈ newer, ∀ number index binding, Declares program entry.2 number index binding →
        number = checker.names.current.top := by
  induction statements generalizing context place checker done with
  | nil =>
    obtain ⟨rfl, -⟩ := Stmt.checkAll_nil checked
    exact ⟨[], rfl, rfl, nofun⟩
  | cons first rest ih =>
    obtain ⟨first', rest', middle, firstChecked, restChecked, rfl⟩ := Stmt.checkAll_cons checked
    have kept := Stmt.keepsOuter_check firstChecked
    have tops : middle.names.current.top = checker.names.current.top :=
      congrArg Chain.top kept.names.current
    rw [Stmt.allToJava, Java.Stmt.allBehind]
    have tail (context : Java.Context) := ih context restChecked (visits.turn (.next firstChecked))
    rcases Stmt.behind_toJava firstChecked context (place.turn 0) with
      ⟨silent, same⟩ | ⟨name, declares, same⟩
    · rw [same]
      obtain ⟨newer, behind, named, made⟩ := tail context
      refine ⟨newer, behind, ?_, tops ▸ made⟩
      rw [named, Stmt.declaredNames, Stmt.declaredNames, List.filterMap_cons_none silent]
    · rw [same]
      obtain ⟨newer, behind, named, made⟩ := tail (context.declare name (.declaration _))
      refine ⟨newer ++ [(name, .declaration (place.turn 0))], ?_, ?_, ?_⟩
      · rw [behind, List.append_assoc, List.singleton_append]
        rfl
      · rw [List.map_append, named, Stmt.declaredNames, Stmt.declaredNames,
          List.filterMap_cons_some declares, List.reverse_cons]
        rfl
      · intro entry member number index binding declared
        rcases List.mem_append.mp member with inside | new
        · exact tops ▸ made entry inside number index binding declared
        · rw [List.mem_singleton.mp new] at declared
          cases first with
          | declaration => exact (declared.of_visits passes (visits.turn .first)).1
          | expression | assignment | conditional | loop | switch | returns => cases declares

namespace Program.Aligned

/-- Behind a statement that declares no name that is taken. -/
theorem behind {statement done : Stmt} (checked : statement.check checker = .ok done after)
    (visits : Visits program place (.statement statement) checker)
    (aligned : program.Aligned checker.names context around)
    (settled : statement.settled around = true) :
    program.Aligned after.names (done.toJava.behind context place) (around.behind statement) := by
  rcases Stmt.behind_toJava checked context place with ⟨silent, same⟩ | ⟨name, declares, same⟩
  · have keeps : checker.Keeps after := by
      refine Stmt.keeps_check statement checked ?_
      cases statement with
      | declaration => cases silent
      | expression | assignment | conditional | loop | switch | returns => rfl
    rw [same, Surroundings.behind, silent]
    exact aligned.of_keeps keeps.names
  · rw [same, Surroundings.behind, declares]
    cases statement with
    | declaration =>
      cases declares
      obtain ⟨_, _, declared, -, rfl⟩ := Stmt.check_declaration checked
      rw [Stmt.settled, Bool.and_eq_true] at settled
      exact aligned.declare (by simpa using settled.1) (.declaration visits declared)
    | expression | assignment | conditional | loop | switch | returns => cases declares

/-- Behind the body of a case, whose variables are in scope in the cases that follow. -/
theorem behindCase (passes : program.Passes typed loaded last) {statements done : List Stmt}
    (checked : Stmt.checkAll statements checker.inside = .ok done after)
    (visits : Visits program place (.statements statements) checker.inside)
    (aligned : program.Aligned checker.names context around)
    (settled : Stmt.allSettled around statements = true) :
    program.Aligned (after.comeBack checker.names.current).names
      (Java.Stmt.allBehind context place (Stmt.allToJava done))
      (around.hide (Stmt.declaredNames statements)) := by
  obtain ⟨newer, same, named, made⟩ := Stmt.allBehind_toJava passes context checked visits
  obtain ⟨once, fresh⟩ := Stmt.declaredNames_fresh settled
  have inner := (Stmt.keepsOuter_checkAll statements checked).names
  have keeps := (Checker.keeps_comeBack (Stmt.keepsOuter_checkAll statements checked)).names
  rw [same]
  refine (aligned.of_keeps keeps).hide named ?_ ?_
  · rw [List.map_append, named]
    refine List.nodup_append.mpr ⟨(List.reverse_perm _).nodup_iff.mpr once, aligned.distinct, ?_⟩
    rintro name declared _ held rfl
    exact fresh name (List.mem_reverse.mp declared) ((aligned.taken name).mpr held)
  · -- The scope of the body is newer than those of the chain, and older than any to come.
    intro entry member number index binding declares
    rw [made entry member number index binding declares]
    have size : checker.names.scopes.size < after.names.scopes.size :=
      Nat.lt_of_lt_of_le (Nat.lt_of_lt_of_eq (Nat.lt_succ_self _)
        (checker.names.size_child checker.names.current).symm) inner.size
    exact ⟨size, fun outer => Nat.lt_irrefl _ (aligned.rooted.lt_size outer)⟩

end Program.Aligned

end program

end Primer
