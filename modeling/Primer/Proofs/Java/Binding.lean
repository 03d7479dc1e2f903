import Mathlib.Data.List.Induction
import Primer.Proofs.Java.Alignment
import Primer.Proofs.Run.Promises
import Primer.Proofs.Typing.Genuine

/-! Names in translated methods.

The translation keeps the names of the program, whose scopes are narrower than those of Java. A
method redeclares nothing and every name in it denotes what checking has found for it, if and only
if the names of the function are settled.
-/

set_option autoImplicit false

namespace Primer

open Java (Mention Context)

section tree

variable {program typed : Program} {loaded last checker after : Checker} {place : Place}
  {context : Context} {around : Surroundings}

/-! ### Expressions -/

theorem Java.Mention.sound_use (passes : program.Passes typed loaded last) {part : Part Ty}
    (visits : Visits program place part checker) {name : String} {bound : Option Variable}
    (accessed : part.access? = some (name, bound)) {denoted : Option Origin} :
    (Mention.use place name denoted).Sound program ↔
      ∃ origin, denoted = some origin ∧ program.Binds checker.names name origin := by
  constructor
  · rintro ⟨other, found, _, origin, also, -, isDenoted, binds⟩
    obtain ⟨rfl, rfl⟩ := visits.unique passes also
    exact ⟨origin, isDenoted, binds⟩
  · rintro ⟨origin, isDenoted, binds⟩
    exact ⟨part, checker, bound, origin, visits, accessed, isDenoted, binds⟩

theorem Expr.mentions_binary (operator : Operator) (left right : Expr) (type : Option Ty) :
    (Expr.binary operator left right type).toJava.mentions context place =
      left.toJava.mentions context (place.turn 0) ++
        right.toJava.mentions context (place.turn 1) := by
  cases operator <;> rfl

theorem Java.Mention.sound_found (passes : program.Passes typed loaded last)
    (genuine : checker.names.Genuine) (settles : program.Settles checker.names context around)
    {part : Part Ty} (visits : Visits program place part checker) {name : String}
    {bound : Option Variable} (accessed : part.access? = some (name, bound)) {binding : Variable}
    (found : checker.names.getVariable? name = some binding) :
    (Mention.use place binding.emittedName (context.denoted? binding.emittedName)).Sound program ↔
      around.settles name = true := by
  rw [genuine.getVariable? found]
  exact (sound_use passes visits accessed).trans (settles name binding found)

mutual

theorem Expr.sound_iff (passes : program.Passes typed loaded last)
    (genuine : checker.names.Genuine) (settles : program.Settles checker.names context around)
    {place : Place} {done : Expr} {type : Ty} : (expr : Expr) →
    expr.check checker.names = .ok (done, type) → Visits program place (.value expr) checker →
    ((∀ mention ∈ done.toJava.mentions context place, mention.Sound program) ↔
      expr.settled around = true)
  | .literal _ _, checked, _ => by
    obtain ⟨-, rfl⟩ := Expr.check_literal checked
    exact iff_of_true nofun rfl
  | .group inner _, checked, visits => by
    obtain ⟨_, innerChecked, rfl⟩ := Expr.check_group checked
    rw [Expr.toJava, Java.Expr.mentions, Expr.settled]
    exact Expr.sound_iff passes genuine settles inner innerChecked (visits.turn .inner)
  | .binary _ left right _, checked, visits => by
    obtain ⟨_, _, _, _, leftChecked, rightChecked, -, rfl⟩ := Expr.check_binary checked
    rw [Expr.mentions_binary, List.forall_mem_append, Expr.settled, Bool.and_eq_true]
    exact and_congr (Expr.sound_iff passes genuine settles left leftChecked (visits.turn .left))
      (Expr.sound_iff passes genuine settles right rightChecked (visits.turn .right))
  | .named name _ _, checked, visits => by
    obtain ⟨binding, found, -, -, rfl⟩ := Expr.check_named checked
    rw [Expr.toJava, Java.Expr.mentions, List.forall_mem_singleton, Expr.settled]
    exact Mention.sound_found passes genuine settles visits rfl found
  | .element name index _ _, checked, visits => by
    obtain ⟨binding, _, _, found, -, indexChecked, -, -, rfl⟩ := Expr.check_element checked
    rw [Expr.toJava, Java.Expr.mentions, List.forall_mem_cons, Expr.settled, Bool.and_eq_true]
    exact and_congr (Mention.sound_found passes genuine settles visits rfl found)
      (Expr.sound_iff passes genuine settles index indexChecked (visits.turn .index))
  | .call name arguments _ _, checked, visits => by
    obtain ⟨signature, _, found, argumentsChecked, -, rfl⟩ := Expr.check_call checked
    obtain ⟨types, all, -⟩ := Expr.checkAll_of_checkArguments
      (genuine.getFunction? found).counted.symm argumentsChecked
    rw [Expr.toJava, Java.Expr.mentions, Expr.settled]
    exact Expr.allSound_iff passes genuine settles arguments all (visits.turn .arguments)
  | .list _ _ _, checked, _ => absurd checked Expr.check_list

theorem Expr.allSound_iff (passes : program.Passes typed loaded last)
    (genuine : checker.names.Genuine) (settles : program.Settles checker.names context around)
    {place : Place} {done : List Expr} {types : List Ty} :
    (exprs : List Expr) → Expr.CheckAll checker.names exprs done types →
    Visits program place (.values exprs) checker →
    ((∀ mention ∈ Java.Expr.allMentions context place (Expr.allToJava done),
      mention.Sound program) ↔ Expr.allSettled around exprs = true)
  | [], checked, _ => by
    cases done <;> cases types <;> try exact checked.elim
    exact iff_of_true nofun rfl
  | first :: rest, checked, visits => by
    cases done <;> cases types <;> try exact checked.elim
    rw [Expr.allToJava, Java.Expr.allMentions, List.forall_mem_append, Expr.allSettled,
      Bool.and_eq_true]
    exact and_congr (Expr.sound_iff passes genuine settles first checked.1 (visits.turn .head))
      (Expr.allSound_iff passes genuine settles rest checked.2 (visits.turn .tail))

end

theorem Expr.sound_target_iff (passes : program.Passes typed loaded last)
    (genuine : checker.names.Genuine) (settles : program.Settles checker.names context around)
    {target done : Expr} {type : Ty}
    (checked : Check.receiver target checker = .ok (done, type) checker)
    (visits : Visits program place (.target target) checker) :
    (∀ mention ∈ done.toJava.mentions context place, mention.Sound program) ↔
      target.settled around = true := by
  obtain ⟨targetChecked, -, shape⟩ := Check.of_receiver checked
  rcases shape with ⟨name, _, _, rfl, -⟩ | ⟨name, index, _, _, rfl⟩
  · obtain ⟨binding, found, -, -, rfl⟩ := Expr.check_named targetChecked
    rw [Expr.toJava, Java.Expr.mentions, List.forall_mem_singleton, Expr.settled]
    exact Mention.sound_found passes genuine settles visits rfl found
  · obtain ⟨binding, _, _, found, -, indexChecked, -, -, rfl⟩ := Expr.check_element targetChecked
    rw [Expr.toJava, Java.Expr.mentions, List.forall_mem_cons, Expr.settled, Bool.and_eq_true]
    exact and_congr (Mention.sound_found passes genuine settles visits rfl found)
      (Expr.sound_iff passes genuine settles index indexChecked (visits.turn .targetIndex))

theorem Expr.initialSound_iff (passes : program.Passes typed loaded last)
    (genuine : checker.names.Genuine) (settles : program.Settles checker.names context around)
    {name : String} {typeName : Option String} {mutable : Bool}
    {value done : Option Expr} {binding : Variable} {bound : Option Variable}
    (declared : Variable.declare checker.names name typeName mutable value = .ok (done, binding))
    (visits : Visits program place (.statement (.declaration name typeName value bound)) checker) :
    (∀ mention ∈ Java.Expr.initialMentions context place (done.map Expr.toJava),
      mention.Sound program) ↔ Expr.initialSettled around value = true := by
  obtain ⟨initial, -⟩ := Variable.initial_of_declare declared
  cases initial with
  | missing => exact iff_of_true nofun rfl
  | single _ checked _ =>
    exact Expr.sound_iff passes genuine settles _ checked (visits.turn .declared)
  | list _ checked _ =>
    exact Expr.allSound_iff passes genuine settles _ checked
      ((visits.turn .declared).turn .elements)

/-! ### Statements -/

theorem Java.Mention.sound_declarator {origin : Origin} {name : String} :
    (Mention.declarator origin name (!context.hasLocal name)).Sound program ↔
      name ∉ context.locals.map Prod.fst := by
  rw [Sound, Bool.not_eq_true', ← Bool.not_eq_true, Context.hasLocal_iff]

section statements

variable {tokens : List Token}

mutual

theorem Stmt.sound_iff (passes : program.Passes typed loaded last)
    (parsed : Program.ofTokens tokens = .ok program) {place : Place} {checker after : Checker}
    {context : Context} {around : Surroundings} {done : Stmt} : (statement : Stmt) →
    statement.check checker = .ok done after →
    Visits program place (.statement statement) checker →
    program.Aligned checker.names context around →
    ((∀ mention ∈ done.toJava.mentions context place, mention.Sound program) ↔
      statement.settled around = true)
  | .expression value, checked, visits, aligned => by
    obtain ⟨_, _, -, valueChecked, rfl, -⟩ := Stmt.check_expression checked
    rw [Stmt.toJava, Java.Stmt.mentions, Stmt.settled]
    exact Expr.sound_iff passes (visits.genuine parsed) aligned.settles value valueChecked
      (visits.turn .expression)
  | .declaration name _ value _, checked, visits, aligned => by
    obtain ⟨_, binding, declared, rfl, -⟩ := Stmt.check_declaration checked
    obtain ⟨-, same, -⟩ := Variable.initial_of_declare declared
    have emitted : binding.emittedName = name := congrArg Variable.emittedName same
    simp only [Stmt.toJava, Java.declared, emitted, Java.Stmt.mentions]
    rw [List.forall_mem_cons, Mention.sound_declarator, ← aligned.taken, Stmt.settled,
      Bool.and_eq_true, Bool.not_eq_true', ← Bool.not_eq_true, List.contains_iff_mem]
    exact and_congr_right fun _ =>
      (Expr.initialSound_iff passes (visits.genuine parsed)
        (aligned.settles_initial passes visits) declared visits)
  | .assignment target value, checked, visits, aligned => by
    obtain ⟨_, _, _, _, targetChecked, valueChecked, -, rfl, -⟩ := Stmt.check_assignment checked
    have genuine := visits.genuine parsed
    rw [Stmt.toJava, Java.Stmt.mentions, List.forall_mem_append, Stmt.settled, Bool.and_eq_true]
    exact and_congr
      (Expr.sound_target_iff passes genuine aligned.settles targetChecked (visits.turn .receiver))
      (Expr.sound_iff passes genuine aligned.settles value valueChecked (visits.turn .assigned))
  | .conditional test thenBody elseBody, checked, visits, aligned => by
    obtain ⟨_, _, _, middle, _, testChecked, -, thenChecked, elseChecked, rfl, -⟩ :=
      Stmt.check_conditional checked
    have keeps := Checker.keeps_comeBack (Stmt.keepsOuter_checkAll thenBody thenChecked)
    rw [Stmt.toJava, Java.Stmt.mentions, List.forall_mem_append, List.forall_mem_append,
      Stmt.settled, Bool.and_eq_true, Bool.and_eq_true]
    exact and_congr
      (Expr.sound_iff passes (visits.genuine parsed) aligned.settles test testChecked
        (visits.turn .test))
      (and_congr
        (Stmt.allSound_iff passes parsed thenBody thenChecked (visits.turn .thenBody) aligned.push)
        (Stmt.allSound_iff passes parsed elseBody elseChecked
          (visits.turn (.elseBody thenChecked)) (aligned.of_keeps keeps.names).push))
  | .loop test body, checked, visits, aligned => by
    obtain ⟨_, _, _, testChecked, bodyChecked, rfl, -⟩ := Stmt.check_loop checked
    rw [Stmt.toJava, Java.Stmt.mentions, List.forall_mem_append, Stmt.settled, Bool.and_eq_true]
    exact and_congr
      (Expr.sound_iff passes (visits.genuine parsed) aligned.settles test testChecked
        (visits.turn .loopTest))
      (Stmt.allSound_iff passes parsed body bodyChecked (visits.turn .loopBody) aligned.push)
  | .switch value cases, checked, visits, aligned => by
    obtain ⟨_, _, _, valueChecked, casesChecked, rfl⟩ := Stmt.check_switch checked
    rw [Stmt.toJava, Java.Stmt.mentions, List.forall_mem_append, Stmt.settled, Bool.and_eq_true]
    exact and_congr
      (Expr.sound_iff passes (visits.genuine parsed) aligned.settles value valueChecked
        (visits.turn .scrutinee))
      (Case.allSound_iff passes parsed cases casesChecked (visits.turn (.cases valueChecked))
        aligned)
  | .returns value, checked, visits, aligned => by
    obtain ⟨_, _, _, -, valueChecked, -, rfl, -⟩ := Stmt.check_returns checked
    rw [Stmt.toJava, Java.Stmt.mentions, Stmt.settled]
    exact Expr.sound_iff passes (visits.genuine parsed) aligned.settles value valueChecked
      (visits.turn .returned)

theorem Stmt.allSound_iff (passes : program.Passes typed loaded last)
    (parsed : Program.ofTokens tokens = .ok program) {place : Place} {checker after : Checker}
    {context : Context} {around : Surroundings} {done : List Stmt} : (statements : List Stmt) →
    Stmt.checkAll statements checker = .ok done after →
    Visits program place (.statements statements) checker →
    program.Aligned checker.names context around →
    ((∀ mention ∈ Java.Stmt.allMentions context place (Stmt.allToJava done),
      mention.Sound program) ↔ Stmt.allSettled around statements = true)
  | [], checked, _, _ => by
    obtain ⟨rfl, -⟩ := Stmt.checkAll_nil checked
    exact iff_of_true nofun rfl
  | first :: rest, checked, visits, aligned => by
    obtain ⟨_, _, _, firstChecked, restChecked, rfl⟩ := Stmt.checkAll_cons checked
    have head := Stmt.sound_iff passes parsed first firstChecked (visits.turn .first) aligned
    rw [Stmt.allToJava, Java.Stmt.allMentions, List.forall_mem_append, head, Stmt.allSettled,
      Bool.and_eq_true]
    -- The scopes are known to go together behind a statement only if it is settled.
    exact and_congr_right fun settled => Stmt.allSound_iff passes parsed rest restChecked
      (visits.turn (.next firstChecked)) (aligned.behind firstChecked (visits.turn .first) settled)

theorem Case.allSound_iff (passes : program.Passes typed loaded last)
    (parsed : Program.ofTokens tokens = .ok program) {place : Place} {checker after : Checker}
    {context : Context} {around : Surroundings} {type : Ty} {done : List Case} :
    (cases : List Case) → Case.checkAll type cases checker = .ok done after →
    Visits program place (.cases type cases) checker →
    program.Aligned checker.names context around →
    ((∀ mention ∈ Java.Group.allMentions context place (Case.allToJava done),
      mention.Sound program) ↔ Case.allSettled around cases = true)
  | [], checked, _, _ => by
    obtain ⟨rfl, -⟩ := Case.checkAll_nil checked
    exact iff_of_true nofun rfl
  | .matching value body :: rest, checked, visits, aligned => by
    obtain ⟨_, _, _, _, valueChecked, bodyChecked, restChecked, rfl⟩ :=
      Case.checkAll_matching checked
    have inner :=
      Stmt.allSound_iff passes parsed body bodyChecked (visits.turn .matched) aligned.push
    rw [Case.allToJava, Java.Group.allMentions, List.forall_mem_append, List.forall_mem_append,
      inner, Case.allSettled, Bool.and_eq_true, Bool.and_eq_true]
    refine and_congr
      (Expr.sound_iff passes (visits.genuine parsed) aligned.settles value valueChecked
        (visits.turn .candidate))
      (and_congr_right fun settled => ?_)
    exact Case.allSound_iff passes parsed rest restChecked (visits.turn (.unmatched bodyChecked))
      (aligned.behindCase passes bodyChecked (visits.turn .matched) settled)
  | .otherwise body :: _, checked, visits, aligned => by
    obtain ⟨_, _, rfl, bodyChecked, rfl, -⟩ := Case.checkAll_otherwise checked
    have inner :=
      Stmt.allSound_iff passes parsed body bodyChecked (visits.turn .otherwise) aligned.push
    simp only [Case.allToJava, Java.Group.allMentions, List.append_nil, Case.allSettled,
      Bool.and_true]
    exact inner

end

end statements

end tree

/-! ### Parameters -/

section parameters

theorem Names.boundVariables_defineParameters (names : Names)
    (bounded : names.current.top < names.scopes.size) (parameters : List (String × Ty)) :
    (names.defineParameters parameters).boundVariables names.current.top =
      (parameters.map fun (name, type) => (name, Variable.single name type true)).reverse ++
        names.boundVariables names.current.top := by
  induction parameters generalizing names with
  | nil => rfl
  | cons parameter rest ih =>
    have tail := ih (names.defineVariable parameter.1 (.single parameter.1 parameter.2 true))
      (by rwa [Environment.size_defineVariable])
    rw [Environment.current_defineVariable,
      Environment.boundVariables_defineVariable_top names _ _ bounded] at tail
    rw [List.map_cons, List.reverse_cons, List.append_assoc]
    exact tail

theorem Signature.boundVariables_inBody_top (signature : Signature) (names : Names)
    (parameters : List String) :
    (signature.inBody names parameters).names.boundVariables names.scopes.size =
      ((parameters.zip signature.parameterTypes).map fun (name, type) =>
        (name, Variable.single name type true)).reverse := by
  have bounded : names.push.current.top < names.push.scopes.size := by
    simp [Environment.push]
  have bound := Names.boundVariables_defineParameters names.push bounded
    (parameters.zip signature.parameterTypes)
  have empty : names.push.boundVariables names.push.current.top = [] := by
    simp [Environment.push]
  rw [empty, List.append_nil] at bound
  exact bound

theorem Signature.held_inBody {signature : Signature} {names : Names} {parameters : List String}
    {name : String} {index : Nat} {binding : Variable}
    (holds : Bindings.Holds
      ((signature.inBody names parameters).names.boundVariables names.scopes.size) name index
      binding) :
    ∃ type, parameters[index]? = some name ∧ signature.parameterTypes[index]? = some type ∧
      binding = .single name type true := by
  rw [boundVariables_inBody_top, Bindings.Holds, List.reverse_reverse, List.getElem?_map,
    Option.map_eq_some_iff] at holds
  obtain ⟨⟨_, type⟩, zipped, same⟩ := holds
  cases same
  obtain ⟨given, spelt⟩ := List.getElem?_zip_eq_some.mp zipped
  exact ⟨type, given, spelt, rfl⟩

theorem Signature.names_inBody {signature : Signature} (names : Names) {parameters : List String}
    (even : parameters.length = signature.parameterTypes.length) :
    ((signature.inBody names parameters).names.boundVariables names.scopes.size).map Prod.fst =
      parameters.reverse := by
  have keys : ((parameters.zip signature.parameterTypes).map fun entry =>
      (entry.1, Variable.single entry.1 entry.2 true)).map Prod.fst = parameters := by
    rw [List.map_map]
    exact List.map_fst_zip (Nat.le_of_eq even)
  rw [boundVariables_inBody_top, List.map_reverse, keys]

theorem Signature.numbers_inBody (signature : Signature) {names : Names}
    (outside : names.current = Chain.root) (parameters : List String) :
    (signature.inBody names parameters).names.current.numbers = [names.scopes.size, 0] := by
  rw [current_inBody]
  exact congrArg (_ :: ·) (congrArg Chain.numbers outside)

theorem Signature.boundVariables_inBody_root (signature : Signature) {names : Names}
    (rooted : names.Rooted) (parameters : List String) :
    (signature.inBody names parameters).names.boundVariables 0 = names.boundVariables 0 := by
  have keeps := Names.keepsOuter_defineParameters names.push
    (parameters.zip signature.parameterTypes)
  have size : names.push.scopes.size = names.scopes.size + 1 := names.size_child names.current
  exact (keeps.boundVariables 0 (by omega) (Ne.symm rooted.push_ne_root)).trans
    (names.boundVariables_child names.current 0)

theorem Java.Context.declareAll_eq (context : Context) (entries : List (String × Origin)) :
    context.declareAll entries =
      { context with locals := entries.reverse ++ context.locals } := by
  induction entries generalizing context with
  | nil => rfl
  | cons entry rest ih =>
    have tail := ih (context.declare entry.1 entry.2)
    rw [List.reverse_cons, List.append_assoc]
    exact tail

theorem Java.Context.sound_declarators {program : Program} {context : Context}
    {entries : List (String × Origin)} :
    (∀ mention ∈ context.declarators entries, mention.Sound program) ↔
      (entries.map Prod.fst).Nodup ∧
        ∀ name ∈ entries.map Prod.fst, name ∉ context.locals.map Prod.fst := by
  induction entries generalizing context with
  | nil => exact iff_of_true nofun ⟨List.nodup_nil, nofun⟩
  | cons entry rest ih =>
    rw [declarators, List.forall_mem_cons, Mention.sound_declarator, ih, List.map_cons,
      List.nodup_cons, List.forall_mem_cons]
    simp only [declare, List.map_cons, List.mem_cons, not_or]
    constructor
    · rintro ⟨head, once, others⟩
      exact ⟨⟨fun again => (others _ again).1 rfl, once⟩, head, fun name inside =>
        (others name inside).2⟩
    · rintro ⟨⟨head, once⟩, free, others⟩
      refine ⟨free, once, fun name inside => ⟨?_, others name inside⟩⟩
      rintro rfl
      exact head inside

end parameters

/-! ### Globals and functions -/

theorem Program.globals_held {program : Program} {earlier later done : List Global}
    {checker : Checker} (split : program.globals = earlier ++ later)
    (checked : earlier.mapM Check.global Checker.initial = .ok done checker) :
    checker.AtTop ∧ (checker.names.boundVariables 0).length = earlier.length ∧
      ∀ name index binding, Bindings.Holds (checker.names.boundVariables 0) name index binding →
        (program.globals.map Global.name)[index]? = some name ∧
          Declares program (.global index) 0 index binding := by
  induction earlier using List.reverseRecOn generalizing later done checker with
  | nil =>
    cases checked
    exact ⟨Checker.atTop_initial, rfl, nofun⟩
  | append_singleton front global ih =>
    obtain ⟨done, _, before, frontChecked, restChecked, rfl⟩ :=
      EStateM.mapM_append_eq_ok.mp checked
    obtain ⟨_, _, _, globalChecked, nothing, -⟩ := EStateM.mapM_cons_eq_ok.mp restChecked
    cases nothing
    rw [List.append_assoc, List.singleton_append] at split
    obtain ⟨top, counted, held⟩ := ih split frontChecked
    have zero := Chain.top_eq_zero top.current
    obtain ⟨value, made, declared, -, same⟩ := Check.of_global globalChecked
    have declares : Declares program (.global front.length) before.names.current.top _ made :=
      .global ⟨front, later, done, split, rfl, frontChecked⟩ declared
    have bound := before.names.boundVariables_defineVariable_top global.name made
      top.rooted.bounded
    rw [zero] at bound declares
    refine ⟨top.of_global globalChecked, ?_, fun name index binding holds => ?_⟩
    · rw [same, bound, List.length_cons, counted, List.length_append, List.length_singleton]
    · rw [same, bound, Bindings.holds_cons] at holds
      rcases holds with ⟨new, rfl⟩ | old
      · cases new
        -- The new global stands behind as many as are bound.
        rw [counted] at declares ⊢
        exact ⟨by simp [split], declares⟩
      · exact held name index binding old

section program

variable {tokens : List Token} {program typed : Program} {loaded last before next checker : Checker}
  {earlier later done : List Function} {function result : Function} {signature : Signature}

def Function.origins (function : Function) : List (String × Origin) :=
  function.parameters.zipIdx.map fun (name, index) =>
    (name, .parameter function.name function.arity index)

theorem Function.names_origins (function : Function) :
    function.origins.map Prod.fst = function.parameters := by
  simp [origins, Function.comp_def]

/-- At the start of a function whose parameters have different names. -/
theorem Program.Aligned.start (checks : program.ChecksBody function checker)
    (even : function.parameters.length = function.parameterTypes.length)
    (distinct : function.parameters.Nodup) :
    program.Aligned checker.names
      { fields := program.globals.map Global.name, locals := function.origins.reverse }
      { globals := program.globals.map Global.name, taken := function.parameters
        unseen := [] } := by
  obtain ⟨earlier, later, globals, done, loaded, before, signature, globalsChecked, split, ran,
    spelled, rfl⟩ := id checks
  obtain ⟨loadedTop, -, held⟩ := program.globals_held (List.append_nil _).symm globalsChecked
  obtain ⟨top, kept, -⟩ := Checker.extends_functions ran loadedTop
  have counted := even.trans (Function.parameterTypes_of_signature spelled).symm
  have rooted : (before.names.defineFunction function.name function.arity signature).Rooted :=
    top.rooted.defineFunction (Chain.top_eq_zero top.current) _ _ _
  have root := signature.boundVariables_inBody_root rooted function.parameters
  have outside : (before.names.defineFunction function.name function.arity signature).current =
      Chain.root := top.current
  have current := signature.numbers_inBody outside function.parameters
  have isTop := (List.cons.inj current).1
  have named := function.names_origins
  exact
    { rooted := rooted.child_current.of_grows (Names.keepsOuter_defineParameters _ _)
      inner := signature.inBody_ne_root rooted function.parameters
      fields := rfl
      globals := by
        rw [root, Environment.boundVariables_defineFunction, kept]
        exact held
      taken := fun name => by rw [List.map_reverse, List.mem_reverse, named]
      distinct := by
        rw [List.map_reverse, named]
        exact (List.reverse_perm _).nodup_iff.mpr distinct
      inScope := by
        intro number member within name index binding holds
        rw [current] at member
        rcases List.mem_cons.mp member with rfl | root
        · obtain ⟨type, given, spelt, rfl⟩ := Signature.held_inBody holds
          have made := Declares.parameter checks spelled given spelt
          rw [isTop] at made
          refine ⟨_, List.mem_reverse.mpr ?_, made⟩
          exact List.mem_map.mpr ⟨_, List.mk_mem_zipIdx_iff_getElem?.mpr given, rfl⟩
        · exact absurd (List.mem_singleton.mp root) within
      seen := by
        intro name isTaken _
        refine ⟨_, current ▸ List.mem_cons_self, isTop ▸ signature.inBody_ne_root rooted _, ?_⟩
        rw [Signature.names_inBody _ counted, List.mem_reverse]
        exact isTaken
      unseen := nofun }

theorem Function.sound_iff (passes : program.Passes typed loaded last)
    (parsed : Program.ofTokens tokens = .ok program)
    (split : program.functions = earlier ++ function :: later)
    (ran : earlier.mapM Check.function loaded = .ok done before)
    (checked : Check.function function before = .ok result next) :
    (∀ mention ∈ result.toJava.mentions (program.globals.map Global.name),
      mention.Sound program) ↔ function.settled (program.globals.map Global.name) = true := by
  obtain ⟨signature, _, spelled, -, bodyChecked, -, same, -⟩ := Check.of_function checked
  have even := (Program.proper_of_ofTokens parsed function (List.mem_of_split split)).parameters
  have checks : program.ChecksBody function _ :=
    ⟨earlier, later, typed.globals, done, loaded, before, signature, passes.globals, split, ran,
      spelled, rfl⟩
  have emitted := Function.emitted_of_signature spelled
  have named : result.toJava.name = function.name := by
    rw [same]
    exact emitted
  have parameters : result.toJava.parameterNames = function.parameters := by
    rw [same]
    exact List.map_snd_zip (by simp [even, Function.parameterTypes_of_signature spelled])
  have body : result.toJava.body = Stmt.allToJava result.body := rfl
  have origins : result.toJava.origins = function.origins := by
    rw [Java.Method.origins, named, parameters]
    rfl
  rw [Java.Method.mentions, List.forall_mem_append, origins, named, parameters, body,
    Context.sound_declarators, function.names_origins, Context.declareAll_eq, Function.settled,
    Bool.and_eq_true, decide_eq_true_iff, List.append_nil]
  -- No local variable is in scope in front of the parameters.
  refine (and_congr_left' (and_iff_left fun _ _ => List.not_mem_nil)).trans
    (and_congr_right fun distinct => ?_)
  exact Stmt.allSound_iff passes parsed function.body bodyChecked (.body checks)
    (.start checks even distinct)

theorem Program.fieldNames_toJava (passes : program.Passes typed loaded last) :
    typed.toJava.fieldNames = program.globals.map Global.name := by
  have names : typed.globals.map (fun global => global.toJava.name) =
      program.globals.map Global.name := by
    refine EStateM.map_of_mapM passes.globals fun global result before after checked => ?_
    obtain ⟨value, binding, declared, rfl, -⟩ := Check.of_global checked
    obtain ⟨-, same, -⟩ := Variable.initial_of_declare declared
    exact congrArg Variable.emittedName same
  rw [← names]
  exact List.map_map

/-- In the translation of a program that is accepted, nothing is redeclared and every name denotes
what checking has found for it, if and only if the names of the program are settled. -/
theorem Program.sound_toJava_iff (parsed : Program.ofTokens tokens = .ok program)
    (checked : program.check = .ok typed) :
    (∀ method ∈ typed.toJava.methods, ∀ mention ∈ method.mentions typed.toJava.fieldNames,
      mention.Sound program) ↔ program.settled = true := by
  obtain ⟨loaded, last, passes⟩ := Program.passes_of_check checked
  have functions := EStateM.forall_of_mapM passes.functions
    fun _ _ _ _ _ _ _ split ran step => Function.sound_iff passes parsed split ran step
  rw [fieldNames_toJava passes, Program.settled, List.all_eq_true, ← functions]
  exact List.forall_mem_map

end program

namespace Sample

/-- The sample declares every name once, and keeps what the names stand for. -/
theorem source_translates :
    Program.ofTokens tokens = .ok source ∧ source.check = .ok typed ∧
      ∀ method ∈ typed.toJava.methods, ∀ mention ∈ method.mentions typed.toJava.fieldNames,
        mention.Sound source :=
  ⟨parsed, checked, (Program.sound_toJava_iff parsed checked).mpr (by decide)⟩

def casesTokens : List Token :=
  Token.spelled
    [(.identifier, "fun"), (.identifier, "main"), (.operator, "("), (.operator, ")"),
      (.identifier, "do"),
      (.identifier, "switch"), (.integer, "0"),
      (.identifier, "case"), (.integer, "0"), (.operator, ":"),
      (.identifier, "let"), (.identifier, "x"), (.operator, "="), (.integer, "1"), (.operator, ";"),
      (.identifier, "default"), (.operator, ":"),
      (.identifier, "let"), (.identifier, "x"), (.operator, "="), (.integer, "2"), (.operator, ";"),
      (.identifier, "end"),
      (.identifier, "return"), (.integer, "0"), (.operator, ";"), (.identifier, "end")]

/-- Two cases with a variable of their own each. The arguments are what checking fills in. -/
def cases (x : Option Variable) (main : Option Signature) (integer : Option Ty) : Program where
  globals := []
  functions :=
    [{ name := "main", parameters := [], parameterTypes := [], returnTypeName := none
       binding := main
       body :=
        [.switch (.literal (.integer 0) integer)
          [.matching (.literal (.integer 0) integer)
              [.declaration "x" none (some (.literal (.integer 1) integer)) x],
            .otherwise [.declaration "x" none (some (.literal (.integer 2) integer)) x]],
          .returns (.literal (.integer 0) integer)] }]

def casesTyped : Program :=
  cases (some (.single "x" .integer true)) (some (.declared "main" [] .integer)) (some .integer)

/-- In Java the variable of the first case is still in scope where the second declares its own. -/
theorem case_redeclared :
    Program.ofTokens casesTokens = .ok (cases none none none) ∧
      (cases none none none).check = .ok casesTyped ∧
      ∃ method ∈ casesTyped.toJava.methods, ∃ origin,
        Mention.declarator origin "x" false ∈ method.mentions casesTyped.toJava.fieldNames ∧
          ¬ (Mention.declarator origin "x" false).Sound (cases none none none) :=
  ⟨by with_unfolding_all rfl, rfl, _, List.mem_singleton_self _, _,
    List.mem_cons_of_mem _ List.mem_cons_self, nofun⟩

end Sample

end Primer
