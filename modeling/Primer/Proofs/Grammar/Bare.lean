import Primer.Proofs.Grammar.Statement

/-! Trees without what checking fills in.

The bare form of a tree has neither types nor bindings. Parsing only builds trees that are bare.
-/

set_option autoImplicit false

namespace Primer

mutual

def Expr.bare : Expr → Expr
  | .literal value _ => .literal value none
  | .group inner _ => .group inner.bare none
  | .binary operator left right _ => .binary operator left.bare right.bare none
  | .named name _ _ => .named name none none
  | .element name index _ _ => .element name index.bare none none
  | .call name arguments _ _ => .call name (Expr.bareAll arguments) none none
  | .list elements _ _ => .list (Expr.bareAll elements) none none

def Expr.bareAll : List Expr → List Expr
  | [] => []
  | first :: rest => first.bare :: Expr.bareAll rest

end

mutual

def Stmt.bare : Stmt → Stmt
  | .expression value => .expression value.bare
  | .declaration name typeName value _ => .declaration name typeName (value.map Expr.bare) none
  | .assignment receiver value => .assignment receiver.bare value.bare
  | .conditional condition thenBody elseBody =>
    .conditional condition.bare (Stmt.bareAll thenBody) (Stmt.bareAll elseBody)
  | .loop condition body => .loop condition.bare (Stmt.bareAll body)
  | .switch condition cases => .switch condition.bare (Case.bareAll cases)
  | .returns value => .returns value.bare

def Stmt.bareAll : List Stmt → List Stmt
  | [] => []
  | first :: rest => first.bare :: Stmt.bareAll rest

def Case.bareAll : List Case → List Case
  | [] => []
  | .matching value body :: rest =>
    .matching value.bare (Stmt.bareAll body) :: Case.bareAll rest
  | .otherwise body :: rest => .otherwise (Stmt.bareAll body) :: Case.bareAll rest

end

def Global.bare (global : Global) : Global :=
  { global with value := global.value.map Expr.bare, binding := none }

def Function.bare (function : Function) : Function :=
  { function with body := Stmt.bareAll function.body, binding := none }

def Program.bare (program : Program) : Program :=
  { globals := program.globals.map Global.bare
    functions := program.functions.map Function.bare }

theorem List.map_eq_self_iff {α : Type} {f : α → α} {items : List α} :
    items.map f = items ↔ ∀ item ∈ items, f item = item := by
  have fixed : items.map f = items.map id ↔ ∀ item ∈ items, f item = id item := List.map_inj_left
  rwa [List.map_id] at fixed

theorem Expr.bareAll_eq_map (exprs : List Expr) : Expr.bareAll exprs = exprs.map Expr.bare := by
  induction exprs with
  | nil => rfl
  | cons first rest ih => rw [bareAll, ih, List.map_cons]

theorem Stmt.bareAll_eq_map (statements : List Stmt) :
    Stmt.bareAll statements = statements.map Stmt.bare := by
  induction statements with
  | nil => rfl
  | cons first rest ih => rw [bareAll, ih, List.map_cons]

theorem Expr.bareAll_of_all {exprs : List Expr} (all : ∀ expr ∈ exprs, expr.bare = expr) :
    Expr.bareAll exprs = exprs :=
  (bareAll_eq_map exprs).trans (List.map_eq_self_iff.mpr all)

theorem Stmt.bareAll_of_all {statements : List Stmt}
    (all : ∀ statement ∈ statements, statement.bare = statement) :
    Stmt.bareAll statements = statements :=
  (bareAll_eq_map statements).trans (List.map_eq_self_iff.mpr all)

theorem Option.map_bare_of_all {value : Option Expr}
    (all : ∀ given, value = some given → given.bare = given) : value.map Expr.bare = value := by
  cases value with
  | none => rfl
  | some given => exact congrArg some (all given rfl)

namespace Parse

theorem builds_bare : Builds (fun _ => True) fun _ expr => expr.bare = expr where
  literal _ := rfl
  single _ := rfl
  element _ index := by rw [Expr.bare, index]
  call _ arguments := by rw [Expr.bare, Expr.bareAll_of_all arguments]
  group inner := by rw [Expr.bare, inner]
  list elements := by rw [Expr.bare, Expr.bareAll_of_all elements]
  binary _ left right := by rw [Expr.bare, left, right]
  looser _ holds := holds

theorem bareAll_of_arms {cases : List Case}
    (all : ∀ arm ∈ cases, Arm (fun expr => expr.bare = expr) (fun stmt => stmt.bare = stmt) arm) :
    Case.bareAll cases = cases := by
  induction cases with
  | nil => rfl
  | cons first rest ih =>
    have head := all first List.mem_cons_self
    have tail := ih fun arm member => all arm (List.mem_cons_of_mem _ member)
    cases first with
    | matching value body =>
      rw [Case.bareAll, head.1, Stmt.bareAll_of_all head.2, tail]
    | otherwise body => rw [Case.bareAll, Stmt.bareAll_of_all head, tail]

theorem assembles_bare :
    Assembles (fun expr => expr.bare = expr) fun statement => statement.bare = statement where
  declaration value := by rw [Stmt.bare, Option.map_bare_of_all value]
  conditional test thenBody elseBody := by
    rw [Stmt.bare, test, Stmt.bareAll_of_all thenBody, Stmt.bareAll_of_all elseBody]
  loop test body := by rw [Stmt.bare, test, Stmt.bareAll_of_all body]
  switch test arms := by rw [Stmt.bare, test, bareAll_of_arms arms]
  returns value := by rw [Stmt.bare, value]
  assignment receiver value := by rw [Stmt.bare, receiver, value]
  expression value := by rw [Stmt.bare, value]

end Parse

theorem Program.bare_of_ofTokens {tokens : List Token} {program : Program}
    (parsed : Program.ofTokens tokens = .ok program) : program.bare = program := by
  have exprs : Parse.Yields Parse.expression fun expr => expr.bare = expr :=
    Parse.ensures_built Parse.builds_bare fun _ _ _ => trivial
  obtain ⟨globals, functions⟩ := Parse.fresh_of_ofTokens Parse.assembles_bare exprs parsed
  have sameGlobals : program.globals.map Global.bare = program.globals := by
    refine List.map_eq_self_iff.mpr fun global member => ?_
    have fresh := globals global member
    rw [Global.bare, Option.map_bare_of_all fresh.value, ← fresh.unbound]
  have sameFunctions : program.functions.map Function.bare = program.functions := by
    refine List.map_eq_self_iff.mpr fun function member => ?_
    have fresh := functions function member
    rw [Function.bare, Stmt.bareAll_of_all fresh.body, ← fresh.unbound]
  rw [Program.bare, sameGlobals, sameFunctions]

end Primer
