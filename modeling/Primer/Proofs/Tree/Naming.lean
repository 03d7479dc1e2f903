import Primer.Tree.Program

/-! Names that mean the same under wider scopes.

In the program every body has a scope of its own and a name may be declared again. Here the scope of
a declaration begins with its own value, the bodies of a switch share one scope, and a name stands
for one variable of a function at a time. A program for which this makes no difference declares no
name that is taken, and reads none that is taken by a variable it cannot see.
-/

set_option autoImplicit false

namespace Primer

/-- The names around a part of a function. -/
structure Surroundings where
  globals : List String
  taken : List String
  /-- Those of them that the program does not see. -/
  unseen : List String

namespace Surroundings

def declare (around : Surroundings) (name : String) : Surroundings :=
  { around with taken := name :: around.taken }

def hide (around : Surroundings) (names : List String) : Surroundings :=
  { around with taken := names ++ around.taken, unseen := names ++ around.unseen }

/-- Whether the name stands for a variable that is seen, or for the only global of that name. -/
def settles (around : Surroundings) (name : String) : Bool :=
  !around.unseen.contains name && (around.taken.contains name || around.globals.count name == 1)

theorem settles_iff {around : Surroundings} {name : String} :
    around.settles name = true ↔
      name ∉ around.unseen ∧ (name ∈ around.taken ∨ around.globals.count name = 1) := by
  simp [settles]

end Surroundings

def Stmt.declaredName? : Stmt → Option String
  | .declaration name .. => some name
  | .expression _ | .assignment .. | .conditional .. | .loop .. | .switch .. | .returns _ => none

def Stmt.declaredNames (statements : List Stmt) : List String :=
  statements.filterMap Stmt.declaredName?

def Surroundings.behind (around : Surroundings) (statement : Stmt) : Surroundings :=
  match statement.declaredName? with
  | some name => around.declare name
  | none => around

mutual

def Expr.settled (around : Surroundings) : Expr → Bool
  | .literal _ _ => true
  | .group inner _ => inner.settled around
  | .binary _ left right _ => left.settled around && right.settled around
  | .named name _ _ => around.settles name
  | .element name index _ _ => around.settles name && index.settled around
  | .call _ arguments _ _ => Expr.allSettled around arguments
  | .list elements _ _ => Expr.allSettled around elements

def Expr.allSettled (around : Surroundings) : List Expr → Bool
  | [] => true
  | first :: rest => first.settled around && Expr.allSettled around rest

end

def Expr.initialSettled (around : Surroundings) : Option Expr → Bool
  | none => true
  | some value => value.settled around

mutual

def Stmt.settled (around : Surroundings) : Stmt → Bool
  | .expression value | .returns value => value.settled around
  | .declaration name _ value _ =>
    -- The value does not see the variable that it is for, but another one of its name, if any.
    !around.taken.contains name && Expr.initialSettled (around.hide [name]) value
  | .assignment receiver value => receiver.settled around && value.settled around
  | .conditional condition thenBody elseBody =>
    condition.settled around &&
      (Stmt.allSettled around thenBody && Stmt.allSettled around elseBody)
  | .loop condition body => condition.settled around && Stmt.allSettled around body
  | .switch value cases => value.settled around && Case.allSettled around cases

def Stmt.allSettled (around : Surroundings) : List Stmt → Bool
  | [] => true
  | first :: rest => first.settled around && Stmt.allSettled (around.behind first) rest

def Case.allSettled (around : Surroundings) : List Case → Bool
  | [] => true
  | .matching value body :: rest =>
    value.settled around && (Stmt.allSettled around body &&
      Case.allSettled (around.hide (Stmt.declaredNames body)) rest)
  | .otherwise body :: rest =>
    Stmt.allSettled around body && Case.allSettled (around.hide (Stmt.declaredNames body)) rest

end

def Function.settled (globals : List String) (function : Function) : Bool :=
  decide function.parameters.Nodup &&
    Stmt.allSettled { globals, taken := function.parameters, unseen := [] } function.body

def Program.settled (program : Program) : Bool :=
  program.functions.all fun function => function.settled (program.globals.map Global.name)

/-! ### Declared names -/

/-- Settled statements declare names that are not taken, each of them once. -/
theorem Stmt.declaredNames_fresh {statements : List Stmt} {around : Surroundings}
    (settled : Stmt.allSettled around statements) :
    (Stmt.declaredNames statements).Nodup ∧
      ∀ name ∈ Stmt.declaredNames statements, name ∉ around.taken := by
  induction statements generalizing around with
  | nil => exact ⟨List.nodup_nil, nofun⟩
  | cons first rest ih =>
    rw [allSettled, Bool.and_eq_true] at settled
    obtain ⟨head, tail⟩ := settled
    obtain ⟨once, fresh⟩ := ih tail
    unfold declaredNames at once fresh ⊢
    cases declares : first.declaredName? with
    | none =>
      rw [List.filterMap_cons_none declares]
      have same : around.behind first = around := by rw [Surroundings.behind, declares]
      exact ⟨once, same ▸ fresh⟩
    | some name =>
      rw [List.filterMap_cons_some declares]
      have more : (around.behind first).taken = name :: around.taken := by
        rw [Surroundings.behind, declares]
        rfl
      rw [more] at fresh
      have untaken : name ∉ around.taken := by
        cases first with
        | declaration =>
          cases declares
          rw [settled, Bool.and_eq_true] at head
          simpa using head.1
        | expression | assignment | conditional | loop | switch | returns => cases declares
      refine ⟨List.nodup_cons.mpr ⟨fun again => fresh name again List.mem_cons_self, once⟩, ?_⟩
      intro other member
      rcases List.mem_cons.mp member with rfl | later
      · exact untaken
      · exact fun also => fresh other later (List.mem_cons_of_mem _ also)

end Primer
