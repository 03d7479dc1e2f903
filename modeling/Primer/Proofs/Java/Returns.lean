import Primer.Java.Translation
import Primer.Proofs.Run.Promises
import Primer.Proofs.Typing.Returned

/-! Types of translated methods.

The type of a method that is translated from a function without a return type follows from the
returns of the function, which have been counted and typed already. The one thing taken into account
besides is the name `main`. It says enough of a function that has no parameters, but not of others.
-/

set_option autoImplicit false

namespace Primer

mutual

/-- The values of all return statements in the statement, from left to right. -/
def Java.Stmt.returned : Java.Stmt → List Java.Expr
  | .returns value => [value]
  | .conditional _ thenBody elseBody =>
    Java.Stmt.allReturned thenBody ++ Java.Stmt.allReturned elseBody
  | .loop _ body => Java.Stmt.allReturned body
  | .switch _ groups => Java.Group.allReturned groups
  | .expression _ | .declaration .. | .assignment .. => []

def Java.Stmt.allReturned : List Java.Stmt → List Java.Expr
  | [] => []
  | first :: rest => first.returned ++ Java.Stmt.allReturned rest

def Java.Group.allReturned : List Java.Group → List Java.Expr
  | [] => []
  | .labelled _ body :: groups | .otherwise body :: groups =>
    Java.Stmt.allReturned body ++ Java.Group.allReturned groups

end

mutual

theorem Stmt.returned_toJava : (statement : Stmt) →
    statement.toJava.returned = statement.returned.map Expr.toJava
  | .expression _ | .declaration .. | .assignment _ _ | .returns _ => rfl
  | .conditional _ thenBody elseBody => by
    rw [Stmt.toJava, Java.Stmt.returned, Stmt.returned, List.map_append,
      Stmt.allReturned_toJava thenBody, Stmt.allReturned_toJava elseBody]
  | .loop _ body => Stmt.allReturned_toJava body
  | .switch _ cases => Case.allReturned_toJava cases

theorem Stmt.allReturned_toJava : (statements : List Stmt) →
    Java.Stmt.allReturned (Stmt.allToJava statements) =
      (Stmt.allReturned statements).map Expr.toJava
  | [] => rfl
  | first :: rest => by
    rw [Stmt.allToJava, Java.Stmt.allReturned, Stmt.allReturned, List.map_append,
      Stmt.returned_toJava first, Stmt.allReturned_toJava rest]

theorem Case.allReturned_toJava : (cases : List Case) →
    Java.Group.allReturned (Case.allToJava cases) = (Case.allReturned cases).map Expr.toJava
  | [] => rfl
  | .matching _ body :: rest | .otherwise body :: rest => by
    rw [Case.allToJava, Java.Group.allReturned, Case.allReturned, List.map_append,
      Stmt.allReturned_toJava body, Case.allReturned_toJava rest]

end

mutual

theorem Stmt.mayReturn_eq_false : (statement : Stmt) →
    (statement.mayReturn = false ↔ statement.returned = [])
  | .expression _ | .declaration .. | .assignment _ _ => iff_of_true rfl rfl
  | .returns _ => iff_of_false nofun nofun
  | .conditional _ thenBody elseBody => by
    rw [Stmt.mayReturn, Stmt.returned, Bool.or_eq_false_iff, List.append_eq_nil_iff]
    exact and_congr (Stmt.anyMayReturn_eq_false thenBody) (Stmt.anyMayReturn_eq_false elseBody)
  | .loop _ body => Stmt.anyMayReturn_eq_false body
  | .switch _ cases => Case.anyMayReturn_eq_false cases

theorem Stmt.anyMayReturn_eq_false : (statements : List Stmt) →
    (Stmt.anyMayReturn statements = false ↔ Stmt.allReturned statements = [])
  | [] => iff_of_true rfl rfl
  | first :: rest => by
    rw [Stmt.anyMayReturn, Stmt.allReturned, Bool.or_eq_false_iff, List.append_eq_nil_iff]
    exact and_congr (Stmt.mayReturn_eq_false first) (Stmt.anyMayReturn_eq_false rest)

theorem Case.anyMayReturn_eq_false : (cases : List Case) →
    (Case.anyMayReturn cases = false ↔ Case.allReturned cases = [])
  | [] => iff_of_true rfl rfl
  | .matching _ body :: rest | .otherwise body :: rest => by
    rw [Case.anyMayReturn, Case.allReturned, Bool.or_eq_false_iff, List.append_eq_nil_iff]
    exact and_congr (Stmt.anyMayReturn_eq_false body) (Case.anyMayReturn_eq_false rest)

end

namespace Function

variable {function : Function}

theorem isMain_iff : function.isMain = true ↔ function.name = "main" ∧ function.arity = 0 := by
  rw [isMain, Bool.and_eq_true, beq_iff_eq, beq_iff_eq]

/-- The translation writes its return statements with the values of the function. -/
theorem allReturned_body_toJava :
    Java.Stmt.allReturned function.toJava.body =
      (Stmt.allReturned function.body).map Expr.toJava :=
  Stmt.allReturned_toJava function.body

theorem returnType_toJava (unsaid : function.returnTypeName = none) :
    function.toJava.returnType =
      if function.name = "main" then .single .integer
      else if Stmt.allReturned function.body = [] then .void else .single .any := by
  -- What checking has resolved matters only to functions that say what they return.
  have resolves : ∃ resolved, function.toJava.returnType = function.javaReturnType resolved := by
    unfold toJava
    cases function.binding <;> exact ⟨_, rfl⟩
  obtain ⟨resolved, same⟩ := resolves
  rw [same, javaReturnType, unsaid, if_neg (by exact nofun)]
  simp only [← Stmt.anyMayReturn_eq_false]
  cases Stmt.anyMayReturn function.body <;> rfl

/-- The method has the type that so many returns ask for: `int` for the main function, `void` if
there are none, `Object` otherwise. -/
structure ReturnsAgree (function : Function) (counted : Nat) : Prop where
  int : function.toJava.returnType = .single .integer ↔ function.isMain
  void : function.toJava.returnType = .void ↔ counted = 0
  object : function.toJava.returnType = .single .any ↔ function.isMain = false ∧ counted ≠ 0
  /-- An `int` method returns, and nothing but integers. -/
  integers : function.toJava.returnType = .single .integer →
    Stmt.allReturned function.body ≠ [] ∧
      ∀ value ∈ Stmt.allReturned function.body, value.type? = some .integer
  /-- A `void` method returns no value. -/
  nothing : function.toJava.returnType = .void → Java.Stmt.allReturned function.toJava.body = []

end Function

variable {program typed : Program}

/-- The main function returns, and nothing but integers. -/
theorem Program.Returned.integers {function : Function} {signature : Signature}
    (returned : program.Returned function signature) (main : function.isMain = true) :
    Stmt.allReturned function.body ≠ [] ∧
      ∀ value ∈ Stmt.allReturned function.body, value.type? = some .integer := by
  have integer := Function.returnType_of_main returned.spelled main
  have needed := returned.needed
  have accepted := returned.accepted
  rw [integer] at needed accepted
  refine ⟨needed rfl, fun value member => ?_⟩
  obtain ⟨type, typed, fits⟩ := accepted value member
  rw [typed, Ty.eq_of_accepts (by decide) (by decide) fits]

theorem Program.Returned.agree {function : Function} {signature : Signature}
    (returned : program.Returned function signature) (unsaid : function.returnTypeName = none)
    (alone : function.name = "main" → function.arity = 0) :
    function.ReturnsAgree (Stmt.allReturned function.body).length := by
  have main : function.isMain = true ↔ function.name = "main" :=
    Function.isMain_iff.trans ⟨And.left, fun named => ⟨named, alone named⟩⟩
  have type := Function.returnType_toJava unsaid
  by_cases named : function.name = "main"
  · have isMain := main.mpr named
    have integers := returned.integers isMain
    rw [if_pos named] at type
    have some := mt List.length_eq_zero_iff.mp integers.1
    exact {
      int := iff_of_true type isMain
      void := iff_of_false (by rw [type]; nofun) some
      object := iff_of_false (by rw [type]; nofun) fun other => by
        rw [isMain] at other
        cases other.1
      integers := fun _ => integers
      nothing := by rw [type]; nofun }
  · have other := Bool.eq_false_iff.mpr (mt main.mp named)
    rw [if_neg named] at type
    by_cases none : Stmt.allReturned function.body = []
    · rw [if_pos none] at type
      have count := congrArg List.length none
      exact {
        int := iff_of_false (by rw [type]; nofun) (mt main.mp named)
        void := iff_of_true type count
        object := iff_of_false (by rw [type]; nofun) fun some => some.2 count
        integers := by rw [type]; nofun
        nothing := fun _ => by rw [Function.allReturned_body_toJava, none]; rfl }
    · rw [if_neg none] at type
      have some := mt List.length_eq_zero_iff.mp none
      exact {
        int := iff_of_false (by rw [type]; nofun) (mt main.mp named)
        void := iff_of_false (by rw [type]; nofun) some
        object := iff_of_true type ⟨other, some⟩
        integers := by rw [type]; nofun
        nothing := by rw [type]; nofun }

/-- Where a function of an accepted program does not say what it returns, the type of its method
agrees with the return statements that have been counted in it, unless it is called `main` and has
parameters. -/
theorem Program.returnsAgree_iff (checked : program.check = .ok typed) :
    ∀ function ∈ typed.functions, function.returnTypeName = none →
      ∃ counted, program.Counts function counted ∧
        (counted = 0 ↔ Stmt.anyMayReturn function.body = false) ∧
        (function.ReturnsAgree counted ↔ (function.name = "main" → function.arity = 0)) := by
  intro function member unsaid
  obtain ⟨loaded, last, passes⟩ := Program.passes_of_check checked
  obtain ⟨signature, returned⟩ := passes.returned member
  refine ⟨_, returned.counts, ?_, fun agree named => ?_, returned.agree unsaid⟩
  · rw [List.length_eq_zero_iff]
    exact (Stmt.anyMayReturn_eq_false function.body).symm
  · have integer := Function.returnType_toJava unsaid
    rw [if_pos named] at integer
    exact (Function.isMain_iff.mp (agree.int.mp integer)).2

namespace Sample

def overloadTokens : List Token :=
  Token.spelled
    [(.identifier, "fun"), (.identifier, "one"), (.operator, "("), (.operator, ")"),
      (.identifier, "do"),
      (.identifier, "if"), (.identifier, "true"), (.identifier, "do"),
      (.identifier, "return"), (.integer, "1"), (.operator, ";"), (.identifier, "end"),
      (.identifier, "end"),
      (.identifier, "fun"), (.identifier, "main"), (.operator, "("), (.identifier, "x"),
      (.operator, ":"), (.identifier, "Integer"), (.operator, ")"), (.identifier, "do"),
      (.identifier, "print"), (.operator, "("), (.identifier, "x"), (.operator, ")"),
      (.operator, ";"), (.identifier, "end"),
      (.identifier, "fun"), (.identifier, "main"), (.operator, "("), (.operator, ")"),
      (.identifier, "do"),
      (.identifier, "return"), (.integer, "0"), (.operator, ";"), (.identifier, "end")]

def overload : Program where
  globals := []
  functions :=
    [{ name := "one", parameters := [], parameterTypes := [], returnTypeName := none
       binding := none
       body :=
        [.conditional (.literal (.boolean true) none) [.returns (.literal (.integer 1) none)] []] },
      { name := "main", parameters := ["x"], parameterTypes := ["Integer"], returnTypeName := none
        binding := none
        body := [.expression (.call "print" [.named "x" none none] none none)] },
      { name := "main", parameters := [], parameterTypes := [], returnTypeName := none
        binding := none
        body := [.returns (.literal (.integer 0) none)] }]

def one : Function where
  name := "one"
  parameters := []
  parameterTypes := []
  returnTypeName := none
  binding := some (.declared "one" [] .any)
  body :=
    [.conditional (.literal (.boolean true) (some .boolean))
      [.returns (.literal (.integer 1) (some .integer))] []]

/-- This has the name of the main function, but is none. -/
def namesake : Function where
  name := "main"
  parameters := ["x"]
  parameterTypes := ["Integer"]
  returnTypeName := none
  binding := some (.declared "main" [.integer] .any)
  body :=
    [.expression (.call "print" [.named "x" (some (.single "x" .integer true)) (some .integer)]
      (some .print) (some .nil))]

def overloadTyped : Program where
  globals := []
  functions :=
    [one, namesake,
      { name := "main", parameters := [], parameterTypes := [], returnTypeName := none
        binding := some (.declared "main" [] .integer)
        body := [.returns (.literal (.integer 0) (some .integer))] }]

theorem checked_overload : overload.check = .ok overloadTyped := rfl

theorem one_agrees :
    overload.check = .ok overloadTyped ∧ one ∈ overloadTyped.functions ∧
      one.returnTypeName = none ∧
      ∃ counted, overload.Counts one counted ∧
        (counted = 0 ↔ Stmt.anyMayReturn one.body = false) ∧ one.ReturnsAgree counted := by
  have member : one ∈ overloadTyped.functions := List.mem_cons_self
  obtain ⟨counted, counts, search, agree⟩ :=
    Program.returnsAgree_iff checked_overload one member rfl
  exact ⟨checked_overload, member, rfl, counted, counts, search, agree.mpr fun _ => rfl⟩

/-- A function called `main` that has a parameter becomes an `int` method, though it returns
nothing. -/
theorem namesake_disagrees :
    Program.ofTokens overloadTokens = .ok overload ∧ overload.check = .ok overloadTyped ∧
      namesake ∈ overloadTyped.functions ∧ namesake.returnTypeName = none ∧
      overload.Counts namesake 0 ∧ namesake.isMain = false ∧
      namesake.toJava.returnType = .single .integer ∧
      Java.Stmt.allReturned namesake.toJava.body = [] := by
  have member : namesake ∈ overloadTyped.functions := List.mem_cons_of_mem _ List.mem_cons_self
  obtain ⟨loaded, last, passes⟩ := Program.passes_of_check checked_overload
  obtain ⟨signature, returned⟩ := passes.returned member
  exact ⟨by with_unfolding_all rfl, checked_overload, member, rfl, returned.counts, rfl, rfl, rfl⟩

end Sample

end Primer
