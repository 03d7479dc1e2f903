import Primer.Proofs.Run.Expression
import Primer.Proofs.Typing.Visit

/-! The returns of a body.

Checking counts the return statements of a body one by one, at whatever depth they stand, and
refuses those whose value the function may not return.
-/

set_option autoImplicit false

namespace Primer

mutual

def Stmt.returned : Stmt → List Expr
  | .returns value => [value]
  | .conditional _ thenBody elseBody => Stmt.allReturned thenBody ++ Stmt.allReturned elseBody
  | .loop _ body => Stmt.allReturned body
  | .switch _ cases => Case.allReturned cases
  | .expression _ | .declaration .. | .assignment .. => []

def Stmt.allReturned : List Stmt → List Expr
  | [] => []
  | first :: rest => first.returned ++ Stmt.allReturned rest

def Case.allReturned : List Case → List Expr
  | [] => []
  | .matching _ body :: cases | .otherwise body :: cases =>
    Stmt.allReturned body ++ Case.allReturned cases

end

namespace Checker

/-- Return statements with these values lie between two checkers, all of them counted and none
refused. -/
structure Returns (before after : Checker) (values : List Expr) : Prop where
  counted : after.body =
    before.body.map fun body => { body with returns := body.returns + values.length }
  accepted : ∀ body, before.body = some body → ∀ value ∈ values, ∃ type,
    value.type? = some type ∧ body.signature.returnType.accepts type

variable {first second third : Checker} {values others : List Expr}

theorem Returns.of_body (same : second.body = first.body) : first.Returns second [] where
  counted := by
    rw [same]
    cases first.body <;> rfl
  accepted := nofun

theorem Returns.append (left : first.Returns second values)
    (right : second.Returns third others) : first.Returns third (values ++ others) where
  counted := by
    rw [right.counted, left.counted, List.length_append]
    cases first.body with
    | none => rfl
    | some body => simp [Nat.add_assoc]
  accepted body inside value member := by
    rcases List.mem_append.mp member with early | late
    · exact left.accepted body inside value early
    · exact right.accepted { body with returns := body.returns + values.length }
        (by rw [left.counted, inside]; rfl) value late

theorem Returns.comeBack (inner : first.inside.Returns second values) (chain : Chain) :
    first.Returns (second.comeBack chain) values :=
  ⟨inner.counted, inner.accepted⟩

end Checker

open Checker (Returns)

mutual

theorem Stmt.returns_check {before after : Checker} {done : Stmt} : (statement : Stmt) →
    statement.check before = .ok done after → Returns before after done.returned
  | .expression _, checked => by
    obtain ⟨_, _, -, -, rfl, rfl⟩ := Stmt.check_expression checked
    exact .of_body rfl
  | .declaration .., checked => by
    obtain ⟨_, _, -, rfl, rfl⟩ := Stmt.check_declaration checked
    exact .of_body rfl
  | .assignment _ _, checked => by
    obtain ⟨_, _, _, _, -, -, -, rfl, rfl⟩ := Stmt.check_assignment checked
    exact .of_body rfl
  | .conditional _ thenBody elseBody, checked => by
    obtain ⟨_, _, _, _, _, -, -, thenChecked, elseChecked, rfl, rfl⟩ :=
      Stmt.check_conditional checked
    have thenReturns := (Stmt.returns_checkAll thenBody thenChecked).comeBack before.names.current
    exact thenReturns.append ((Stmt.returns_checkAll elseBody elseChecked).comeBack _)
  | .loop _ body, checked => by
    obtain ⟨_, _, _, -, bodyChecked, rfl, rfl⟩ := Stmt.check_loop checked
    exact (Stmt.returns_checkAll body bodyChecked).comeBack _
  | .switch _ cases, checked => by
    obtain ⟨_, _, _, -, casesChecked, rfl⟩ := Stmt.check_switch checked
    exact Case.returns_checkAll cases casesChecked
  | .returns _, checked => by
    obtain ⟨body, _, type, inside, valueChecked, accepted, rfl, rfl⟩ := Stmt.check_returns checked
    refine ⟨by rw [inside]; rfl, fun other also value member => ?_⟩
    cases inside.symm.trans also
    cases List.mem_singleton.mp member
    exact ⟨type, Expr.type?_of_check valueChecked, accepted⟩

theorem Stmt.returns_checkAll {before after : Checker} {done : List Stmt} :
    (statements : List Stmt) → Stmt.checkAll statements before = .ok done after →
    Returns before after (Stmt.allReturned done)
  | [], checked => by
    obtain ⟨rfl, rfl⟩ := Stmt.checkAll_nil checked
    exact .of_body rfl
  | first :: rest, checked => by
    obtain ⟨_, _, _, firstChecked, restChecked, rfl⟩ := Stmt.checkAll_cons checked
    exact (Stmt.returns_check first firstChecked).append (Stmt.returns_checkAll rest restChecked)

theorem Case.returns_checkAll {type : Ty} {before after : Checker} {done : List Case} :
    (cases : List Case) → Case.checkAll type cases before = .ok done after →
    Returns before after (Case.allReturned done)
  | [], checked => by
    obtain ⟨rfl, rfl⟩ := Case.checkAll_nil checked
    exact .of_body rfl
  | .matching _ body :: rest, checked => by
    obtain ⟨_, _, _, _, -, bodyChecked, restChecked, rfl⟩ := Case.checkAll_matching checked
    exact ((Stmt.returns_checkAll body bodyChecked).comeBack _).append
      (Case.returns_checkAll rest restChecked)
  | .otherwise body :: _, checked => by
    obtain ⟨_, _, rfl, bodyChecked, rfl, rfl⟩ := Case.checkAll_otherwise checked
    exact ((Stmt.returns_checkAll body bodyChecked).comeBack _).append (.of_body rfl)

end

/-! ### The body of a function -/

def Program.Counts (program : Program) (function : Function) (counted : Nat) : Prop :=
  ∃ source start last, program.ChecksBody source start ∧
    Stmt.checkAll source.body start = .ok function.body last ∧
    function = { source with body := function.body, binding := function.binding } ∧
    last.body.map Checker.Body.returns = some counted

structure Program.Returned (program : Program) (function : Function) (signature : Signature) :
    Prop where
  bound : function.binding = some signature
  spelled : function.signature = .ok signature
  counts : program.Counts function (Stmt.allReturned function.body).length
  accepted : ∀ value ∈ Stmt.allReturned function.body, ∃ type, value.type? = some type ∧
    signature.returnType.accepts type
  needed : signature.returnType.needsReturn → Stmt.allReturned function.body ≠ []

variable {program typed : Program} {loaded last : Checker}

theorem Program.Passes.returned (passes : program.Passes typed loaded last) {function : Function}
    (member : function ∈ typed.functions) : ∃ signature, program.Returned function signature := by
  obtain ⟨done, others, split⟩ := List.append_of_mem member
  have ran := passes.functions
  rw [split] at ran
  obtain ⟨earlier, source, later, before, next, isSplit, earlierRan, checked, -, -⟩ :=
    EStateM.mapM_split ran
  obtain ⟨signature, final, spelled, -, bodyChecked, missing, same, -⟩ := Check.of_function checked
  have checks : program.ChecksBody source _ :=
    ⟨earlier, later, typed.globals, done, loaded, before, signature, passes.globals, isSplit,
      earlierRan, spelled, rfl⟩
  have returns := Stmt.returns_checkAll source.body bodyChecked
  -- Nothing has been counted when the body is entered.
  have counted : final.body = some
      { signature, returns := (Stmt.allReturned function.body).length } := by
    rw [returns.counted]
    exact congrArg (fun count => some { signature, returns := count : Checker.Body })
      (Nat.zero_add _)
  refine ⟨signature, ?_, ?_, ⟨source, _, final, checks, bodyChecked, ?_, ?_⟩,
    returns.accepted _ rfl, ?_⟩
  · rw [same]
  · rw [same]
    exact spelled
  · rw [same]
  · rw [counted]
    rfl
  · intro needed none
    rw [counted, none] at missing
    rw [missing rfl] at needed
    cases needed

end Primer
