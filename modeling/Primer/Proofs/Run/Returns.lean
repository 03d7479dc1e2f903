import Primer.Proofs.Run.Ensures
import Primer.Proofs.Tree.Paths

/-! Runs of bodies that return on every path.

A switch that has a default case executes one of its bodies, so nothing lets the end of such a body
be reached.
-/

set_option autoImplicit false

namespace Primer

open Eval

abbrev Eval.Yields {α : Type} (work : Eval α) (machine : Machine) (good : α → Prop) : Prop :=
  work.Ensures (fun _ => True) machine fun value _ => good value

theorem Eval.yields_anything {α : Type} (work : Eval α) (machine : Machine) :
    work.Yields machine fun _ => True := by
  unfold Yields Ensures
  cases work machine with
  | ok => trivial
  | error halt => cases halt <;> trivial

theorem Eval.Ensures.and_yields {α : Type} {tolerates : RunError → Prop} {work : Eval α}
    {machine : Machine} {post : α → Machine → Prop} {good : α → Prop}
    (ensures : work.Ensures tolerates machine post) (yields : work.Yields machine good) :
    work.Ensures tolerates machine fun value after => post value after ∧ good value := by
  unfold Yields Ensures at yields
  unfold Ensures at ensures ⊢
  cases ran : work machine with
  | ok value after =>
    rw [ran] at ensures yields
    exact ⟨ensures, yields⟩
  | error halt after =>
    rw [ran] at ensures
    exact ensures

theorem Eval.Yields.bind {α β : Type} {work : Eval α} {next : α → Eval β} {machine : Machine}
    {good : β → Prop} (rest : ∀ value after, (next value).Yields after good) :
    (work >>= next).Yields machine good :=
  Ensures.bind (yields_anything work machine) fun value after _ => rest value after

section returning

variable {call : Call} {onExpr : Expr → Prop}

mutual

theorem Stmt.returning_of_alwaysReturns (fuel : Nat) (machine : Machine) :
    (statement : Stmt) → statement.Every onExpr Stmt.hasDefault → statement.alwaysReturns →
    (statement.execute call fuel).Yields machine (· ≠ .next)
  | .returns _, _, _ => by
    unfold Stmt.execute
    refine Yields.bind fun value after => ?_
    exact ensures_pure nofun
  | .conditional _ thenBody elseBody, every, returns => by
    obtain ⟨thenReturns, elseReturns⟩ := Bool.and_eq_true_iff.mp returns
    unfold Stmt.execute
    refine Yields.bind fun holds after => ?_
    cases holds with
    | true =>
      exact ensures_inScope
        (Stmt.returning_of_allPathsReturn fuel _ thenBody every.2.2.1 thenReturns)
    | false =>
      exact ensures_inScope
        (Stmt.returning_of_allPathsReturn fuel _ elseBody every.2.2.2 elseReturns)
  | .switch _ cases, every, returns => by
    unfold Stmt.execute
    refine Yields.bind fun scrutinee after => ?_
    exact Case.returning_of_allBodiesReturn fuel scrutinee after cases every.2.2 every.1 returns

theorem Stmt.returning_of_allPathsReturn (fuel : Nat) (machine : Machine) :
    (statements : List Stmt) → Stmt.EveryIn onExpr Stmt.hasDefault statements →
    Stmt.allPathsReturn statements →
    (Stmt.executeAll call fuel statements).Yields machine (· ≠ .next)
  | [], _, returns => nomatch returns
  | first :: rest, every, returns => by
    unfold Stmt.executeAll
    rcases Bool.or_eq_true_iff.mp returns with here | later
    · apply Ensures.bind (Stmt.returning_of_alwaysReturns fuel machine first every.1 here)
      rintro control after returning
      cases control with
      | next => exact absurd rfl returning
      | returning value => exact ensures_pure nofun
    · refine Yields.bind fun control after => ?_
      cases control with
      | next => exact Stmt.returning_of_allPathsReturn fuel after rest every.2 later
      | returning value => exact ensures_pure nofun

theorem Case.returning_of_allBodiesReturn (fuel : Nat) (scrutinee : Value) (machine : Machine) :
    (cases : List Case) → Case.EveryIn onExpr Stmt.hasDefault cases →
    (∃ last ∈ cases, last.isDefault) → Case.allBodiesReturn cases →
    (Case.select call fuel scrutinee cases).Yields machine (· ≠ .next)
  | [], _, complete, _ => by
    obtain ⟨_, member, -⟩ := complete
    cases member
  | .matching _ body :: rest, every, complete, returns => by
    obtain ⟨bodyReturns, restReturn⟩ := Bool.and_eq_true_iff.mp returns
    unfold Case.select
    refine Yields.bind fun candidate after => ?_
    cases candidate.equal scrutinee with
    | true =>
      exact ensures_inScope
        (Stmt.returning_of_allPathsReturn fuel _ body every.2.1 bodyReturns)
    | false =>
      exact Case.returning_of_allBodiesReturn fuel scrutinee after rest every.2.2
        (Case.default_of_matching complete) restReturn
  | .otherwise body :: _, every, _, returns =>
    ensures_inScope
      (Stmt.returning_of_allPathsReturn fuel _ body every.1 (Bool.and_eq_true_iff.mp returns).1)

end

end returning

end Primer
