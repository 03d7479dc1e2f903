import Primer.Proofs.Grammar.Statement
import Primer.Proofs.Tree.Paths

/-! Programs that the grammar can spell.

Every parameter comes with the name of its type, and every switch ends with its default case.
-/

set_option autoImplicit false

namespace Primer

namespace Parse

/-- Every switch within has a default case. -/
abbrev Complete (statement : Stmt) : Prop :=
  statement.Every (fun _ => True) Stmt.hasDefault

theorem everyIn_cases {cases : List Case}
    (all : ∀ arm ∈ cases, Arm (fun _ => True) Complete arm) :
    Case.EveryIn (fun _ => True) Stmt.hasDefault cases := by
  induction cases with
  | nil => trivial
  | cons first rest ih =>
    have head := all first List.mem_cons_self
    have tail := ih fun arm member => all arm (List.mem_cons_of_mem _ member)
    cases first with
    | matching value body => exact ⟨value.every_true, Stmt.everyIn_of_forall head.2, tail⟩
    | otherwise body => exact ⟨Stmt.everyIn_of_forall head, tail⟩

theorem assembles_complete : Assembles (fun _ => True) Complete where
  declaration _ := ⟨trivial, fun given _ => given.every_true⟩
  conditional {condition _ _} _ thenBody elseBody :=
    ⟨trivial, condition.every_true, Stmt.everyIn_of_forall thenBody,
      Stmt.everyIn_of_forall elseBody⟩
  loop {condition _} _ body := ⟨trivial, condition.every_true, Stmt.everyIn_of_forall body⟩
  switch {condition _ body} _ arms :=
    ⟨⟨.otherwise body, List.mem_append_right _ (List.mem_singleton.mpr rfl), rfl⟩,
      condition.every_true, everyIn_cases arms⟩
  returns {value} _ := ⟨trivial, value.every_true⟩
  assignment {receiver value} _ _ := ⟨trivial, receiver.every_true, value.every_true⟩
  expression {value} _ := ⟨trivial, value.every_true⟩

theorem yields_expression : Yields expression fun _ => True := by
  have spelled : Yields expression (Spells fun _ => True) := ensures_expression fun _ _ _ => trivial
  exact spelled.mono fun _ _ => trivial

end Parse

theorem Program.proper_of_ofTokens {tokens : List Token} {program : Program}
    (parsed : Program.ofTokens tokens = .ok program) :
    ∀ function ∈ program.functions, function.Proper := by
  obtain ⟨-, functions⟩ :=
    Parse.fresh_of_ofTokens Parse.assembles_complete Parse.yields_expression parsed
  intro function member
  have fresh := functions function member
  exact ⟨fresh.parameters, Stmt.everyIn_of_forall fresh.body⟩

end Primer
