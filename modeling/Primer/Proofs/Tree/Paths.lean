import Primer.Proofs.Tree.Every

/-! Paths through the bodies of functions.

A body returns on every path if one of its statements does: a return, a condition with two such
branches, or a switch with such bodies only.
-/

set_option autoImplicit false

namespace Primer

mutual

def Stmt.alwaysReturns : Stmt → Bool
  | .returns _ => true
  | .conditional _ thenBody elseBody =>
    Stmt.allPathsReturn thenBody && Stmt.allPathsReturn elseBody
  | .switch _ cases => Case.allBodiesReturn cases
  | .expression _ | .declaration .. | .assignment .. | .loop .. => false

def Stmt.allPathsReturn : List Stmt → Bool
  | [] => false
  | first :: rest => first.alwaysReturns || Stmt.allPathsReturn rest

def Case.allBodiesReturn : List Case → Bool
  | [] => true
  | .matching _ body :: cases | .otherwise body :: cases =>
    Stmt.allPathsReturn body && Case.allBodiesReturn cases

end

def Case.isDefault : Case → Bool
  | .otherwise _ => true
  | .matching _ _ => false

theorem Case.default_of_matching {value : Expr} {body : List Stmt} {rest : List Case}
    (complete : ∃ last ∈ matching value body :: rest, last.isDefault) :
    ∃ last ∈ rest, last.isDefault := by
  obtain ⟨last, member, isLast⟩ := complete
  rcases List.mem_cons.mp member with rfl | later
  · cases isLast
  · exact ⟨last, later, isLast⟩

def Stmt.hasDefault : Stmt → Prop
  | .switch _ cases => ∃ last ∈ cases, last.isDefault
  | _ => True

/-- What the grammar makes sure of: every parameter has a type, every switch a default case. -/
structure Function.Proper (function : Function) : Prop where
  parameters : function.parameters.length = function.parameterTypes.length
  defaults : Stmt.EveryIn (fun _ => True) Stmt.hasDefault function.body

end Primer
