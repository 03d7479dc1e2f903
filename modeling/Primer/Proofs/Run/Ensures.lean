import Primer.Proofs.Run.Growth

/-! Postconditions of computations on a machine.

A computation ensures something of its result and of the machine it leaves, and that any error is
among the tolerated ones. A computation that runs out of fuel has no result and ensures anything.
-/

set_option autoImplicit false

namespace Primer

def Halt.Within (tolerates : RunError → Prop) : Halt → Prop
  | .error cause => tolerates cause
  | .outOfFuel => True

namespace Eval

variable {α β : Type} {tolerates : RunError → Prop}

def Ensures (tolerates : RunError → Prop) (work : Eval α) (machine : Machine)
    (post : α → Machine → Prop) : Prop :=
  match work machine with
  | .ok value after => post value after
  | .error halt _ => halt.Within tolerates

namespace Ensures

variable {work : Eval α} {machine : Machine} {post : α → Machine → Prop}

theorem of_ok {value : α} {after : Machine} (ensures : work.Ensures tolerates machine post)
    (ran : work machine = .ok value after) : post value after := by
  unfold Ensures at ensures
  rw [ran] at ensures
  exact ensures

theorem of_error {error : RunError} {after : Machine}
    (ensures : work.Ensures tolerates machine post)
    (ran : work machine = .error (.error error) after) : tolerates error := by
  unfold Ensures at ensures
  rw [ran] at ensures
  exact ensures

theorem mono {weaker : α → Machine → Prop} (ensures : work.Ensures tolerates machine post)
    (weaken : ∀ value after, post value after → weaker value after) :
    work.Ensures tolerates machine weaker := by
  unfold Ensures at ensures ⊢
  cases ran : work machine with
  | ok value after =>
    rw [ran] at ensures
    exact weaken value after ensures
  | error halt after =>
    rw [ran] at ensures
    exact ensures

theorem bind {next : α → Eval β} {middle : α → Machine → Prop} {post : β → Machine → Prop}
    (first : work.Ensures tolerates machine middle)
    (rest : ∀ value after, middle value after → (next value).Ensures tolerates after post) :
    (work >>= next).Ensures tolerates machine post := by
  unfold Ensures at first
  cases ran : work machine with
  | ok value after =>
    rw [ran] at first
    have second := rest value after first
    have joined : (work >>= next) machine = next value after := by
      simp only [Bind.bind, EStateM.bind, ran]
    unfold Ensures at second ⊢
    rw [joined]
    exact second
  | error halt after =>
    rw [ran] at first
    have stopped : (work >>= next) machine = .error halt after := by
      simp only [Bind.bind, EStateM.bind, ran]
    unfold Ensures
    rw [stopped]
    exact first

theorem and_keeps (ensures : work.Ensures tolerates machine post) (keeps : work.Keeps) :
    work.Ensures tolerates machine fun value after => machine.Keeps after ∧ post value after := by
  have kept := keeps machine
  unfold Ensures at ensures ⊢
  unfold after at kept
  cases ran : work machine with
  | ok value after =>
    rw [ran] at ensures kept
    exact ⟨kept, ensures⟩
  | error halt after =>
    rw [ran] at ensures
    exact ensures

end Ensures

theorem ensures_pure {value : α} {machine : Machine} {post : α → Machine → Prop}
    (holds : post value machine) : (pure value : Eval α).Ensures tolerates machine post :=
  holds

theorem ensures_fail {error : RunError} {machine : Machine} {post : α → Machine → Prop}
    (tolerated : tolerates error) : (fail error : Eval α).Ensures tolerates machine post :=
  tolerated

theorem ensures_outOfFuel {machine : Machine} {post : α → Machine → Prop} :
    (throw Halt.outOfFuel : Eval α).Ensures tolerates machine post :=
  trivial

theorem ensures_get {machine : Machine} :
    (get : Eval Machine).Ensures tolerates machine
      fun value after => machine = value ∧ machine = after :=
  ⟨rfl, rfl⟩

theorem ensures_modify {change : Machine → Machine} {machine : Machine} :
    (modify change : Eval Unit).Ensures tolerates machine
      fun _ after => after = change machine :=
  rfl

theorem ensures_inChild {outer : Chain} {work : Eval α} {machine : Machine}
    {post : α → Machine → Prop}
    (inner : work.Ensures tolerates (machine.inside outer)
      fun value after => post value (after.comeBack machine.scopes.current)) :
    (inChild outer work).Ensures tolerates machine post := by
  unfold Ensures at inner ⊢
  rw [inChild_eq]
  cases ran : work (machine.inside outer) with
  | ok value after =>
    rw [ran] at inner
    exact inner
  | error halt after =>
    rw [ran] at inner
    exact inner

theorem ensures_inScope {work : Eval α} {machine : Machine} {post : α → Machine → Prop}
    (inner : work.Ensures tolerates (machine.inside machine.scopes.current)
      fun value after => post value (after.comeBack machine.scopes.current)) :
    (inScope work).Ensures tolerates machine post :=
  ensures_inChild inner

end Eval

end Primer
