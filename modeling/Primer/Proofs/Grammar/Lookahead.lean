import Primer.Proofs.Grammar.Progress

/-! One token of lookahead. What a rule makes of the tokens is settled by those that it has passed
and by the one where it stands, or by the end of the list if it stands there. In particular an error
is the same whatever comes behind the token at which it is found.
-/

set_option autoImplicit false

namespace Primer

/-- Two lists that cannot be told apart by one who stands behind so many of their tokens. -/
structure Token.AgreeUpTo (first second : List Token) (count : Nat) : Prop where
  passed : first.take count = second.take count
  current : first[count]? = second[count]?

def Cursor.behind (tokens : List Token) (position : Nat) : Cursor :=
  { tokens := tokens.toArray, position }

theorem Token.AgreeUpTo.shares {first second : List Token} {cursor : Cursor}
    (agree : AgreeUpTo first second cursor.position) (stays : cursor.tokens = first.toArray) :
    cursor.Shares second.toArray := by
  intro index before
  rw [stays, List.getElem?_toArray, List.getElem?_toArray]
  rcases Nat.lt_or_eq_of_le before with passed | rfl
  · have same := congrArg (·[index]?) agree.passed
    simpa only [List.getElem?_take_of_lt passed] using same.symm
  · exact agree.current.symm

namespace Parse

variable {α : Type} {tokens : Array Token} {failing : Nat} {rule other : Parse α}
  {count : α → Nat} {cursor last : Cursor}

theorem Follows.of_ok {value : α} (follows : Follows tokens failing rule other count cursor)
    (ran : rule cursor = .ok value last) (shares : last.Shares tokens) :
    other (cursor.on tokens) = .ok value (last.on tokens) := by
  have same := follows.same
  rw [ran] at same
  exact same shares

theorem Follows.of_error {error : SyntaxError}
    (follows : Follows tokens failing rule other count cursor)
    (ran : rule cursor = .error error last) (shares : last.Shares tokens) :
    other (cursor.on tokens) = .error error (last.on tokens) := by
  have same := follows.same
  rw [ran] at same
  exact same shares

theorem Follows.reaches {value : α} (follows : Follows tokens failing rule other count cursor)
    (ran : rule cursor = .ok value last) : cursor.Reaches (count value) last := by
  have lands := follows.lands
  rwa [ran] at lands

theorem Follows.reaches_of_error {error : SyntaxError}
    (follows : Follows tokens failing rule other count cursor)
    (ran : rule cursor = .error error last) : cursor.Reaches 0 last := by
  have lands := follows.lands
  rw [ran] at lands
  exact lands.reaches

/-- What a rule returns on one list it returns on every list that looks the same from its end. -/
theorem Parallel.ok_of_agree {first second : List Token} {start : Nat} {value : α}
    (parallel : Parallel first.toArray second.toArray 0 failing rule rule count)
    (inside : start ≤ first.length) (ran : rule (.behind first start) = .ok value last)
    (agree : Token.AgreeUpTo first second last.position) :
    rule (.behind second start) = .ok value (.behind second last.position) := by
  have follows := parallel (.behind first start) rfl (Nat.zero_le _) inside
  exact follows.of_ok ran (agree.shares (follows.reaches ran).tokens)

/-- The globals and functions in front of the error are the same, and then the error is. -/
theorem program_error (tokens : Array Token) {error : SyntaxError} (within : cursor.Within)
    (failed : program cursor = .error error last) :
    cursor.Reaches 0 last ∧
      (last.Shares tokens → program (cursor.on tokens) = .error error (last.on tokens)) := by
  have globals : Follows tokens 1 (collect global?) (collect global?) (fun _ => 0) cursor :=
    parallel_collect parallel_global? cursor rfl (Nat.zero_le _) within
  -- What is shared up to the error is shared up to all that was read before it.
  rcases program_eq_error.mp failed with failed | ⟨values, middle, ran, rest⟩
  · refine ⟨globals.reaches_of_error failed, fun shares => program_eq_error.mpr ?_⟩
    exact .inl (globals.of_error failed shares)
  · have front := globals.reaches ran
    have functions : Follows tokens 1 (collect function?) (collect function?) (fun _ => 0) middle :=
      parallel_collect parallel_function? middle rfl (Nat.zero_le _) front.within
    rcases rest with failed | ⟨bodies, token, returned, found, isUnexpected⟩
    · have back := functions.reaches_of_error failed
      refine ⟨front.trans back, fun shares => program_eq_error.mpr ?_⟩
      exact .inr ⟨values, _, globals.of_ok ran (shares.earlier back),
        .inl (functions.of_error failed shares)⟩
    · have back := functions.reaches returned
      refine ⟨front.trans back, fun shares => program_eq_error.mpr ?_⟩
      exact .inr ⟨values, _, globals.of_ok ran (shares.earlier back),
        .inr ⟨bodies, token, functions.of_ok returned shares, shares.current?.trans found,
          isUnexpected⟩⟩

/-- A program fails as it does, and a statement or an expression is read as it is, whatever comes
behind the token at which the reading ends. -/
theorem looks_one_token_ahead (first second : List Token) :
    (∀ error after, program (.ofTokens first) = .error error after →
      Token.AgreeUpTo first second after.position →
        program (.ofTokens second) = .error error (.behind second after.position)) ∧
      ∀ start ≤ first.length,
        (∀ tree after, statement (.behind first start) = .ok tree after →
          Token.AgreeUpTo first second after.position →
            statement (.behind second start) = .ok tree (.behind second after.position)) ∧
        ∀ tree after, expression (.behind first start) = .ok tree after →
          Token.AgreeUpTo first second after.position →
            expression (.behind second start) = .ok tree (.behind second after.position) := by
  refine ⟨fun error after failed agree => ?_, fun start inside => ?_⟩
  · have within : (Cursor.ofTokens first).Within := Nat.zero_le _
    obtain ⟨reaches, same⟩ := program_error second.toArray within failed
    exact same (agree.shares reaches.tokens)
  · exact ⟨fun _ _ => parallel_statement.ok_of_agree inside,
      fun _ _ => parallel_expression.ok_of_agree inside⟩

end Parse

namespace Sample

/-- `val a ;`, and more behind the missing value. -/
def valueless (rest : List Token) : List Token :=
  [⟨.identifier, "val", 0, 3⟩, ⟨.identifier, "a", 4, 5⟩, ⟨.operator, ";", 5, 6⟩] ++ rest

/-- `a = b ; c`, and more behind the next statement. -/
def assigned (rest : List Token) : List Token :=
  [⟨.identifier, "a", 0, 1⟩, ⟨.operator, "=", 2, 3⟩, ⟨.identifier, "b", 4, 5⟩,
    ⟨.operator, ";", 5, 6⟩, ⟨.identifier, "c", 7, 8⟩] ++ rest

def closing : List Token :=
  [⟨.operator, ")", 20, 21⟩]

theorem reads_alike_before_closing :
    (Token.AgreeUpTo (valueless []) (valueless closing) 2 ∧
      Token.AgreeUpTo (assigned []) (assigned closing) 4 ∧
      Token.AgreeUpTo (assigned []) (assigned closing) 3) ∧
    let missing : SyntaxError := { cause := .missingValue "a", position := 5 }
    let assignment : Stmt := .assignment (.named "a" none none) (.named "b" none none)
    (Parse.program (.ofTokens (valueless [])) = .error missing (.behind (valueless []) 2) ∧
      Parse.program (.ofTokens (valueless closing)) =
        .error missing (.behind (valueless closing) 2)) ∧
    (Parse.statement (.behind (assigned []) 0) = .ok assignment (.behind (assigned []) 4) ∧
      Parse.statement (.behind (assigned closing) 0) =
        .ok assignment (.behind (assigned closing) 4)) ∧
    (Parse.expression (.behind (assigned []) 2) =
        .ok (.named "b" none none) (.behind (assigned []) 3) ∧
      Parse.expression (.behind (assigned closing) 2) =
        .ok (.named "b" none none) (.behind (assigned closing) 3)) := by
  have before : Token.AgreeUpTo (valueless []) (valueless closing) 2 := ⟨rfl, rfl⟩
  have behind : Token.AgreeUpTo (assigned []) (assigned closing) 4 := ⟨rfl, rfl⟩
  have inside : Token.AgreeUpTo (assigned []) (assigned closing) 3 := ⟨rfl, rfl⟩
  have fails : Parse.program (.ofTokens (valueless [])) =
      .error { cause := .missingValue "a", position := 5 } (.behind (valueless []) 2) := by
    with_unfolding_all rfl
  have assigns : Parse.statement (.behind (assigned []) 0) =
      .ok (.assignment (.named "a" none none) (.named "b" none none))
        (.behind (assigned []) 4) := by
    with_unfolding_all rfl
  have names : Parse.expression (.behind (assigned []) 2) =
      .ok (.named "b" none none) (.behind (assigned []) 3) := by
    with_unfolding_all rfl
  obtain ⟨program, -⟩ := Parse.looks_one_token_ahead (valueless []) (valueless closing)
  obtain ⟨-, phrases⟩ := Parse.looks_one_token_ahead (assigned []) (assigned closing)
  exact ⟨⟨before, behind, inside⟩, ⟨fails, program _ _ fails before⟩,
    ⟨assigns, (phrases 0 (by decide)).1 _ _ assigns behind⟩,
    ⟨names, (phrases 2 (by decide)).2 _ _ names inside⟩⟩

end Sample

end Primer
