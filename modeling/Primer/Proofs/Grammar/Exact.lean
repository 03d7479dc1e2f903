import Primer.Proofs.Grammar.Completeness

/-! The rule for programs accepts the phrases of the grammar and nothing else. -/

set_option autoImplicit false

namespace Primer

open Phrase

variable {tokens : List Token} {program : Primer.Program}

/-- The rule for programs returns only at the end of the tokens. -/
theorem Parse.ahead_of_program {cursor after : Cursor}
    (ran : Parse.program cursor = .ok program after) : after.ahead = [] := by
  obtain ⟨globals, first, -, ran⟩ := EStateM.bind_eq_ok.mp ran
  obtain ⟨functions, second, -, ran⟩ := EStateM.bind_eq_ok.mp ran
  obtain ⟨found, _, ⟨rfl⟩, ran⟩ := EStateM.bind_eq_ok.mp ran
  cases found : second.current? with
  | none =>
    rw [found] at ran
    cases ran
    rwa [← Cursor.head?_ahead, List.head?_eq_none_iff] at found
  | some token =>
    rw [found] at ran
    cases ran

theorem Program.phrase_of_ofTokens (regular : ∀ token ∈ tokens, token.Regular)
    (parsed : Program.ofTokens tokens = .ok program) : Phrase.Program tokens program := by
  obtain ⟨last, ran⟩ := ofTokens_eq_ok.mp parsed
  obtain ⟨taken, split, -, spells⟩ := Parse.takes_program _ (by simpa using regular) _ _ ran
  rw [Parse.ahead_of_program ran, List.append_nil, Cursor.ahead_ofTokens] at split
  exact split ▸ spells

theorem Program.ofTokens_of_phrase (regular : ∀ token ∈ tokens, token.Regular)
    (spells : Phrase.Program tokens program) : Program.ofTokens tokens = .ok program := by
  have ran := Parse.reads_program spells (Cursor.ofTokens tokens) (by simp) (by simpa using regular)
  exact ofTokens_eq_ok.mpr ⟨_, ran⟩

/-- Parsing accepts the lists of tokens that the grammar derives, with the tree that it derives for
them and no other, and consumes them to the end. Scanned tokens are regular. -/
theorem Program.ofTokens_exact :
    (∀ source tokens, Token.scan source = .ok tokens → ∀ token ∈ tokens, token.Regular) ∧
      ∀ tokens, (∀ token ∈ tokens, token.Regular) →
        (∀ program, Program.ofTokens tokens = .ok program ↔ Phrase.Program tokens program) ∧
        (∀ first second, Phrase.Program tokens first → Phrase.Program tokens second →
          first = second) ∧
        ∀ program after, Parse.program (Cursor.ofTokens tokens) = .ok program after →
          after.ahead = [] := by
  refine ⟨fun source tokens scanned => Token.regular_of_scan scanned, fun tokens regular => ?_⟩
  refine ⟨fun program => ⟨phrase_of_ofTokens regular, ofTokens_of_phrase regular⟩, ?_,
    fun program after ran => Parse.ahead_of_program ran⟩
  intro first second spellsFirst spellsSecond
  have same := ofTokens_of_phrase regular spellsFirst
  rw [ofTokens_of_phrase regular spellsSecond] at same
  exact (Except.ok.inj same).symm

namespace Sample

def branchTokens : List Token :=
  [⟨.identifier, "fun", 0, 3⟩, ⟨.identifier, "f", 4, 5⟩, ⟨.operator, "(", 5, 6⟩,
    ⟨.identifier, "a", 6, 7⟩, ⟨.operator, ":", 7, 8⟩, ⟨.identifier, "Any", 9, 12⟩,
    ⟨.operator, ")", 12, 13⟩, ⟨.identifier, "do", 14, 16⟩, ⟨.identifier, "if", 17, 19⟩,
    ⟨.identifier, "a", 20, 21⟩, ⟨.identifier, "do", 22, 24⟩, ⟨.identifier, "else", 25, 29⟩,
    ⟨.identifier, "end", 30, 33⟩, ⟨.identifier, "end", 34, 37⟩]

/-- An empty `else` leaves no trace in the tree. -/
def branch : Primer.Program where
  globals := []
  functions :=
    [{ name := "f", parameters := ["a"], parameterTypes := ["Any"], returnTypeName := none
       body := [.conditional (.named "a" none none) [] []], binding := none }]

theorem branch_derived :
    Token.scan "fun f(a: Any) do if a do else end end" = .ok branchTokens ∧
      Program.ofTokens branchTokens = .ok branch ∧ Phrase.Program branchTokens branch := by
  have scanned : Token.scan "fun f(a: Any) do if a do else end end" = .ok branchTokens := by
    with_unfolding_all rfl
  have parsed : Program.ofTokens branchTokens = .ok branch := by with_unfolding_all rfl
  have regular := Program.ofTokens_exact.1 _ _ scanned
  exact ⟨scanned, parsed, ((Program.ofTokens_exact.2 _ regular).1 branch).mp parsed⟩

end Sample

end Primer
