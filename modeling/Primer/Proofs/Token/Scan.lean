import Primer.Proofs.Token.Shape
import Primer.Token.Scan

/-! Tokens as scanning makes them.

The text of a scanned token belongs to the lexical class of its kind. So only identifiers spell
reserved words, and only operators spell punctuation.
-/

set_option autoImplicit false

namespace Primer

open Lexeme

namespace Token

theorem scanFrom_append (position : Nat) {read : List Token} (lexeme : Lexeme) {rest : List Char}
    (found : head? (read.head?.any endsOperand) (lexeme.text ++ rest) = some lexeme) :
    scanFrom position read (lexeme.text ++ rest) =
      scanFrom (position + Text.byteLength lexeme.text)
        ((lexeme.token? position).toList ++ read) rest := by
  obtain ⟨c, more, isText⟩ := List.exists_cons_of_ne_nil (head?_ne_nil found)
  have whole : lexeme.text ++ rest = c :: (more ++ rest) := by rw [isText, List.cons_append]
  rw [whole] at found ⊢
  rw [scanFrom]
  split
  case h_1 none =>
    rw [found] at none
    cases none
  case h_2 other some =>
    rw [found] at some
    cases some
    rw [← whole, List.drop_left]

theorem shapes_of_scanFrom {position : Nat} {read tokens : List Token} {text : List Char}
    (scanned : scanFrom position read text = .ok tokens)
    (before : ∀ token ∈ read, token.kind.Shapes token.value.toList) :
    ∀ token ∈ tokens, token.kind.Shapes token.value.toList := by
  fun_induction scanFrom position read text with
  | case1 =>
    cases scanned
    exact fun token member => before token (List.mem_reverse.mp member)
  | case2 => cases scanned
  | case3 position read c rest lexeme found ih =>
    refine ih scanned fun token member => ?_
    rcases List.mem_append.mp member with new | old
    · obtain ⟨kind, isKind, rfl⟩ := Option.map_eq_some_iff.mp (Option.mem_toList.mp new)
      rw [String.toList_ofList]
      obtain ⟨_, -, stands⟩ := of_head? found
      rw [Stands, isKind] at stands
      exact stands.1
    · exact before token old

theorem shapes_of_scan {source : String} {tokens : List Token}
    (scanned : scan source = .ok tokens) :
    ∀ token ∈ tokens, token.kind.Shapes token.value.toList :=
  shapes_of_scanFrom scanned nofun

def Spelled (token : Token) : Prop :=
  token.kind = .identifier → IsIdentifier token.value.toList

theorem spelled_of_scan {source : String} {tokens : List Token}
    (scanned : scan source = .ok tokens) : ∀ token ∈ tokens, token.Spelled := by
  intro token member isKind
  have shaped := shapes_of_scan scanned token member
  rwa [isKind] at shaped

def punctuation : List String :=
  ["(", ")", "[", "]", ",", ":", ";", "="]

/-- Reserved words are identifiers and punctuation marks are operators. -/
structure Regular (token : Token) : Prop where
  word : token.value ∈ reservedWords → token.kind = .identifier
  mark : token.value ∈ punctuation → token.kind = .operator

def Kind.admits : Kind → List Char → Bool
  | .identifier, text => text.head?.any isNameStart
  | .integer, text | .decimal, text => text.head?.any fun c => c == '-' || c.isDigit
  | .character, text => text.head?.any (· == '\'')
  | .string, text => text.head?.any (· == '"')
  | .operator, text => text.length == 1 ||
      [['=', '='], ['!', '='], ['&', '&'], ['|', '|']].contains text

theorem head?_number {sign digits rest : List Char} (isSign : IsSign sign)
    (isDigits : IsDigits digits) :
    ((sign ++ (digits ++ rest)).head?.any fun c => c == '-' || c.isDigit) = true := by
  rcases isSign with rfl | rfl
  · cases digits with
    | nil => exact absurd rfl isDigits.1
    | cons c more => simp [isDigits.2 c List.mem_cons_self]
  · rfl

theorem admits_of_shapes {kind : Kind} {text : List Char} (shaped : kind.Shapes text) :
    kind.admits text = true := by
  cases kind with
  | identifier =>
    obtain ⟨c, more, rfl, start, -⟩ := shaped
    simpa [Kind.admits] using start
  | integer =>
    obtain ⟨sign, digits, rfl, isSign, isDigits⟩ := shaped
    rw [← List.append_nil digits]
    exact head?_number isSign isDigits
  | decimal =>
    obtain ⟨sign, whole, places, rfl, isSign, isDigits, -⟩ := shaped
    exact head?_number isSign isDigits
  | character =>
    obtain ⟨unit, -, rfl⟩ := shaped
    rfl
  | string =>
    obtain ⟨units, -, rfl⟩ := shaped
    rfl
  | operator =>
    rcases shaped with listed | ⟨c, rfl, -⟩
    · simp only [Kind.admits, List.contains_iff_mem.mpr listed, Bool.or_true]
    · rfl

theorem regular_of_shapes {token : Token} (shaped : token.kind.Shapes token.value.toList) :
    token.Regular := by
  have admitted := admits_of_shapes shaped
  -- Every kind is tried on every word; only one kind admits it.
  have words : ∀ word ∈ reservedWords, ∀ kind : Kind,
      kind.admits word.toList = true → kind = .identifier := by
    intro word member kind
    revert word
    cases kind <;> decide
  have marks : ∀ mark ∈ punctuation, ∀ kind : Kind,
      kind.admits mark.toList = true → kind = .operator := by
    intro mark member kind
    revert mark
    cases kind <;> decide
  exact ⟨fun member => words _ member _ admitted, fun member => marks _ member _ admitted⟩

theorem regular_of_scan {source : String} {tokens : List Token}
    (scanned : scan source = .ok tokens) : ∀ token ∈ tokens, token.Regular :=
  fun token member => regular_of_shapes (shapes_of_scan scanned token member)

end Token

end Primer
