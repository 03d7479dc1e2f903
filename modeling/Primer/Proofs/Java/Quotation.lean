import Primer.Java.Text
import Primer.Proofs.Grammar.Spelling
import Primer.Proofs.Token.Shape
import Primer.Token.Scan

/-! Quoted literals read back.

Escaping a text leaves no line break in it and closes no quote early, so a quoted literal of the
translation is one lexeme of the source language, and its value is what was escaped.
-/

set_option autoImplicit false

namespace Primer

namespace Text

theorem escape_cons (c : Char) (rest : List Char) :
    escape (c :: rest) = escape [c] ++ escape rest := by
  simp [escape]

theorem escape_of_letter {c letter : Char} (found : escapeLetter? c = some letter) :
    escape [c] = ['\\', letter] := by
  simp [escape, found]

theorem escape_of_plain {c : Char} (found : escapeLetter? c = none) : escape [c] = [c] := by
  simp [escape, found]

theorem visible_of_escapeLetter? {c letter : Char} (found : escapeLetter? c = some letter) :
    letter ≠ '\n' ∧ letter ≠ '\r' := by
  unfold escapeLetter? at found
  grind

/-- What is not escaped is no line break, no quote and no backslash. -/
theorem plain_of_escapeLetter? {c : Char} (found : escapeLetter? c = none) :
    (c ≠ '\n' ∧ c ≠ '\r') ∧ (c ≠ '\'' ∧ c ≠ '"') ∧ c ≠ '\\' := by
  refine ⟨⟨?_, ?_⟩, ⟨?_, ?_⟩, ?_⟩ <;>
  · rintro rfl
    simp [escapeLetter?] at found

theorem line_escape (text : List Char) : ∀ c ∈ escape text, c ≠ '\n' ∧ c ≠ '\r' := by
  induction text with
  | nil => nofun
  | cons first rest ih =>
    intro c member
    rw [escape_cons, List.mem_append] at member
    rcases member with here | later
    · cases found : escapeLetter? first with
      | none =>
        rw [escape_of_plain found, List.mem_singleton] at here
        exact here ▸ (plain_of_escapeLetter? found).1
      | some letter =>
        simp only [escape_of_letter found, List.mem_cons, List.not_mem_nil, or_false] at here
        rcases here with rfl | rfl
        · decide
        · exact visible_of_escapeLetter? found
    · exact ih c later

end Text

open Lexeme

section quotes

variable {quote : Char}

theorem isUnit_escape (isQuote : quote = '\'' ∨ quote = '"') (c : Char) :
    IsUnit quote (Text.escape [c]) := by
  cases found : Text.escapeLetter? c with
  | none =>
    rw [Text.escape_of_plain found]
    obtain ⟨⟨line, -⟩, ⟨single, double⟩, backslash⟩ := Text.plain_of_escapeLetter? found
    refine .plain ?_ backslash line
    rcases isQuote with rfl | rfl
    · exact single
    · exact double
  | some letter =>
    rw [Text.escape_of_letter found]
    exact .escaped (Text.visible_of_escapeLetter? found).1

theorem areUnits_escape (isQuote : quote = '\'' ∨ quote = '"') (text : List Char) :
    AreUnits quote (Text.escape text) := by
  induction text with
  | nil => exact .nil
  | cons c rest ih =>
    rw [Text.escape_cons]
    exact .cons (isUnit_escape isQuote c) ih

theorem head?_of_isCharacter {text : List Char} (shaped : IsCharacter text) (afterOperand : Bool) :
    head? afterOperand text = some (ofKind .character text) := by
  have read := head?_append_of_isCharacter shaped afterOperand []
  rwa [List.append_nil] at read

theorem head?_of_isString {text : List Char} (shaped : IsString text) (afterOperand : Bool) :
    head? afterOperand text = some (ofKind .string text) := by
  have read := head?_append_of_isString shaped afterOperand []
  rwa [List.append_nil] at read

theorem unquote?_quoted (quote : Char) (inside : List Char) :
    Literal.unquote? quote (quote :: (inside ++ [quote])) = Text.unescape? inside := by
  simp [Literal.unquote?]

end quotes

/-- A text that is one lexeme is scanned as one token. -/
theorem Token.scan_whole {text : List Char} {kind : Token.Kind} (nonempty : text ≠ [])
    (found : head? false text = some (ofKind kind text)) :
    ∃ token : Token, scan (String.ofList text) = .ok [token] ∧ token.kind = kind ∧
      token.value = String.ofList text := by
  rw [scan, String.toList_ofList]
  cases text with
  | nil => exact absurd rfl nonempty
  | cons c rest =>
    rw [scanFrom]
    simp only [List.head?_nil, Option.any_none]
    split
    case h_1 none =>
      rw [found] at none
      cases none
    case h_2 lexeme some =>
      rw [found] at some
      cases some
      simp only [ofKind, List.drop_length]
      rw [scanFrom]
      exact ⟨_, rfl, rfl, rfl⟩

/-- The translation of a quoted literal reads back: it stays on its line, scans as one token of the
given kind, and wherever that token stands, the operand there is the literal. -/
structure Literal.ReadsBack (value : Literal) (kind : Token.Kind) : Prop where
  line : ∀ c ∈ value.javaText.toList, c ≠ '\n' ∧ c ≠ '\r'
  token : ∃ token : Token, Token.scan value.javaText = .ok [token] ∧ token.kind = kind ∧
    token.value = value.javaText ∧
    ∀ (inner : Parse Expr) (cursor : Cursor), cursor.current? = some token →
      Parse.primary inner cursor = .ok (.literal value none) cursor.next

/-- Where a token spells a literal, that literal is the operand. -/
theorem Parse.primary_literal {inner : Parse Expr} {cursor : Cursor} {token : Token}
    {value : Literal} (found : cursor.current? = some token)
    (spells : Phrase.literal? token = some value) :
    primary inner cursor = .ok (.literal value none) cursor.next := by
  have looked : current? cursor = .ok (some token) cursor :=
    congrArg (EStateM.Result.ok · cursor) found
  refine EStateM.bind_eq_ok.mpr ⟨_, cursor, looked, ?_⟩
  rw [Option.map_some]
  unfold Phrase.literal? at spells
  cases kind : token.kind <;> simp only [kind] at spells ⊢
  case identifier | operator => cases spells
  all_goals
    refine EStateM.bind_eq_ok.mpr ⟨token, cursor.next, advance_eq found, ?_⟩
    simp only [spells]
    rfl

/-- An escaped text between quotes reads back as the literal that its kind of token spells. -/
theorem Literal.readsBack_of_quoted {value : Literal} {kind : Token.Kind} {quote : Char}
    {inside : List Char} (isQuote : quote = '\'' ∨ quote = '"')
    (quoted : value.javaText.toList = quote :: (Text.escape inside ++ [quote]))
    (found : head? false value.javaText.toList = some (ofKind kind value.javaText.toList))
    (spells : ∀ token : Token, token.kind = kind → token.value = value.javaText →
      Phrase.literal? token = some value) : value.ReadsBack kind := by
  constructor
  · intro c member
    rw [quoted, List.mem_cons, List.mem_append, List.mem_singleton] at member
    have isLine : quote ≠ '\n' ∧ quote ≠ '\r' := by rcases isQuote with rfl | rfl <;> decide
    rcases member with rfl | within | rfl
    · exact isLine
    · exact Text.line_escape inside c within
    · exact isLine
  · have nonempty : value.javaText.toList ≠ [] := by
      rw [quoted]
      exact List.cons_ne_nil _ _
    obtain ⟨token, scanned, isKind, isText⟩ := Token.scan_whole nonempty found
    rw [String.ofList_toList] at scanned isText
    refine ⟨token, scanned, isKind, isText, fun inner cursor current => ?_⟩
    exact Parse.primary_literal current (spells token isKind isText)

theorem Literal.toList_javaText_string (text : String) :
    (string text).javaText.toList = '"' :: (Text.escape text.toList ++ ['"']) := by
  simp [javaText]

theorem Literal.toList_javaText_character (c : Char) :
    (character c).javaText.toList = '\'' :: (Text.escape [c] ++ ['\'']) := by
  simp [javaText]

/-- Escaping, scanning and parsing agree: a string or a character literal, whatever its content,
is translated to a text that reads back as the same literal. -/
theorem Literal.readsBack (text : String) (c : Char) :
    (string text).ReadsBack .string ∧ (character c).ReadsBack .character := by
  constructor
  · have quoted := toList_javaText_string text
    refine readsBack_of_quoted (.inr rfl) quoted ?_ fun token isKind isText => ?_
    · rw [quoted]
      exact head?_of_isString ⟨_, areUnits_escape (.inr rfl) _, rfl⟩ false
    · simp only [Phrase.literal?, isKind, isText]
      rw [quoted, string?, unquote?_quoted, Text.unescape?_escape, Option.map_some,
        String.ofList_toList]
  · have quoted := toList_javaText_character c
    refine readsBack_of_quoted (.inl rfl) quoted ?_ fun token isKind isText => ?_
    · rw [quoted]
      exact head?_of_isCharacter ⟨_, isUnit_escape (.inl rfl) c, rfl⟩ false
    · simp only [Phrase.literal?, isKind, isText]
      rw [quoted, character?, unquote?_quoted, Text.unescape?_escape]

end Primer
