import Primer.Grammar.Expression
import Primer.Proofs.Decimal.Reading
import Primer.Proofs.Token.Shape

/-! What becomes of the texts of literals.

A text that belongs to the class of integers is read as one, and so is a decimal as long as its
places can be counted. The inside of a quoted text is read unless some backslash stands in front of
a character that it gives no meaning to; which backslashes count depends on the ones before them.
-/

set_option autoImplicit false

namespace Primer

namespace Text

def escapable : List Char :=
  ['b', 'n', 'r', 't', '\'', '"', '\\']

/-- Read from the left, a backslash stands in front of a character without a meaning. A backslash
takes the character behind it along, even if this is another backslash. -/
inductive BadlyEscaped : List Char → Prop where
  | here {c : Char} {rest : List Char} (meaningless : c ∉ escapable) :
    BadlyEscaped ('\\' :: c :: rest)
  | behind {c : Char} {rest : List Char} (further : BadlyEscaped rest) :
    BadlyEscaped ('\\' :: c :: rest)
  | plain {c : Char} {rest : List Char} (notBackslash : c ≠ '\\') (further : BadlyEscaped rest) :
    BadlyEscaped (c :: rest)

section escapes

variable {c : Char} {rest : List Char}

theorem badlyEscaped_escape_iff :
    BadlyEscaped ('\\' :: c :: rest) ↔ c ∉ escapable ∨ BadlyEscaped rest := by
  constructor
  · intro bad
    cases bad with
    | here meaningless => exact .inl meaningless
    | behind further => exact .inr further
    | plain notBackslash => exact absurd rfl notBackslash
  · rintro (meaningless | further)
    · exact .here meaningless
    · exact .behind further

theorem badlyEscaped_plain_iff (notBackslash : c ≠ '\\') :
    BadlyEscaped (c :: rest) ↔ BadlyEscaped rest := by
  constructor
  · intro bad
    cases bad with
    | here | behind => exact absurd rfl notBackslash
    | plain _ further => exact further
  · exact .plain notBackslash

theorem escapeMeaning?_eq_none_iff : escapeMeaning? c = none ↔ c ∉ escapable := by
  unfold escapeMeaning?
  split <;> simp_all [escapable]

theorem unescape?_escape_eq_none_iff :
    unescape? ('\\' :: c :: rest) = none ↔ c ∉ escapable ∨ unescape? rest = none := by
  rw [← escapeMeaning?_eq_none_iff, unescape?]
  cases escapeMeaning? c <;> cases unescape? rest <;> simp

theorem unescape?_plain (notBackslash : c ≠ '\\') :
    unescape? (c :: rest) = (unescape? rest).map (c :: ·) := by
  rw [unescape?, if_neg notBackslash]
  rintro _ _ rfl
  exact absurd rfl notBackslash

end escapes

end Text

open Lexeme Text

/-- Units are read two characters at a time where they begin with a backslash, and so are escape
sequences. -/
theorem Lexeme.AreUnits.unescape?_eq_none_iff {quote : Char} {text : List Char}
    (areUnits : AreUnits quote text) : unescape? text = none ↔ BadlyEscaped text := by
  induction areUnits with
  | nil => exact iff_of_false nofun nofun
  | cons first _ ih =>
    cases first with
    | plain _ notBackslash _ =>
      rw [List.singleton_append, badlyEscaped_plain_iff notBackslash, unescape?_plain notBackslash,
        Option.map_eq_none_iff, ih]
    | escaped =>
      rw [List.cons_append, List.singleton_append, badlyEscaped_escape_iff,
        unescape?_escape_eq_none_iff, ih]

theorem Lexeme.IsSign.exists_withSign {sign : List Char} (isSign : IsSign sign)
    (text : List Char) : ∃ negative, sign ++ text = Number.withSign negative text := by
  rcases isSign with rfl | rfl
  · exact ⟨false, rfl⟩
  · exact ⟨true, rfl⟩

namespace Literal

theorem unquote?_quoted (quote : Char) (inside : List Char) :
    unquote? quote (quote :: (inside ++ [quote])) = unescape? inside := by
  simp [unquote?]

theorem integer?_isSome {text : List Char} (shaped : IsInteger text) :
    (integer? text).isSome := by
  obtain ⟨sign, digits, rfl, isSign, isDigits⟩ := shaped
  obtain ⟨negative, signed⟩ := isSign.exists_withSign digits
  have read := (Number.isSigned_withSign isDigits negative).signed?_eq Number.natural?_eq
  rw [signed, integer?, Number.integer?, read]
  rfl

theorem string?_eq_none_iff {text : List Char} (shaped : IsString text) :
    string? text = none ↔ BadlyEscaped text.tail.dropLast := by
  obtain ⟨units, areUnits, rfl⟩ := shaped
  rw [string?, unquote?_quoted, Option.map_eq_none_iff, areUnits.unescape?_eq_none_iff,
    List.tail_cons, List.dropLast_concat]

/-- One unit is one character, unless it is an escape sequence without a meaning. -/
theorem character?_cases {text : List Char} (shaped : IsCharacter text) :
    (BadlyEscaped text.tail.dropLast ∧ character? text = none) ∨
      (¬ BadlyEscaped text.tail.dropLast ∧ ∃ c, character? text = some (.character c)) := by
  obtain ⟨unit, isUnit, rfl⟩ := shaped
  have areUnits : AreUnits '\'' unit := by
    rw [← List.append_nil unit]
    exact .cons isUnit .nil
  rw [List.tail_cons, List.dropLast_concat, ← areUnits.unescape?_eq_none_iff, character?,
    unquote?_quoted]
  cases isUnit with
  | plain _ notBackslash _ => exact .inr ⟨by simp [unescape?_plain notBackslash, unescape?],
      by simp [unescape?_plain notBackslash, unescape?]⟩
  | @escaped c =>
    cases meaning : escapeMeaning? c with
    | none => exact .inl ⟨by simp [unescape?, meaning], by simp [unescape?, meaning]⟩
    | some => exact .inr ⟨by simp [unescape?, meaning], by simp [unescape?, meaning]⟩

end Literal

namespace Decimal

/-- The places of a decimal are counted in 64 bits. -/
theorem ofText?_isSome {text : List Char} (shaped : IsDecimal text)
    (short : text.length < Nat.pow 2 63) : (ofText? text).isSome := by
  obtain ⟨sign, whole, places, rfl, isSign, isWhole, isPlaces⟩ := shaped
  obtain ⟨negative, signed⟩ := isSign.exists_withSign (whole ++ '.' :: places)
  have few : places.length < Nat.pow 2 63 := by
    refine Nat.lt_of_le_of_lt ?_ short
    simp only [List.length_append, List.length_cons]
    omega
  rw [signed, ofText?_withSign (.fraction isWhole isPlaces rfl), if_pos (Number.fits64_of_lt few)]
  rfl

end Decimal

end Primer
