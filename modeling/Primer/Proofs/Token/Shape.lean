import Primer.Proofs.Number.Numeral
import Primer.Token.Lexeme

/-! The shapes of lexemes.

Every kind of token has a lexical class of its own, and between tokens stand blanks and comments.
What the readers cut off the head of a text belongs to the class of its kind, and the rest of the
text does not continue it. Where they find nothing, a quote opens no literal.
-/

set_option autoImplicit false

namespace Primer

namespace Lexeme

def IsIdentifier (text : List Char) : Prop :=
  ∃ first rest, text = first :: rest ∧ isNameStart first = true ∧ ∀ c ∈ rest, isNamePart c = true

def IsSign (sign : List Char) : Prop :=
  sign = [] ∨ sign = ['-']

def IsInteger (text : List Char) : Prop :=
  ∃ sign digits, text = sign ++ digits ∧ IsSign sign ∧ IsDigits digits

def IsDecimal (text : List Char) : Prop :=
  ∃ sign whole places, text = sign ++ (whole ++ '.' :: places) ∧ IsSign sign ∧ IsDigits whole ∧
    IsDigits places

/-- One character of a literal: any but the quote, the backslash and the newline stands for itself,
and any but the newline may follow a backslash. -/
inductive IsUnit (quote : Char) : List Char → Prop where
  | plain {c : Char} (notQuote : c ≠ quote) (notBackslash : c ≠ '\\') (notNewline : c ≠ '\n') :
    IsUnit quote [c]
  | escaped {c : Char} (notNewline : c ≠ '\n') : IsUnit quote ['\\', c]

inductive AreUnits (quote : Char) : List Char → Prop where
  | nil : AreUnits quote []
  | cons {unit rest : List Char} (first : IsUnit quote unit) (others : AreUnits quote rest) :
    AreUnits quote (unit ++ rest)

def IsCharacter (text : List Char) : Prop :=
  ∃ unit, IsUnit '\'' unit ∧ text = '\'' :: (unit ++ ['\''])

def IsString (text : List Char) : Prop :=
  ∃ units, AreUnits '"' units ∧ text = '"' :: (units ++ ['"'])

def IsOperator (text : List Char) : Prop :=
  text ∈ [['=', '='], ['!', '='], ['&', '&'], ['|', '|']] ∨
    ∃ c, text = [c] ∧ Text.isBlank c = false ∧ c ≠ '\'' ∧ c ≠ '"'

/-- Blanks and comments, in front of `after`. A comment ends with its line. -/
inductive IsGap : List Char → List Char → Prop where
  | nothing {after : List Char} : IsGap [] after
  | blank {c : Char} {rest after : List Char} (white : Text.isBlank c = true)
      (others : IsGap rest after) : IsGap (c :: rest) after
  | comment {words rest after : List Char} (line : '\n' ∉ words)
      (ends : ∀ c, (rest ++ after).head? = some c → c = '\n') (others : IsGap rest after) :
    IsGap ('/' :: '/' :: (words ++ rest)) after

end Lexeme

open Lexeme

def Token.Kind.Shapes : Token.Kind → List Char → Prop
  | .identifier => IsIdentifier
  | .integer => IsInteger
  | .decimal => IsDecimal
  | .character => IsCharacter
  | .string => IsString
  | .operator => IsOperator

/-- Whether a text goes on with a name or number in front of it: a name with one more of its
characters, a number with a digit, and an integer also with a point and a digit. -/
def Token.Kind.Continues : Token.Kind → List Char → Prop
  | .identifier, rest => ∃ c, rest.head? = some c ∧ isNamePart c = true
  | .integer, rest => (∃ c, rest.head? = some c ∧ c.isDigit = true) ∨
      ∃ c more, rest = '.' :: c :: more ∧ c.isDigit = true
  | .decimal, rest => ∃ c, rest.head? = some c ∧ c.isDigit = true
  | .character, _ | .string, _ | .operator, _ => False

namespace Lexeme

def Stands (lexeme : Lexeme) (rest : List Char) : Prop :=
  match lexeme.kind with
  | none => IsGap lexeme.text rest
  | some kind => kind.Shapes lexeme.text ∧ ¬ kind.Continues rest

structure Stray (quote : Char) (rest : List Char) : Prop where
  isQuote : quote = '\'' ∨ quote = '"'
  opensNothing : ∀ piece, piece <+: quote :: rest → ¬ IsCharacter piece ∧ ¬ IsString piece

theorem isGap_append {gap more after : List Char} (first : IsGap gap (more ++ after))
    (second : IsGap more after) : IsGap (gap ++ more) after := by
  generalize behind : more ++ after = following at first
  induction first with
  | nothing => exact second
  | blank white _ ih => exact .blank white (ih behind)
  | comment line ends _ ih =>
    subst behind
    rw [List.cons_append, List.cons_append, List.append_assoc]
    refine .comment line ?_ (ih rfl)
    rwa [List.append_assoc]

theorem isGap_of_blanks {text after : List Char} (white : ∀ c ∈ text, Text.isBlank c = true) :
    IsGap text after := by
  induction text with
  | nil => exact .nothing
  | cons c rest ih =>
    refine .blank (white c List.mem_cons_self) (ih fun other member => ?_)
    exact white other (List.mem_cons_of_mem _ member)

/-! ### Readers -/

section readers

variable {text piece : List Char}

theorem head?_dropWhile {p : Char → Bool} {text : List Char} {c : Char}
    (found : (text.dropWhile p).head? = some c) : p c = false := by
  have stopped := List.head?_dropWhile_not p text
  rw [found] at stopped
  simpa using stopped

theorem of_gap? (found : gap? text = some piece) :
    ∃ rest, text = piece ++ rest ∧ IsGap piece rest := by
  unfold gap? at found
  split at found
  case h_1 words =>
    cases found
    refine ⟨words.dropWhile (· ≠ '\n'), by simp, ?_⟩
    rw [← List.append_nil (words.takeWhile _)]
    refine .comment ?_ ?_ .nothing
    · intro member
      have plain := List.all_eq_true.mp List.all_takeWhile _ member
      simp at plain
    · intro c isHead
      simpa using head?_dropWhile isHead
  case h_2 c words _ =>
    split at found
    case isTrue white =>
      cases found
      refine ⟨words.dropWhile Text.isBlank, by simp, .blank white (isGap_of_blanks ?_)⟩
      exact List.all_eq_true.mp List.all_takeWhile
    case isFalse => cases found
  case h_3 => cases found

theorem of_identifier? (found : identifier? text = some piece) :
    ∃ rest, text = piece ++ rest ∧ IsIdentifier piece ∧ ¬ Token.Kind.identifier.Continues rest := by
  cases text with
  | nil => cases found
  | cons c rest =>
    simp only [identifier?] at found
    split at found
    case isTrue start =>
      cases found
      refine ⟨rest.dropWhile isNamePart, by simp, ⟨c, _, rfl, start, ?_⟩, ?_⟩
      · exact List.all_eq_true.mp List.all_takeWhile
      · rintro ⟨next, isHead, part⟩
        rw [head?_dropWhile isHead] at part
        cases part
    case isFalse => cases found

theorem isDigits_takeWhile {c : Char} {rest : List Char} (digit : c.isDigit = true) :
    IsDigits (c :: rest.takeWhile Char.isDigit) := by
  refine ⟨List.cons_ne_nil _ _, fun other member => ?_⟩
  rcases List.mem_cons.mp member with rfl | inside
  · exact digit
  · exact List.all_eq_true.mp List.all_takeWhile _ inside

theorem fraction_cases (text : List Char) :
    (fraction text = [] ∧ ∀ c more, text = '.' :: c :: more → c.isDigit = false) ∨
      ∃ digits rest, fraction text = '.' :: digits ∧ text = '.' :: (digits ++ rest) ∧
        IsDigits digits ∧ ¬ Token.Kind.decimal.Continues rest := by
  unfold fraction
  split
  case h_1 c more =>
    cases digit : c.isDigit with
    | false =>
      refine .inl ⟨rfl, fun other behind same => ?_⟩
      cases same
      exact digit
    | true =>
      refine .inr ⟨_, more.dropWhile Char.isDigit, rfl, by simp, isDigits_takeWhile digit, ?_⟩
      rintro ⟨next, isHead, also⟩
      rw [head?_dropWhile isHead] at also
      cases also
  case h_2 plain => exact .inl ⟨rfl, fun c more same => (plain c more same).elim⟩

/-- Digits with a fraction are a decimal, digits alone an integer. -/
theorem of_number? (found : number? text = some piece) :
    ∃ rest, text = piece ++ rest ∧
      ((IsDigits piece ∧ ¬ Token.Kind.integer.Continues rest) ∨
        (∃ whole places, piece = whole ++ '.' :: places ∧ IsDigits whole ∧ IsDigits places) ∧
          ¬ Token.Kind.decimal.Continues rest) := by
  cases text with
  | nil => cases found
  | cons c rest =>
    simp only [number?] at found
    split at found
    case isFalse => cases found
    case isTrue digit =>
      cases found
      have whole : IsDigits (c :: rest.takeWhile Char.isDigit) := isDigits_takeWhile digit
      have parted : rest.takeWhile Char.isDigit ++ rest.dropWhile Char.isDigit = rest := by simp
      rcases fraction_cases (rest.dropWhile Char.isDigit) with
        ⟨none, stops⟩ | ⟨places, behind, some, isRest, digits, ends⟩
      · rw [none, List.append_nil]
        refine ⟨_, congrArg (c :: ·) parted.symm, .inl ⟨whole, ?_⟩⟩
        rintro (⟨next, isHead, also⟩ | ⟨next, more, isRest, also⟩)
        · rw [head?_dropWhile isHead] at also
          cases also
        · rw [stops next more isRest] at also
          cases also
      · rw [some]
        refine ⟨behind, ?_, .inr ⟨⟨_, places, rfl, whole, digits⟩, ends⟩⟩
        rw [isRest] at parted
        rw [List.cons_append, List.append_assoc]
        exact congrArg (c :: ·) parted.symm

theorem number_of_integer (shaped : IsInteger text) : number text = ofKind .integer text := by
  obtain ⟨sign, digits, rfl, isSign, isDigits⟩ := shaped
  have unsigned : '.' ∉ sign := by rcases isSign with rfl | rfl <;> decide
  have plain : '.' ∉ digits := fun member => by
    have digit := isDigits.2 _ member
    revert digit
    decide
  simp [number, unsigned, plain]

theorem number_of_decimal (shaped : IsDecimal text) : number text = ofKind .decimal text := by
  obtain ⟨sign, whole, places, rfl, -, -, -⟩ := shaped
  simp [number]

theorem number_stands {sign digits rest : List Char} (isSign : IsSign sign)
    (read : (IsDigits digits ∧ ¬ Token.Kind.integer.Continues rest) ∨
      (∃ whole places, digits = whole ++ '.' :: places ∧ IsDigits whole ∧ IsDigits places) ∧
        ¬ Token.Kind.decimal.Continues rest) :
    (number (sign ++ digits)).Stands rest := by
  rcases read with ⟨isDigits, ends⟩ | ⟨⟨whole, places, rfl, isWhole, isPlaces⟩, ends⟩
  · have shaped : IsInteger (sign ++ digits) := ⟨sign, digits, rfl, isSign, isDigits⟩
    rw [number_of_integer shaped]
    exact ⟨shaped, ends⟩
  · have shaped : IsDecimal (sign ++ (whole ++ '.' :: places)) :=
      ⟨sign, whole, places, rfl, isSign, isWhole, isPlaces⟩
    rw [number_of_decimal shaped]
    exact ⟨shaped, ends⟩

theorem isOperator_minus : IsOperator ['-'] :=
  .inr ⟨'-', rfl, by decide, by decide, by decide⟩

theorem of_signed? {afterOperand : Bool} {lexeme : Lexeme}
    (found : signed? afterOperand text = some lexeme) :
    ∃ rest, text = lexeme.text ++ rest ∧ lexeme.Stands rest := by
  obtain ⟨digits, read, rfl⟩ := Option.map_eq_some_iff.mp found
  unfold negative? at read
  split at read
  case h_2 => cases read
  case h_1 words =>
    obtain ⟨digits, cut, rfl⟩ := Option.map_eq_some_iff.mp read
    obtain ⟨rest, rfl, shaped⟩ := of_number? cut
    cases afterOperand with
    | true => exact ⟨digits ++ rest, rfl, isOperator_minus, id⟩
    | false => exact ⟨rest, rfl, number_stands (.inr rfl) shaped⟩

theorem of_character? (found : character? text = some piece) :
    ∃ rest, text = piece ++ rest ∧ IsCharacter piece := by
  unfold character? at found
  split at found
  case h_1 c rest =>
    split at found
    case isTrue => cases found
    case isFalse plain =>
      cases found
      exact ⟨rest, rfl, ['\\', c], .escaped plain, rfl⟩
  case h_2 c rest _ =>
    split at found
    case isTrue => cases found
    case isFalse plain =>
      cases found
      simp only [not_or] at plain
      exact ⟨rest, rfl, [c], .plain plain.1 plain.2.1 plain.2.2, rfl⟩
  case h_3 => cases found

theorem of_stringRest? (found : stringRest? text = some piece) :
    ∃ units rest, AreUnits '"' units ∧ piece = units ++ ['"'] ∧ text = piece ++ rest := by
  fun_induction stringRest? text generalizing piece with
  | case1 => cases found
  | case2 rest =>
    cases found
    exact ⟨[], rest, .nil, rfl, rfl⟩
  | case3 => cases found
  | case4 c words plain ih =>
    obtain ⟨tail, read, rfl⟩ := Option.map_eq_some_iff.mp found
    obtain ⟨units, rest, areUnits, rfl, rfl⟩ := ih read
    exact ⟨'\\' :: c :: units, rest, .cons (.escaped plain) areUnits, rfl, rfl⟩
  | case5 => cases found
  | case6 c words notQuote _ plain ih =>
    obtain ⟨tail, read, rfl⟩ := Option.map_eq_some_iff.mp found
    obtain ⟨units, rest, areUnits, rfl, rfl⟩ := ih read
    simp only [not_or] at plain
    exact ⟨c :: units, rest, .cons (.plain notQuote plain.1 plain.2) areUnits, rfl, rfl⟩

theorem of_string? (found : string? text = some piece) :
    ∃ rest, text = piece ++ rest ∧ IsString piece := by
  unfold string? at found
  split at found
  case h_2 => cases found
  case h_1 words =>
    obtain ⟨tail, read, rfl⟩ := Option.map_eq_some_iff.mp found
    obtain ⟨units, rest, areUnits, rfl, rfl⟩ := of_stringRest? read
    exact ⟨rest, rfl, units, areUnits, rfl⟩

theorem of_operator? (found : operator? text = some piece) :
    ∃ rest, text = piece ++ rest ∧ IsOperator piece := by
  unfold operator? at found
  split at found
  case h_5 c rest _ _ _ _ =>
    split at found
    case isTrue => cases found
    case isFalse plain =>
      cases found
      simp only [not_or, Bool.not_eq_true] at plain
      exact ⟨rest, rfl, .inr ⟨c, rfl, plain⟩⟩
  case h_6 => cases found
  all_goals
    cases found
    exact ⟨_, rfl, .inl (by decide)⟩

/-- A lexeme is cut off the head of the text and stands in front of what is left. -/
theorem of_head? {afterOperand : Bool} {lexeme : Lexeme}
    (found : head? afterOperand text = some lexeme) :
    ∃ rest, text = lexeme.text ++ rest ∧ lexeme.Stands rest := by
  obtain ⟨reader, member, read⟩ := List.exists_of_findSome?_eq_some found
  simp only [readers, List.mem_cons, List.not_mem_nil, or_false] at member
  rcases member with rfl | rfl | rfl | rfl | rfl | rfl | rfl
  case inr.inr.inl => exact of_signed? read
  all_goals obtain ⟨piece, cut, rfl⟩ := Option.map_eq_some_iff.mp read
  · exact of_gap? cut
  · exact of_identifier? cut
  · obtain ⟨rest, rfl, shaped⟩ := of_number? cut
    exact ⟨rest, rfl, number_stands (.inl rfl) shaped⟩
  · obtain ⟨rest, rfl, shaped⟩ := of_character? cut
    exact ⟨rest, rfl, shaped, id⟩
  · obtain ⟨rest, rfl, shaped⟩ := of_string? cut
    exact ⟨rest, rfl, shaped, id⟩
  · obtain ⟨rest, rfl, shaped⟩ := of_operator? cut
    exact ⟨rest, rfl, shaped, id⟩

/-! ### Texts that no reader reads -/

theorem character?_of_isCharacter (shaped : IsCharacter piece) (rest : List Char) :
    character? (piece ++ rest) = some piece := by
  obtain ⟨unit, isUnit, rfl⟩ := shaped
  cases isUnit with
  | plain notQuote notBackslash notNewline =>
    simp [character?, notQuote, notBackslash, notNewline]
  | escaped notNewline => simp [character?, notNewline]

theorem stringRest?_of_areUnits {units : List Char} (areUnits : AreUnits '"' units)
    (rest : List Char) : stringRest? (units ++ '"' :: rest) = some (units ++ ['"']) := by
  induction areUnits with
  | nil => simp [stringRest?]
  | cons first _ ih =>
    cases first with
    | plain notQuote notBackslash notNewline =>
      simp [stringRest?, notBackslash, notNewline, ih]
    | escaped notNewline => simp [stringRest?, notNewline, ih]

theorem string?_of_isString (shaped : IsString piece) (rest : List Char) :
    string? (piece ++ rest) = some piece := by
  obtain ⟨units, areUnits, rfl⟩ := shaped
  have read := stringRest?_of_areUnits areUnits rest
  simp [string?, read]

/-- Only a quote is neither a blank nor an operator. -/
theorem quote_of_refused {c : Char} {rest : List Char} (noGap : gap? (c :: rest) = none)
    (noOperator : operator? (c :: rest) = none) : c = '\'' ∨ c = '"' := by
  have visible : Text.isBlank c = false := by
    unfold gap? at noGap
    split at noGap
    case h_1 => cases noGap
    case h_2 isText =>
      cases isText
      split at noGap
      case isTrue => cases noGap
      case isFalse plain => simpa using plain
    case h_3 isText => cases isText
  unfold operator? at noOperator
  split at noOperator
  case h_5 isText =>
    cases isText
    split at noOperator
    case isFalse => cases noOperator
    case isTrue special => simpa [visible] using special
  case h_6 isText => cases isText
  all_goals cases noOperator

theorem of_head?_eq_none {afterOperand : Bool} {c : Char} {rest : List Char}
    (found : head? afterOperand (c :: rest) = none) : Stray c rest := by
  have refused := List.findSome?_eq_none_iff.mp found
  simp only [readers, List.mem_cons, List.not_mem_nil, or_false, forall_eq_or_imp, forall_eq,
    Option.map_eq_none_iff] at refused
  obtain ⟨noGap, -, -, -, noCharacter, noString, noOperator⟩ := refused
  refine ⟨quote_of_refused noGap noOperator, ?_⟩
  -- A literal at the head of the text would have been read, whatever comes behind it.
  rintro piece ⟨more, isText⟩
  rw [← isText] at noCharacter noString
  constructor
  · intro shaped
    rw [character?_of_isCharacter shaped] at noCharacter
    cases noCharacter
  · intro shaped
    rw [string?_of_isString shaped] at noString
    cases noString

end readers

/-! ### Heads of texts -/

section heads

variable {afterOperand : Bool} {c : Char} {text : List Char}

/-- Of the readers, only the last three begin with a quote. -/
theorem head?_quote {quote : Char} (isQuote : quote = '\'' ∨ quote = '"') (afterOperand : Bool)
    (rest : List Char) :
    head? afterOperand (quote :: rest) =
      [fun text => (character? text).map (ofKind .character),
        fun text => (string? text).map (ofKind .string),
        fun text => (operator? text).map (ofKind .operator)].findSome?
          fun reader => reader (quote :: rest) := by
  have isNameStart : isNameStart quote = false := by rcases isQuote with rfl | rfl <;> decide
  have isDigit : quote.isDigit = false := by rcases isQuote with rfl | rfl <;> decide
  have noGap : gap? (quote :: rest) = none := by rcases isQuote with rfl | rfl <;> rfl
  have unsigned : negative? (quote :: rest) = none := by rcases isQuote with rfl | rfl <;> rfl
  simp [head?, readers, noGap, identifier?, isNameStart, signed?, unsigned, number?, isDigit]

theorem head?_append_of_isCharacter (shaped : IsCharacter text) (afterOperand : Bool)
    (rest : List Char) : head? afterOperand (text ++ rest) = some (ofKind .character text) := by
  have read := character?_of_isCharacter shaped rest
  obtain ⟨unit, -, rfl⟩ := shaped
  rw [List.cons_append] at read ⊢
  rw [head?_quote (.inl rfl)]
  simp only [List.findSome?_cons, read, Option.map_some]

theorem head?_append_of_isString (shaped : IsString text) (afterOperand : Bool) (rest : List Char) :
    head? afterOperand (text ++ rest) = some (ofKind .string text) := by
  have read := string?_of_isString shaped rest
  obtain ⟨units, -, rfl⟩ := shaped
  rw [List.cons_append] at read ⊢
  rw [head?_quote (.inr rfl)]
  have noCharacter : character? ('"' :: (units ++ ['"'] ++ rest)) = none := rfl
  simp only [List.findSome?_cons, noCharacter, read, Option.map_some, Option.map_none]

theorem isBlank_of_isNamePart (part : isNamePart c = true) : Text.isBlank c = false := by
  simp only [isNamePart, Bool.or_eq_true, beq_iff_eq] at part
  rcases part with visible | rfl
  · exact Text.isBlank_of_isAlphanum visible
  · decide

theorem isNamePart_eq (c : Char) : isNamePart c = (isNameStart c || c.isDigit) := by
  unfold isNamePart isNameStart Char.isAlphanum
  rw [Bool.or_right_comm]

theorem isNamePart_of_isNameStart (start : isNameStart c = true) : isNamePart c = true := by
  rw [isNamePart_eq, start, Bool.true_or]

theorem isNamePart_of_isDigit (digit : c.isDigit = true) : isNamePart c = true := by
  rw [isNamePart_eq, digit, Bool.or_true]

theorem gap?_eq_none (visible : Text.isBlank c = false) (noSlash : c ≠ '/') :
    gap? (c :: text) = none := by
  unfold gap?
  split
  case h_1 isText =>
    cases isText
    exact absurd rfl noSlash
  case h_2 isText =>
    cases isText
    simp [visible]
  case h_3 => rfl

theorem gap?_eq_none_of_isNamePart (part : isNamePart c = true) : gap? (c :: text) = none := by
  refine gap?_eq_none (isBlank_of_isNamePart part) ?_
  rintro rfl
  revert part
  decide

theorem negative?_eq_none (unsigned : c ≠ '-') : negative? (c :: text) = none := by
  unfold negative?
  split
  case h_1 isText =>
    cases isText
    exact absurd rfl unsigned
  case h_2 => rfl

theorem identifier?_eq_none (noStart : isNameStart c = false) : identifier? (c :: text) = none := by
  simp [identifier?, noStart]

theorem number?_eq_none (noDigit : c.isDigit = false) : number? (c :: text) = none := by
  simp [number?, noDigit]

theorem head?_of_isNameStart (start : isNameStart c = true) :
    head? afterOperand (c :: text) =
      some (ofKind .identifier (c :: text.takeWhile isNamePart)) := by
  have noGap : gap? (c :: text) = none :=
    gap?_eq_none_of_isNamePart (isNamePart_of_isNameStart start)
  simp [head?, readers, noGap, identifier?, start]

theorem isNameStart_of_isDigit (digit : c.isDigit = true) : isNameStart c = false := by
  have small : c.val.toNat ≤ 57 := by
    simp only [Char.isDigit, Bool.and_eq_true, decide_eq_true_eq] at digit
    exact UInt32.le_iff_toNat_le.mp digit.2
  have letters : c.isAlpha = true → 65 ≤ c.val.toNat := by
    change (decide (c.val ≥ 65 ∧ c.val ≤ 90) || (c.val ≥ 97 && c.val ≤ 122)) = true → _
    simp only [Bool.or_eq_true, Bool.and_eq_true, decide_eq_true_eq, UInt32.le_iff_toNat_le]
    grind
  refine Bool.or_eq_false_iff.mpr ⟨Bool.eq_false_iff.mpr fun letter => ?_, ?_⟩
  · have big := letters letter
    omega
  · refine beq_eq_false_iff_ne.mpr ?_
    rintro rfl
    revert digit
    decide

theorem head?_of_isDigit (digit : c.isDigit = true) :
    head? afterOperand (c :: text) = (number? (c :: text)).map number := by
  have noGap : gap? (c :: text) = none := gap?_eq_none_of_isNamePart (isNamePart_of_isDigit digit)
  have noName : identifier? (c :: text) = none :=
    identifier?_eq_none (isNameStart_of_isDigit digit)
  have unsigned : c ≠ '-' := by
    rintro rfl
    revert digit
    decide
  simp [head?, readers, noGap, noName, signed?, negative?_eq_none unsigned, number?, digit]

/-- Where a minus sign stands, it is the sign of the number behind it or else an operator. -/
theorem head?_minus (rest : List Char) :
    head? afterOperand ('-' :: rest) =
      match number? rest, afterOperand with
      | some digits, false => some (number ('-' :: digits))
      | _, _ => some (ofKind .operator ['-']) := by
  have noGap : gap? ('-' :: rest) = none := gap?_eq_none (by decide) (by decide)
  have noName : identifier? ('-' :: rest) = none := identifier?_eq_none (by decide)
  have noNumber : number? ('-' :: rest) = none := number?_eq_none (by decide)
  have mark : operator? ('-' :: rest) = some ['-'] := rfl
  cases read : number? rest <;> cases afterOperand <;>
    simp [head?, readers, noGap, noName, signed?, negative?, read, noNumber, character?, string?,
      mark]

end heads

end Lexeme

end Primer
