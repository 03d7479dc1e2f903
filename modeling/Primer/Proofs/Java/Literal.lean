import Primer.Proofs.Decimal.Reading
import Primer.Proofs.Java.Grouping
import Primer.Proofs.Java.Lexing
import Primer.Proofs.Token.Shape

/-! Literals in Java source.

Every literal is one lexeme, but that the minus sign in front of a number is an operator of its own.
-/

set_option autoImplicit false

namespace Primer

namespace Java

def Lexeme.ofLiteral : List Char → List Lexeme
  | '-' :: number => [.operator .subtract, .operand (String.ofList number)]
  | text => [.operand (String.ofList text)]

def Grouping.ofLiteral : List Char → Grouping
  | '-' :: number => .unary .minus (.operand (String.ofList number))
  | text => .operand (String.ofList text)

inductive Written : List Char → Prop where
  | word {text : List Char} (word : isWord text = true) : Written text
  | negative {number : List Char} (word : isWord number = true) : Written ('-' :: number)
  | quoted {quote : Char} (inside : List Char) (isQuote : quote = '\'' ∨ quote = '"') :
    Written (quote :: (Text.escape inside ++ [quote]))

section quotes

variable {quote : Char}

theorem lexFrom_escape (isQuote : quote = '\'' ∨ quote = '"') (inside text : List Char)
    (done : List Lexeme) (rest : List Char) :
    lexFrom done (.quoted quote text) (Text.escape inside ++ rest) =
      lexFrom done (.quoted quote (text ++ Text.escape inside)) rest := by
  induction inside generalizing text with
  | nil => simp [Text.escape]
  | cons c inside ih =>
    rw [Text.escape, List.flatMap_cons, ← Text.escape]
    cases found : Text.escapeLetter? c with
    | none =>
      have plain : c ≠ '\n' ∧ c ≠ '\\' ∧ c ≠ quote := by
        refine ⟨?_, ?_, ?_⟩ <;> rintro rfl
        · simp [Text.escapeLetter?] at found
        · simp [Text.escapeLetter?] at found
        · rcases isQuote with rfl | rfl <;> simp [Text.escapeLetter?] at found
      have added : (Begun.quoted quote text).add? c = some (.quoted quote (text ++ [c])) := by
        simp [Begun.add?, plain]
      simp only [List.cons_append, List.nil_append]
      rw [lexFrom_add added, ih, List.append_assoc, List.singleton_append]
    | some letter =>
      have opened : (Begun.quoted quote text).add? '\\' =
          some (.escaped quote (text ++ ['\\'])) := by simp [Begun.add?]
      have closed : (Begun.escaped quote (text ++ ['\\'])).add? letter =
          some (.quoted quote (text ++ ['\\'] ++ [letter])) := rfl
      simp only [List.cons_append, List.nil_append]
      rw [lexFrom_add opened, lexFrom_add closed, ih]
      simp

theorem lexes_quoted (isQuote : quote = '\'' ∨ quote = '"') (inside : List Char) :
    Lexes (fun _ => True) (quote :: (Text.escape inside ++ [quote]))
      [.operand (String.ofList (quote :: (Text.escape inside ++ [quote])))] := by
  intro done rest _
  have opened : Begun.nothing.step? quote = some ([], .quoted quote [quote]) := by
    rcases isQuote with rfl | rfl <;> decide
  have closed (text : List Char) : (Begun.quoted quote text).add? quote =
      some (.whole (some (.operand (String.ofList (text ++ [quote]))))) := by
    rcases isQuote with rfl | rfl <;> simp [Begun.add?]
  rw [List.cons_append, lexFrom_cons opened, List.append_nil, List.append_assoc,
    lexFrom_escape isQuote, List.singleton_append, List.singleton_append, lexFrom_add (closed _)]
  exact lexFrom_finish rfl (fun _ _ => rfl) done

end quotes

theorem isMark_of_isWordPart {c : Char} (part : isWordPart c = true) : isMark c = false := by
  rw [Bool.eq_false_iff]
  intro mark
  simp only [isMark, List.contains_eq_mem, List.mem_cons, List.not_mem_nil, or_false,
    decide_eq_true_eq] at mark
  rcases mark with rfl | rfl | rfl | rfl | rfl | rfl | rfl | rfl | rfl | rfl | rfl <;>
    revert part <;> decide

/-- A minus sign is a symbol of its own in front of a word. -/
theorem lexes_minus :
    Lexes (fun rest => ∀ c ∈ rest.head?, isWordPart c = true) ['-'] [.operator .subtract] := by
  intro done rest following
  rw [List.singleton_append, lexFrom_cons (step_mark (by decide)), List.append_nil]
  apply lexFrom_finish (by decide)
  intro c isFirst
  simp [Begun.add?, isMark_of_isWordPart (following c isFirst)]

theorem isWordPart_of_isWord {text : List Char} (word : isWord text = true) (rest : List Char) :
    ∀ c ∈ (text ++ rest).head?, isWordPart c = true := by
  cases text with
  | nil => cases word
  | cons first more =>
    intro c isFirst
    cases isFirst
    exact (Bool.and_eq_true_iff.mp word).1

theorem Lexeme.ofLiteral_word {text : List Char} (word : isWord text = true) :
    Lexeme.ofLiteral text = [.operand (String.ofList text)] := by
  unfold Lexeme.ofLiteral
  split
  · exact absurd (isWordPart_of_isWord word [] '-' rfl) (by decide)
  · rfl

theorem Written.lexes {text : List Char} (written : Written text) :
    Lexes Separates text (Lexeme.ofLiteral text) := by
  cases written with
  | word word =>
    rw [Lexeme.ofLiteral_word word]
    exact lexes_word word
  | negative word =>
    apply lexes_minus.append (lexes_word word)
    intro rest _
    exact isWordPart_of_isWord word rest
  | quoted inside isQuote =>
    have plain : Lexes Separates _ _ := (lexes_quoted isQuote inside).mono fun _ _ => trivial
    rcases isQuote with rfl | rfl <;> exact plain

end Java

section numbers

open Java Number

theorem isWordPart_of_isDigit {c : Char} (digit : c.isDigit = true) : isWordPart c = true := by
  simp [isWordPart, Char.isAlphanum, digit]

theorem IsPositional.isWord {mantissa places : Nat} {text : List Char}
    (positional : IsPositional mantissa places text) : isWord text = true := by
  apply isWord_of_all
  · rintro rfl
    exact absurd positional.head (by decide)
  · intro c member
    rcases positional.plain c member with digit | rfl
    · exact isWordPart_of_isDigit digit
    · decide

/-- A number with an exponent is one word, whatever the sign of the exponent. -/
theorem isWord_exponent {mantissa places : Nat} {exponent : Int} {mark : Char}
    {text power : List Char} (positional : IsPositional mantissa places text)
    (isMark : isExponentMark mark = true) (isPower : IsSigned exponent power) :
    isWord (text ++ mark :: power) = true := by
  have markPart : isWordPart mark = true := by
    rw [isExponentMark, Bool.or_eq_true, beq_iff_eq, beq_iff_eq] at isMark
    rcases isMark with rfl | rfl <;> decide
  have awaits : awaitsExponent (text ++ [mark]) = true := by
    have head := positional.head
    cases text with
    | nil => cases head
    | cons first rest =>
      have plain : (first :: rest).all (fun c => c.isDigit || c == '.') = true := by
        simpa using positional.plain
      rw [isExponentMark] at isMark
      simp only [awaitsExponent, List.dropLast_concat, plain, List.getLast?_append,
        List.getLast?_singleton, Option.some_or, Option.any_some, isMark, Bool.and_true]
      exact head
  have goesOn : runsOn (text ++ [mark]) power = true := by
    have runs {digits : List Char} (isDigits : IsDigits digits) (word : List Char) :
        runsOn word digits = true :=
      runsOn_of_all (fun c member => isWordPart_of_isDigit (isDigits.2 c member)) word
    cases isPower with
    | none isDigits => exact runs isDigits _
    | plus isDigits | minus isDigits => simp [runsOn, continues, awaits, runs isDigits]
  have whole := positional.isWord
  cases text with
  | nil => cases whole
  | cons first rest =>
    obtain ⟨start, more⟩ := Bool.and_eq_true_iff.mp whole
    change (isWordPart first && runsOn [first] (rest ++ mark :: power)) = true
    rw [start, Bool.true_and, runsOn_append, more, Bool.true_and, List.singleton_append]
    simp only [runsOn, continues, markPart, Bool.true_or, Bool.true_and]
    exact goesOn

theorem Decimal.isWord_magnitudeText (magnitude : Nat) (scale : Int) :
    isWord (magnitudeText magnitude scale).toList = true := by
  obtain ⟨mantissa, exponent, numeral, -⟩ := isNumeral_magnitudeText magnitude scale
  generalize (magnitudeText magnitude scale).toList = text at numeral
  cases numeral with
  | positional positional => exact positional.isWord
  | scientific positional isMark isPower => exact isWord_exponent positional isMark isPower

theorem Literal.written (value : Literal) : Written value.javaText.toList := by
  cases value with
  | nil => exact .word (by decide)
  | boolean value => cases value <;> exact .word (by decide)
  | character value =>
    have text := Written.quoted [value] (.inl rfl)
    simpa [Literal.javaText] using text
  | string value =>
    have text := Written.quoted value.toList (.inr rfl)
    simpa [Literal.javaText] using text
  | integer value =>
    change Written value.repr.toList
    rw [Int.repr_eq_if]
    split
    · exact .word (IsPositional.whole (isDigits_repr _) rfl).isWord
    · simpa using Written.negative (IsPositional.whole (isDigits_repr _) rfl).isWord
  | decimal value =>
    have word (scale : Int) := Decimal.isWord_magnitudeText value.digits.natAbs scale
    change Written value.text.toList
    unfold Decimal.text
    rw [String.toList_append]
    split
    · exact .negative (word _)
    · exact .word (word _)

end numbers

end Primer
