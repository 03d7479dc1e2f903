import Primer.Java.Text
import Primer.Text.Blank

/-! Java expressions read as lexemes.

A lexeme goes on as long as the characters allow. Words are names, keywords and numbers alike, and a
dot belongs to them; symbols that stand together are one symbol.
-/

set_option autoImplicit false

namespace Primer.Java

inductive Lexeme where
  | operand (text : String)
  | operator (operator : Operator)
  | opening
  | closing
  | openingIndex
  | closingIndex
  | comma
  deriving Repr, DecidableEq

def Lexeme.ofChar? (c : Char) : Option Lexeme :=
  match c with
  | '(' => some opening
  | ')' => some closing
  | '[' => some openingIndex
  | ']' => some closingIndex
  | ',' => some comma
  | _ => none

def isWordPart (c : Char) : Bool :=
  c.isAlphanum || c == '_' || c == '.'

def isMark (c : Char) : Bool :=
  ['&', '|', '<', '>', '=', '!', '+', '-', '*', '/', '^'].contains c

def awaitsExponent (word : List Char) : Bool :=
  word.head?.any Char.isDigit && word.dropLast.all (fun c => c.isDigit || c == '.') &&
    word.getLast?.any fun c => c == 'e' || c == 'E'

def continues (word : List Char) (c : Char) : Bool :=
  isWordPart c || (c == '+' || c == '-') && awaitsExponent word

/-- What stands directly before a place in the text. -/
inductive Begun where
  | whole (lexeme : Option Lexeme)
  | word (text : List Char)
  | symbol (text : List Char)
  | quoted (quote : Char) (text : List Char)
  | escaped (quote : Char) (text : List Char)
  deriving Repr, DecidableEq

namespace Begun

def nothing : Begun :=
  whole none

def finish? : Begun → Option (List Lexeme)
  | whole lexeme => some lexeme.toList
  | word text => some [.operand (String.ofList text)]
  | symbol text =>
    (Operator.ofSymbol? (String.ofList text)).map fun operator => [.operator operator]
  | quoted _ _ | escaped _ _ => none

def add? (c : Char) : Begun → Option Begun
  | whole _ => none
  | word text => if continues text c then some (word (text ++ [c])) else none
  | symbol text => if isMark c then some (symbol (text ++ [c])) else none
  | quoted quote text =>
    if c = '\n' then none
    else if c = '\\' then some (escaped quote (text ++ [c]))
    else if c = quote then some (whole (some (.operand (String.ofList (text ++ [c])))))
    else some (quoted quote (text ++ [c]))
  | escaped quote text => some (quoted quote (text ++ [c]))

def start? (c : Char) : Option Begun :=
  if Text.isBlank c then some nothing
  else if isWordPart c then some (word [c])
  else if isMark c then some (symbol [c])
  else if c = '\'' ∨ c = '"' then some (quoted c [c])
  else (Lexeme.ofChar? c).map fun lexeme => whole (some lexeme)

def step? (begun : Begun) (c : Char) : Option (List Lexeme × Begun) :=
  match begun.add? c with
  | some more => some ([], more)
  | none => begun.finish?.bind fun finished => (start? c).map fun begun => (finished, begun)

end Begun

def lexFrom (done : List Lexeme) (begun : Begun) : List Char → Option (List Lexeme)
  | [] => begun.finish?.map (done ++ ·)
  | c :: rest =>
    match begun.step? c with
    | some (finished, next) => lexFrom (done ++ finished) next rest
    | none => none

def lex (text : List Char) : Option (List Lexeme) :=
  lexFrom [] .nothing text

/-- The text is read as these lexemes in front of anything that starts as `follows` tells. -/
def Lexes (follows : List Char → Prop) (text : List Char) (lexemes : List Lexeme) : Prop :=
  ∀ done rest, follows rest →
    lexFrom done .nothing (text ++ rest) = lexFrom (done ++ lexemes) .nothing rest

def Separates (text : List Char) : Prop :=
  ∀ c ∈ text.head?, c = ' ' ∨ (Lexeme.ofChar? c).isSome

theorem separates_nil : Separates [] := nofun

theorem separates_cons {c : Char} (text : List Char)
    (separator : c = ' ' ∨ (Lexeme.ofChar? c).isSome) : Separates (c :: text) := by
  intro first isFirst
  cases isFirst
  exact separator

theorem lexFrom_cons {begun next : Begun} {c : Char} {finished : List Lexeme}
    (stepped : begun.step? c = some (finished, next)) (done : List Lexeme) (rest : List Char) :
    lexFrom done begun (c :: rest) = lexFrom (done ++ finished) next rest := by
  simp only [lexFrom, stepped]

theorem lexFrom_add {begun more : Begun} {c : Char} (added : begun.add? c = some more)
    (done : List Lexeme) (rest : List Char) :
    lexFrom done begun (c :: rest) = lexFrom done more rest := by
  have stepped : begun.step? c = some ([], more) := by simp only [Begun.step?, added]
  rw [lexFrom_cons stepped, List.append_nil]

theorem finish_nothing : Begun.nothing.finish? = some [] :=
  rfl

theorem add_nothing (c : Char) : Begun.nothing.add? c = none :=
  rfl

theorem lexFrom_finish {begun : Begun} {finished : List Lexeme} {text : List Char}
    (ends : begun.finish? = some finished) (stops : ∀ c ∈ text.head?, begun.add? c = none)
    (done : List Lexeme) : lexFrom done begun text = lexFrom (done ++ finished) .nothing text := by
  cases text with
  | nil => simp only [lexFrom, ends, finish_nothing, Option.map_some, List.append_nil]
  | cons c rest =>
    -- With nothing going on, both sides begin the next lexeme with this character.
    have stopped : begun.add? c = none := stops c rfl
    simp only [lexFrom, Begun.step?, stopped, add_nothing, ends, finish_nothing, Option.bind_some]
    cases Begun.start? c with
    | none => rfl
    | some next => simp only [Option.map_some, List.append_nil]

namespace Lexes

variable {follows also : List Char → Prop} {text back : List Char} {lexemes more : List Lexeme}

theorem append (first : Lexes also text lexemes) (second : Lexes follows back more)
    (between : ∀ rest, follows rest → also (back ++ rest)) :
    Lexes follows (text ++ back) (lexemes ++ more) := by
  intro done rest following
  rw [List.append_assoc, first done _ (between rest following), second _ rest following,
    List.append_assoc]

theorem mono (lexes : Lexes also text lexemes) (fewer : ∀ rest, follows rest → also rest) :
    Lexes follows text lexemes :=
  fun done rest following => lexes done rest (fewer rest following)

/-- What is read in front of a separator is read in front of nothing. -/
theorem lex_eq (lexes : Lexes Separates text lexemes) : lex text = some lexemes := by
  have read := lexes [] [] separates_nil
  rw [List.append_nil] at read
  exact read.trans (by simp [lexFrom, finish_nothing])

end Lexes

section gaps

/-- A bracket or a comma is a lexeme whatever stands behind it. -/
theorem lexes_bracket {c : Char} {lexeme : Lexeme} (bracket : Lexeme.ofChar? c = some lexeme) :
    Lexes (fun _ => True) [c] [lexeme] := by
  intro done rest _
  have stepped : Begun.nothing.step? c = some ([], .whole (some lexeme)) := by
    unfold Lexeme.ofChar? at bracket
    split at bracket <;> cases bracket <;> decide
  rw [List.singleton_append, lexFrom_cons stepped, List.append_nil]
  exact lexFrom_finish rfl (fun _ _ => rfl) done

theorem lexes_space : Lexes (fun _ => True) [' '] [] := by
  intro done rest _
  have stepped : Begun.nothing.step? ' ' = some ([], .nothing) := by decide
  rw [List.singleton_append, lexFrom_cons stepped]

theorem step_mark {c : Char} (mark : isMark c = true) :
    Begun.nothing.step? c = some ([], .symbol [c]) := by
  simp only [isMark, List.contains_eq_mem, List.mem_cons, List.not_mem_nil, or_false,
    decide_eq_true_eq] at mark
  rcases mark with rfl | rfl | rfl | rfl | rfl | rfl | rfl | rfl | rfl | rfl | rfl <;> rfl

theorem lexFrom_marks {text : List Char} (marks : ∀ c ∈ text, isMark c = true) (symbol : List Char)
    (done : List Lexeme) (rest : List Char) :
    lexFrom done (.symbol symbol) (text ++ rest) =
      lexFrom done (.symbol (symbol ++ text)) rest := by
  induction text generalizing symbol with
  | nil => rw [List.append_nil, List.nil_append]
  | cons c text ih =>
    have added : (Begun.symbol symbol).add? c = some (.symbol (symbol ++ [c])) :=
      if_pos (marks c List.mem_cons_self)
    have others : ∀ c ∈ text, isMark c = true :=
      fun c member => marks c (List.mem_cons_of_mem _ member)
    rw [List.cons_append, lexFrom_add added, ih others, List.append_assoc, List.singleton_append]

theorem symbol_eq_cons (operator : Operator) : ∃ first more,
    operator.symbol.toList = first :: more ∧ ∀ c ∈ first :: more, isMark c = true := by
  cases operator <;> exact ⟨_, _, rfl, List.all_eq_true.mp rfl⟩

theorem lexes_operator (operator : Operator) :
    Lexes (fun _ => True) (' ' :: operator.symbol.toList ++ [' ']) [.operator operator] := by
  intro done rest _
  have before : Begun.nothing.step? ' ' = some ([], .nothing) := by decide
  have behind : (Begun.symbol operator.symbol.toList).step? ' ' =
      some ([.operator operator], .nothing) := by cases operator <;> decide
  obtain ⟨first, more, spelled, marks⟩ := symbol_eq_cons operator
  rw [List.cons_append, List.cons_append, List.append_assoc, lexFrom_cons before, List.append_nil,
    spelled, List.cons_append, lexFrom_cons (step_mark (marks first List.mem_cons_self)),
    List.append_nil, lexFrom_marks fun c member => marks c (List.mem_cons_of_mem _ member)]
  rw [List.singleton_append, ← spelled, List.singleton_append, lexFrom_cons behind]

end gaps

section words

def runsOn (word : List Char) : List Char → Bool
  | [] => true
  | c :: rest => continues word c && runsOn (word ++ [c]) rest

def isWord : List Char → Bool
  | [] => false
  | first :: rest => isWordPart first && runsOn [first] rest

theorem runsOn_append (word front back : List Char) :
    runsOn word (front ++ back) = (runsOn word front && runsOn (word ++ front) back) := by
  induction front generalizing word with
  | nil => simp [runsOn]
  | cons c rest ih => simp [runsOn, ih, Bool.and_assoc]

theorem runsOn_of_all {text : List Char} (plain : ∀ c ∈ text, isWordPart c) (word : List Char) :
    runsOn word text = true := by
  induction text generalizing word with
  | nil => rfl
  | cons c rest ih =>
    have head : isWordPart c = true := plain c List.mem_cons_self
    simp [runsOn, continues, head, ih fun c member => plain c (List.mem_cons_of_mem _ member)]

theorem isWord_of_all {text : List Char} (nonempty : text ≠ []) (plain : ∀ c ∈ text, isWordPart c) :
    isWord text = true := by
  cases text with
  | nil => exact absurd rfl nonempty
  | cons c rest =>
    have head : isWordPart c = true := plain c List.mem_cons_self
    simp [isWord, head, runsOn_of_all fun c member => plain c (List.mem_cons_of_mem _ member)]

theorem continues_separator (word : List Char) {c : Char}
    (separator : c = ' ' ∨ (Lexeme.ofChar? c).isSome) : continues word c = false := by
  rcases separator with rfl | bracket
  · simp [continues, isWordPart]
  · unfold Lexeme.ofChar? at bracket
    split at bracket
    all_goals first | contradiction | simp [continues, isWordPart]

theorem lexFrom_word {text rest : List Char} {word : List Char} (runs : runsOn word text = true)
    (separates : Separates rest) (done : List Lexeme) :
    lexFrom done (.word word) (text ++ rest) =
      lexFrom (done ++ [.operand (String.ofList (word ++ text))]) .nothing rest := by
  induction text generalizing word with
  | nil =>
    rw [List.append_nil, List.nil_append]
    apply lexFrom_finish rfl
    intro c isFirst
    simp [Begun.add?, continues_separator word (separates c isFirst)]
  | cons c text ih =>
    obtain ⟨goesOn, runs⟩ := Bool.and_eq_true_iff.mp runs
    have added : (Begun.word word).add? c = some (.word (word ++ [c])) := by
      simp [Begun.add?, goesOn]
    rw [List.cons_append, lexFrom_add added, ih runs]
    simp

theorem isBlank_of_isWordPart {c : Char} (part : isWordPart c = true) : Text.isBlank c = false := by
  simp only [isWordPart, Bool.or_eq_true, beq_iff_eq] at part
  rcases part with (visible | rfl) | rfl
  · exact Text.isBlank_of_isAlphanum visible
  · decide
  · decide

theorem lexes_word {text : List Char} (word : isWord text = true) :
    Lexes Separates text [.operand (String.ofList text)] := by
  cases text with
  | nil => cases word
  | cons c text =>
    obtain ⟨part, runs⟩ := Bool.and_eq_true_iff.mp word
    intro done rest separates
    have stepped : Begun.nothing.step? c = some ([], .word [c]) := by
      simp [Begun.step?, Begun.nothing, Begun.add?, Begun.finish?, Begun.start?, part,
        isBlank_of_isWordPart part]
    rw [List.cons_append, lexFrom_cons stepped, List.append_nil, lexFrom_word runs separates]
    rfl

end words

end Primer.Java
