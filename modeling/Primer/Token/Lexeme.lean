import Primer.Text.Blank
import Primer.Token.Basic

/-!
Lexemes: the pieces of a source text. Each reader looks at the head of a text and returns a
nonempty piece that the text begins with.
-/

set_option autoImplicit false

namespace Primer

structure Lexeme where
  kind : Option Token.Kind
  text : List Char
  deriving Repr, DecidableEq

namespace Lexeme

def isNameStart (c : Char) : Bool :=
  c.isAlpha || c == '_'

def isNamePart (c : Char) : Bool :=
  c.isAlphanum || c == '_'

def gap? (text : List Char) : Option (List Char) :=
  match text with
  | '/' :: '/' :: rest => some ('/' :: '/' :: rest.takeWhile (· ≠ '\n'))
  | c :: rest => if Text.isBlank c then some (c :: rest.takeWhile Text.isBlank) else none
  | [] => none

def identifier? : List Char → Option (List Char)
  | [] => none
  | c :: rest => if isNameStart c then some (c :: rest.takeWhile isNamePart) else none

def fraction (text : List Char) : List Char :=
  match text with
  | '.' :: c :: rest => if c.isDigit then '.' :: c :: rest.takeWhile Char.isDigit else []
  | _ => []

def number? : List Char → Option (List Char)
  | [] => none
  | c :: rest =>
    if c.isDigit then
      some (c :: (rest.takeWhile Char.isDigit ++ fraction (rest.dropWhile Char.isDigit)))
    else none

def character? : List Char → Option (List Char)
  | '\'' :: '\\' :: c :: '\'' :: _ => if c = '\n' then none else some ['\'', '\\', c, '\'']
  | '\'' :: c :: '\'' :: _ =>
    if c = '\'' ∨ c = '\\' ∨ c = '\n' then none else some ['\'', c, '\'']
  | _ => none

def stringRest? : List Char → Option (List Char)
  | [] => none
  | '"' :: _ => some ['"']
  | '\\' :: c :: rest => if c = '\n' then none else (stringRest? rest).map ('\\' :: c :: ·)
  | c :: rest => if c = '\\' ∨ c = '\n' then none else (stringRest? rest).map (c :: ·)

def string? : List Char → Option (List Char)
  | '"' :: rest => (stringRest? rest).map ('"' :: ·)
  | _ => none

/-- A two-character operator, or any one character that is neither blank nor a quote. -/
def operator? : List Char → Option (List Char)
  | '=' :: '=' :: _ => some ['=', '=']
  | '!' :: '=' :: _ => some ['!', '=']
  | '&' :: '&' :: _ => some ['&', '&']
  | '|' :: '|' :: _ => some ['|', '|']
  | c :: _ => if Text.isBlank c ∨ c = '\'' ∨ c = '"' then none else some [c]
  | [] => none

def negative? : List Char → Option (List Char)
  | '-' :: rest => (number? rest).map ('-' :: ·)
  | _ => none

def gap (text : List Char) : Lexeme :=
  { kind := none, text }

def ofKind (kind : Token.Kind) (text : List Char) : Lexeme :=
  { kind := some kind, text }

def number (text : List Char) : Lexeme :=
  ofKind (if text.contains '.' then .decimal else .integer) text

def signed? (afterOperand : Bool) (text : List Char) : Option Lexeme :=
  (negative? text).map fun digits => if afterOperand then ofKind .operator ['-'] else number digits

def readers (afterOperand : Bool) : List (List Char → Option Lexeme) :=
  [fun text => (gap? text).map gap,
   fun text => (identifier? text).map (ofKind .identifier),
   signed? afterOperand,
   fun text => (number? text).map number,
   fun text => (character? text).map (ofKind .character),
   fun text => (string? text).map (ofKind .string),
   fun text => (operator? text).map (ofKind .operator)]

def head? (afterOperand : Bool) (text : List Char) : Option Lexeme :=
  (readers afterOperand).findSome? fun reader => reader text

theorem gap?_ne_nil {text piece : List Char} (found : gap? text = some piece) : piece ≠ [] := by
  unfold gap? at found
  split at found <;> grind

theorem identifier?_ne_nil {text piece : List Char} (found : identifier? text = some piece) :
    piece ≠ [] := by
  unfold identifier? at found
  split at found <;> grind

theorem negative?_ne_nil {text piece : List Char} (found : negative? text = some piece) :
    piece ≠ [] := by
  unfold negative? at found
  split at found
  · obtain ⟨digits, -, rfl⟩ := Option.map_eq_some_iff.1 found
    exact List.cons_ne_nil _ _
  · contradiction

theorem number?_ne_nil {text piece : List Char} (found : number? text = some piece) :
    piece ≠ [] := by
  unfold number? at found
  split at found <;> grind

theorem character?_ne_nil {text piece : List Char} (found : character? text = some piece) :
    piece ≠ [] := by
  unfold character? at found
  split at found <;> grind

theorem string?_ne_nil {text piece : List Char} (found : string? text = some piece) :
    piece ≠ [] := by
  unfold string? at found
  split at found
  · obtain ⟨rest, -, rfl⟩ := Option.map_eq_some_iff.1 found
    exact List.cons_ne_nil _ _
  · contradiction

theorem operator?_ne_nil {text piece : List Char} (found : operator? text = some piece) :
    piece ≠ [] := by
  unfold operator? at found
  split at found <;> grind

theorem signed?_ne_nil {afterOperand : Bool} {text : List Char} {lexeme : Lexeme}
    (found : signed? afterOperand text = some lexeme) : lexeme.text ≠ [] := by
  obtain ⟨digits, read, rfl⟩ := Option.map_eq_some_iff.1 found
  cases afterOperand
  · exact negative?_ne_nil read
  · exact List.cons_ne_nil _ _

theorem head?_ne_nil {afterOperand : Bool} {text : List Char} {lexeme : Lexeme}
    (found : head? afterOperand text = some lexeme) : lexeme.text ≠ [] := by
  obtain ⟨reader, member, read⟩ := List.exists_of_findSome?_eq_some found
  simp only [readers, List.mem_cons, List.not_mem_nil, or_false] at member
  rcases member with rfl | rfl | rfl | rfl | rfl | rfl | rfl
  case inr.inr.inl => exact signed?_ne_nil read
  all_goals obtain ⟨piece, cut, rfl⟩ := Option.map_eq_some_iff.1 read
  · exact gap?_ne_nil cut
  · exact identifier?_ne_nil cut
  · exact number?_ne_nil cut
  · exact character?_ne_nil cut
  · exact string?_ne_nil cut
  · exact operator?_ne_nil cut

end Lexeme

end Primer
