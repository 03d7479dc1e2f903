/-!
Escape sequences of character and string literals: a backslash and a letter, a quote or another
backslash.
-/

set_option autoImplicit false

namespace Primer.Text

def escapeMeaning? (c : Char) : Option Char :=
  match c with
  | 'b' => some '\x08'
  | 'n' => some '\n'
  | 'r' => some '\r'
  | 't' => some '\t'
  | '\'' => some '\''
  | '"' => some '"'
  | '\\' => some '\\'
  | _ => none

def escapeLetter? (c : Char) : Option Char :=
  if c = '\x08' then some 'b'
  else if c = '\n' then some 'n'
  else if c = '\r' then some 'r'
  else if c = '\t' then some 't'
  else if c = '\'' then some '\''
  else if c = '"' then some '"'
  else if c = '\\' then some '\\'
  else none

theorem escapeMeaning?_of_escapeLetter? {c letter : Char} (h : escapeLetter? c = some letter) :
    escapeMeaning? letter = some c := by
  unfold escapeLetter? at h
  grind [escapeMeaning?]

def escape (text : List Char) : List Char :=
  text.flatMap fun c =>
    match escapeLetter? c with
    | some letter => ['\\', letter]
    | none => [c]

/-- Resolves every escape sequence; none if one has no meaning or is cut off. -/
def unescape? : List Char → Option (List Char)
  | [] => some []
  | '\\' :: c :: rest => do
    let meaning ← escapeMeaning? c
    let resolved ← unescape? rest
    pure (meaning :: resolved)
  | c :: rest => if c = '\\' then none else (unescape? rest).map (c :: ·)

theorem unescape?_escape (text : List Char) : unescape? (escape text) = some text := by
  induction text with
  | nil => rfl
  | cons c rest ih =>
    cases found : escapeLetter? c with
    | none =>
      have plain : c ≠ '\\' := by rintro rfl; simp [escapeLetter?] at found
      rw [escape, List.flatMap_cons, ← escape]
      simp [found, unescape?, plain, ih]
    | some letter =>
      rw [escape, List.flatMap_cons, ← escape]
      simp [found, unescape?, escapeMeaning?_of_escapeLetter? found, ih]

end Primer.Text
