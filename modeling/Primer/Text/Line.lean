import Primer.Text.Offset

/-!
Lines of a text, and the line on which a byte offset falls.
-/

set_option autoImplicit false

namespace Primer.Text

/-- The text cut after every newline. No piece is empty, and only the last may lack its newline. -/
def lines (text : List Char) : List (List Char) :=
  match _cut : text.dropWhile (· ≠ '\n') with
  | [] => if text.isEmpty then [] else [text]
  | newline :: rest => (text.takeWhile (· ≠ '\n') ++ [newline]) :: lines rest
termination_by text.length
decreasing_by
  have shorter := (List.dropWhile_suffix (· ≠ '\n') (l := text)).length_le
  rw [_cut] at shorter
  exact Nat.lt_of_succ_le shorter

structure Place where
  number : Nat
  line : List Char
  /-- Bytes of the line before the place. -/
  column : Nat
  deriving Repr, DecidableEq

/-- The place of `offset` in consecutive lines, the first of which has the given number. A place
after the last character belongs to the last line. -/
def placeFrom? (number offset : Nat) : List (List Char) → Option Place
  | [] => none
  | line :: more =>
    if offset < byteLength line ∨ (more = [] ∧ offset = byteLength line) then
      some { number, line, column := offset }
    else placeFrom? (number + 1) (offset - byteLength line) more

def place? (text : List Char) (offset : Nat) : Option Place :=
  placeFrom? 1 offset (lines text)

end Primer.Text
