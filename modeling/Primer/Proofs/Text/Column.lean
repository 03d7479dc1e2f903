import Primer.Proofs.Text.Line

/-! Columns of a line in bytes and in characters.

The column of a place counts bytes. It counts the characters before the place only where each of
them takes one byte.
-/

set_option autoImplicit false

namespace Primer.Text

/-- The characters that end within so many bytes of the text. -/
def within : List Char → Nat → List Char
  | [], _ => []
  | c :: rest, bytes =>
    if c.utf8Size ≤ bytes then c :: within rest (bytes - c.utf8Size) else []

theorem within_zero (text : List Char) : within text 0 = [] := by
  cases text with
  | nil => rfl
  | cons c rest => rw [within, if_neg (Nat.not_le.mpr c.utf8Size_pos)]

theorem byteLength_within_le (text : List Char) (bytes : Nat) :
    byteLength (within text bytes) ≤ bytes := by
  fun_induction within text bytes with
  | case1 => exact Nat.zero_le _
  | case2 bytes c rest fits ih =>
    rw [byteLength_cons]
    omega
  | case3 => exact Nat.zero_le _

/-- A cut between two characters has whole characters in front of it. -/
theorem within_append (front back : List Char) :
    within (front ++ back) (byteLength front) = front := by
  induction front with
  | nil => exact within_zero back
  | cons c rest ih =>
    rw [List.cons_append, byteLength_cons, within, if_pos (Nat.le_add_right _ _),
      Nat.add_sub_cancel_left, ih]

theorem length_le_byteLength (text : List Char) : text.length ≤ byteLength text := by
  induction text with
  | nil => exact Nat.le_refl 0
  | cons c rest ih =>
    have some := c.utf8Size_pos
    rw [List.length_cons, byteLength_cons]
    omega

theorem length_eq_byteLength_iff (text : List Char) :
    text.length = byteLength text ↔ ∀ c ∈ text, c.utf8Size = 1 := by
  induction text with
  | nil => exact iff_of_true rfl nofun
  | cons c rest ih =>
    have some := c.utf8Size_pos
    have least := length_le_byteLength rest
    rw [List.length_cons, byteLength_cons, List.forall_mem_cons, ← ih]
    omega

namespace Place

def indentation (place : Place) : Nat :=
  (place.line.takeWhile (· == ' ')).length

def before (place : Place) : List Char :=
  within place.line place.column

variable (place : Place)

theorem length_before_le : place.before.length ≤ place.column :=
  Nat.le_trans (length_le_byteLength _) (byteLength_within_le _ _)

theorem length_before_of_le_indentation (outside : place.column ≤ place.indentation) :
    place.before.length = place.column := by
  have cut := List.takeWhile_append_dropWhile (p := (· == ' ')) (l := place.line)
  have front : place.line.take place.column =
      (place.line.takeWhile (· == ' ')).take place.column := by
    rw [← List.take_append_of_le_length outside, cut]
  have spaces : ∀ c ∈ place.line.take place.column, c.utf8Size = 1 := by
    intro c member
    rw [front] at member
    have isSpace := List.all_eq_true.mp List.all_takeWhile c (List.mem_of_mem_take member)
    rw [eq_of_beq isSpace]
    rfl
  have counted : (place.line.take place.column).length = place.column := by
    rw [front]
    exact List.length_take_of_le outside
  have bytes : byteLength (place.line.take place.column) = place.column := by
    rw [← (length_eq_byteLength_iff _).mpr spaces, counted]
  have whole := within_append (place.line.take place.column) (place.line.drop place.column)
  rw [List.take_append_drop, bytes] at whole
  rw [before, whole, counted]

theorem column_sub_indentation_eq_iff :
    place.column - place.indentation = (place.before.drop place.indentation).length ↔
      place.column = place.before.length := by
  have least := place.length_before_le
  rw [List.length_drop]
  by_cases outside : place.column ≤ place.indentation
  · have all := place.length_before_of_le_indentation outside
    rw [all]
    exact iff_of_true rfl rfl
  · omega

end Place

theorem byteLength_eq_zero {text : List Char} (empty : byteLength text = 0) : text = [] := by
  cases text with
  | nil => rfl
  | cons c rest => exact absurd empty (Nat.ne_of_gt (byteLength_pos (List.cons_ne_nil c rest)))

/-- A place between two characters of a text is between two characters of its line. -/
theorem placeFrom?_boundary {pieces : List (List Char)} {number : Nat} {front back : List Char}
    {place : Place} (whole : pieces.flatten = front ++ back)
    (found : placeFrom? number (byteLength front) pieces = some place) :
    byteLength place.before = place.column := by
  induction pieces generalizing number front with
  | nil => cases found
  | cons line more ih =>
    rw [List.flatten_cons] at whole
    unfold placeFrom? at found
    have cut := List.append_eq_append_iff.mp whole
    split at found
    · next here =>
      cases found
      -- The place does not lie behind the line, so the line goes on from what is in front of it.
      have goesOn : ∃ rest, line = front ++ rest := by
        rcases cut with ⟨rest, rfl, -⟩ | ⟨rest, same, -⟩
        · rw [byteLength_append] at here
          have empty : byteLength rest = 0 := by omega
          exact ⟨[], by rw [byteLength_eq_zero empty]; simp⟩
        · exact ⟨rest, same⟩
      obtain ⟨rest, rfl⟩ := goesOn
      exact congrArg byteLength (within_append front rest)
    · next further =>
      -- Otherwise the line is all in front of the place.
      have behind : ∃ rest, front = line ++ rest ∧ more.flatten = rest ++ back := by
        rcases cut with passed | ⟨rest, rfl, same⟩
        · exact passed
        · rw [byteLength_append] at further
          have empty : byteLength rest = 0 := by omega
          obtain rfl := byteLength_eq_zero empty
          exact ⟨[], by simp, same.symm⟩
      obtain ⟨rest, rfl, same⟩ := behind
      rw [byteLength_append, Nat.add_sub_cancel_left] at found
      exact ih same found

end Primer.Text
