import Mathlib.Data.List.TakeDrop
import Mathlib.Data.List.TakeWhile
import Primer.Proofs.Text.Line

/-! The line of an offset.

A text has one cut after its newlines. An offset within the text has one place on the pieces of the
cut: behind all bytes of the lines in front of it, and in front of the end of its own line. Only the
end of the text lies behind a line.
-/

set_option autoImplicit false

namespace Primer.Text

/-- The pieces of a text that is cut after every newline. -/
inductive Cut : List Char → List (List Char) → Prop where
  | nothing : Cut [] []
  /-- The text may end without a newline. -/
  | last {line : List Char} (nonempty : line ≠ []) (unbroken : '\n' ∉ line) : Cut line [line]
  | line {words rest : List Char} {more : List (List Char)} (unbroken : '\n' ∉ words)
      (others : Cut rest more) : Cut (words ++ '\n' :: rest) ((words ++ ['\n']) :: more)

/-- The place lies on one of the pieces, as many bytes behind their start as the offset says. -/
structure Place.LiesIn (place : Place) (pieces : List (List Char)) (offset : Nat) : Prop where
  number_pos : 0 < place.number
  line : pieces[place.number - 1]? = some place.line
  offset_eq : byteLength (pieces.take (place.number - 1)).flatten + place.column = offset
  column_le : place.column ≤ byteLength place.line
  at_end : place.column = byteLength place.line → offset = byteLength pieces.flatten

/-! ### Cutting -/

section cut

variable {words rest text : List Char} {pieces : List (List Char)}

theorem dropWhile_of_unbroken (unbroken : '\n' ∉ words) (rest : List Char) :
    (words ++ '\n' :: rest).dropWhile (· ≠ '\n') = '\n' :: rest := by
  induction words with
  | nil => simp
  | cons c words ih =>
    have plain : c ≠ '\n' := fun same => unbroken (same ▸ List.mem_cons_self)
    have others : '\n' ∉ words := fun member => unbroken (List.mem_cons_of_mem c member)
    simpa [plain] using ih others

theorem takeWhile_of_unbroken (unbroken : '\n' ∉ words) (rest : List Char) :
    (words ++ '\n' :: rest).takeWhile (· ≠ '\n') = words := by
  have whole := List.takeWhile_append_dropWhile (p := (· ≠ '\n')) (l := words ++ '\n' :: rest)
  rw [dropWhile_of_unbroken unbroken] at whole
  exact List.append_cancel_right whole

theorem dropWhile_eq_nil (unbroken : '\n' ∉ text) : text.dropWhile (· ≠ '\n') = [] := by
  rw [List.dropWhile_eq_nil_iff]
  intro c member
  have plain : c ≠ '\n' := fun same => unbroken (same ▸ member)
  simpa using plain

theorem unbroken_takeWhile (text : List Char) : '\n' ∉ text.takeWhile (· ≠ '\n') := by
  intro member
  have plain := List.all_eq_true.mp List.all_takeWhile _ member
  simp at plain

theorem cut_lines (text : List Char) : Cut text (lines text) := by
  fun_induction lines text with
  | case1 text cut empty =>
    rw [List.isEmpty_iff.mp empty]
    exact .nothing
  | case2 text cut nonempty =>
    refine .last (by simpa using nonempty) fun member => ?_
    have plain := List.dropWhile_eq_nil_iff.mp cut _ member
    simp at plain
  | case3 text newline rest cut ih =>
    have stops := List.head?_dropWhile_not (· ≠ '\n') text
    rw [cut] at stops
    obtain rfl : newline = '\n' := by simpa using stops
    have parted := List.takeWhile_append_dropWhile (p := (· ≠ '\n')) (l := text)
    rw [cut] at parted
    have line := Cut.line (unbroken_takeWhile text) ih
    rwa [parted] at line

theorem Cut.eq_lines (cut : Cut text pieces) : pieces = lines text := by
  induction cut with
  | nothing => rw [lines.eq_def]; rfl
  | last nonempty unbroken =>
    rw [lines.eq_def]
    split
    · next stopped => simp [nonempty]
    · next stopped =>
      rw [dropWhile_eq_nil unbroken] at stopped
      cases stopped
  | line unbroken others ih =>
    rw [lines.eq_def]
    split
    · next stopped =>
      rw [dropWhile_of_unbroken unbroken] at stopped
      cases stopped
    · next stopped =>
      rw [dropWhile_of_unbroken unbroken] at stopped
      cases stopped
      rw [takeWhile_of_unbroken unbroken, ih]

/-- A text has one cut. -/
theorem cut_iff : Cut text pieces ↔ pieces = lines text := by
  constructor
  · exact Cut.eq_lines
  · rintro rfl
    exact cut_lines text

theorem Cut.nonempty (cut : Cut text pieces) : ∀ line ∈ pieces, line ≠ [] := by
  induction cut with
  | nothing => exact nofun
  | last nonempty => simpa using nonempty
  | line unbroken others ih => simpa using ih

end cut

/-! ### Places -/

/-- With these lines in front of its line and behind it, the first of them with the given number,
the place is `offset` bytes behind the start of the first. -/
structure Place.Between (place : Place) (number offset : Nat) (before after : List (List Char)) :
    Prop where
  number_eq : place.number = number + before.length
  offset_eq : offset = byteLength before.flatten + place.column
  inside : place.column < byteLength place.line ∨ after = [] ∧ place.column = byteLength place.line

section places

variable {pieces : List (List Char)} {offset number : Nat} {place : Place}

theorem Place.Between.behind {first : List Char} {before after : List (List Char)} :
    place.Between number (byteLength first + offset) (first :: before) after ↔
      place.Between (number + 1) offset before after := by
  constructor
  · rintro ⟨isNumber, isOffset, inside⟩
    simp only [List.length_cons, List.flatten_cons, byteLength_append] at isNumber isOffset
    exact ⟨by omega, by omega, inside⟩
  · rintro ⟨isNumber, isOffset, inside⟩
    refine ⟨?_, ?_, inside⟩
    · simp only [List.length_cons]
      omega
    · simp only [List.flatten_cons, byteLength_append]
      omega

/-- The search goes past the lines that end in front of the offset. -/
theorem placeFrom?_eq_some_iff :
    placeFrom? number offset pieces = some place ↔
      ∃ before after, pieces = before ++ place.line :: after ∧
        place.Between number offset before after := by
  induction pieces generalizing number offset with
  | nil => simp [placeFrom?]
  | cons line more ih =>
    unfold placeFrom?
    split
    · next here =>
      constructor
      · rintro ⟨rfl⟩
        exact ⟨[], more, rfl, rfl, by simp, here⟩
      · rintro ⟨before, after, whole, isNumber, isOffset, inside⟩
        cases before with
        | nil =>
          obtain ⟨rfl, rfl⟩ := List.cons.inj whole
          have sameOffset : offset = place.column := by simpa using isOffset
          have sameNumber : place.number = number := isNumber
          rw [sameOffset, ← sameNumber]
        | cons first before =>
          obtain ⟨rfl, rfl⟩ := List.cons.inj whole
          simp at isOffset here
          omega
    · next further =>
      -- The offset lies behind the line, which is then one of the lines in front.
      have isBehind : byteLength line ≤ offset := by omega
      obtain ⟨rest, rfl⟩ := Nat.exists_eq_add_of_le isBehind
      rw [Nat.add_sub_cancel_left, ih]
      constructor
      · rintro ⟨before, after, rfl, between⟩
        exact ⟨line :: before, after, rfl, Place.Between.behind.mpr between⟩
      · rintro ⟨before, after, whole, between⟩
        cases before with
        | nil =>
          obtain ⟨rfl, rfl⟩ := List.cons.inj whole
          have sameOffset : byteLength place.line + rest = place.column := by
            simpa using between.offset_eq
          rw [sameOffset] at further
          exact absurd between.inside further
        | cons first before =>
          obtain ⟨rfl, rfl⟩ := List.cons.inj whole
          exact ⟨before, after, rfl, Place.Between.behind.mp between⟩

theorem placeFrom?_eq_none_iff :
    placeFrom? number offset pieces = none ↔ pieces = [] ∨ byteLength pieces.flatten < offset := by
  induction pieces generalizing number offset with
  | nil => simp [placeFrom?]
  | cons line more ih =>
    unfold placeFrom?
    simp only [List.flatten_cons, byteLength_append, List.cons_ne_nil, false_or]
    split
    · next here =>
      rcases here with inside | ⟨rfl, ends⟩ <;> simp <;> omega
    · next further =>
      rw [ih]
      cases more with
      | nil => simp at further ⊢; omega
      | cons second others => simp at further ⊢; omega

theorem ends_with_iff {before after : List (List Char)} {line : List Char}
    (nonempty : ∀ piece ∈ after, piece ≠ []) :
    byteLength before.flatten + byteLength line = byteLength (before ++ line :: after).flatten ↔
      after = [] := by
  cases after with
  | nil => simp
  | cons next others =>
    have longer := byteLength_pos (nonempty next List.mem_cons_self)
    simp
    omega

theorem parted_of_getElem? {index : Nat} {line : List Char} (found : pieces[index]? = some line) :
    ∃ before after, pieces = before ++ line :: after ∧ before.length = index := by
  obtain ⟨bound, rfl⟩ := List.getElem?_eq_some_iff.mp found
  refine ⟨pieces.take index, pieces.drop (index + 1), ?_, ?_⟩
  · rw [List.cons_getElem_drop_succ, List.take_append_drop]
  · exact List.length_take_of_le (Nat.le_of_lt bound)

theorem liesIn_iff (nonempty : ∀ line ∈ pieces, line ≠ []) :
    place.LiesIn pieces offset ↔
      ∃ before after, pieces = before ++ place.line :: after ∧
        place.Between 1 offset before after := by
  constructor
  · rintro ⟨positive, isLine, isOffset, within, atEnd⟩
    obtain ⟨before, after, rfl, index⟩ := parted_of_getElem? isLine
    rw [← index, List.take_left] at isOffset
    refine ⟨before, after, rfl, by omega, isOffset.symm, ?_⟩
    rcases Nat.lt_or_eq_of_le within with less | ends
    · exact .inl less
    · have others : ∀ piece ∈ after, piece ≠ [] := fun piece member =>
        nonempty piece (List.mem_append_right before (List.mem_cons_of_mem _ member))
      have total := atEnd ends
      rw [← isOffset, ends] at total
      exact .inr ⟨(ends_with_iff others).mp total, ends⟩
  · rintro ⟨before, after, rfl, isNumber, isOffset, inside⟩
    have index : place.number - 1 = before.length := by omega
    refine ⟨by omega, by simp [index], by simp [index, isOffset], by omega, fun ends => ?_⟩
    rcases inside with less | ⟨rfl, -⟩
    · omega
    · simp [isOffset, ends]

end places

/-- Every text has one cut after its newlines. No offset has a place in an empty text, and none
behind the end of a text; any other has exactly the place that lies in the cut. -/
theorem place?_exact (text : List Char) (offset : Nat) :
    ∃ pieces, (∀ other, Cut text other ↔ other = pieces) ∧
      (place? text offset = none ↔ byteLength text < offset ∨ text = []) ∧
      ∀ place, place? text offset = some place ↔ place.LiesIn pieces offset := by
  have whole := flatten_lines text
  have nonempty := (cut_lines text).nonempty
  have empty : lines text = [] ↔ text = [] := by
    constructor
    · intro none
      rw [← whole, none]
      rfl
    · rintro rfl
      exact (Cut.nothing.eq_lines).symm
  refine ⟨lines text, fun other => cut_iff, ?_, fun place => ?_⟩
  · rw [place?, placeFrom?_eq_none_iff, whole, empty, or_comm]
  · rw [liesIn_iff nonempty, place?, placeFrom?_eq_some_iff]

/-- Behind its last newline a text has no line of its own. -/
example : place? ['a', '\n', '\n'] 3 = some { number := 2, line := ['\n'], column := 1 } := by
  decide +kernel

end Primer.Text
