import Primer.Text.Line

/-! Every place of a text lies on one of its lines. -/

set_option autoImplicit false

namespace Primer.Text

theorem flatten_lines (text : List Char) : (lines text).flatten = text := by
  fun_induction lines text with
  | case1 text cut empty => simpa using empty.symm
  | case2 text cut nonempty => simp
  | case3 text newline rest cut ih =>
    rw [List.flatten_cons, ih, List.append_assoc, List.singleton_append, ← cut,
      List.takeWhile_append_dropWhile]

/-- The lines from one of them on have the place of each offset up to their end. -/
theorem placeFrom?_isSome {pieces : List (List Char)} (number : Nat) {offset : Nat}
    (nonempty : pieces ≠ []) (inside : offset ≤ byteLength pieces.flatten) :
    (placeFrom? number offset pieces).isSome := by
  induction pieces generalizing number offset with
  | nil => exact absurd rfl nonempty
  | cons line more ih =>
    rw [List.flatten_cons, byteLength_append] at inside
    unfold placeFrom?
    split
    · rfl
    · next outside =>
      obtain ⟨behind, further⟩ := not_or.mp outside
      apply ih
      · rintro rfl
        rw [List.flatten_nil, byteLength_nil] at inside
        exact further ⟨rfl, by omega⟩
      · omega

/-- Only an empty text has no line, so that not even its start has a place. -/
theorem place?_isSome {text : List Char} {offset : Nat} (nonempty : text ≠ [])
    (inside : offset ≤ byteLength text) : (place? text offset).isSome := by
  have same := flatten_lines text
  apply placeFrom?_isSome
  · intro none
    rw [none] at same
    exact nonempty same.symm
  · rw [same]
    exact inside

end Primer.Text
