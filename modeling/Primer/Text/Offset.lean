/-!
Places in a text, counted in bytes of its UTF-8 form and kept as 32-bit words.
-/

set_option autoImplicit false

namespace Primer.Text

/-- Bytes before a place in the text, modulo `2 ^ 32`. -/
abbrev Offset := UInt32

def byteLength (text : List Char) : Nat :=
  text.foldr (fun c size => c.utf8Size + size) 0

@[simp] theorem byteLength_nil : byteLength [] = 0 := rfl

@[simp] theorem byteLength_cons (c : Char) (text : List Char) :
    byteLength (c :: text) = c.utf8Size + byteLength text := rfl

@[simp] theorem byteLength_append (first second : List Char) :
    byteLength (first ++ second) = byteLength first + byteLength second := by
  induction first with
  | nil => simp
  | cons c rest ih => simp [ih, Nat.add_assoc]

theorem byteLength_pos {text : List Char} (nonempty : text ≠ []) : 0 < byteLength text := by
  cases text with
  | nil => exact absurd rfl nonempty
  | cons c rest => simpa using Nat.add_pos_left c.utf8Size_pos _

theorem byteLength_eq_utf8ByteSize_ofList (text : List Char) :
    byteLength text = (String.ofList text).utf8ByteSize := by
  induction text with
  | nil => simp
  | cons c rest ih => rw [byteLength_cons, ih]; simp [String.ofList_cons]

@[simp] theorem byteLength_toList (text : String) : byteLength text.toList = text.utf8ByteSize := by
  rw [byteLength_eq_utf8ByteSize_ofList, String.ofList_toList]

end Primer.Text
