/-!
Blank characters: the `White_Space` property of Unicode.
-/

set_option autoImplicit false

namespace Primer.Text

/-- First and last code points of each run of blanks, in increasing order. -/
def blankRuns : List (Nat × Nat) :=
  [(0x9, 0xD), (0x20, 0x20), (0x85, 0x85), (0xA0, 0xA0), (0x1680, 0x1680), (0x2000, 0x200A),
   (0x2028, 0x2029), (0x202F, 0x202F), (0x205F, 0x205F), (0x3000, 0x3000)]

def isBlank (c : Char) : Bool :=
  blankRuns.any fun run => run.1 ≤ c.toNat && c.toNat ≤ run.2

theorem isBlank_of_isAlphanum {c : Char} (visible : c.isAlphanum = true) : isBlank c = false := by
  change (decide (c.val ≥ 65 ∧ c.val ≤ 90) || (c.val ≥ 97 && c.val ≤ 122) ||
    (c.val ≥ 48 && c.val ≤ 57)) = true at visible
  simp only [Bool.or_eq_true, Bool.and_eq_true, decide_eq_true_eq, UInt32.le_iff_toNat_le]
    at visible
  have inside : 0x20 < c.toNat ∧ c.toNat < 0x85 := by
    simp only [Char.toNat]
    grind
  simp only [isBlank, blankRuns, List.any_cons, List.any_nil, Bool.or_false,
    Bool.or_eq_false_iff, Bool.and_eq_false_iff, decide_eq_false_iff_not]
  omega

def trimEnd (text : List Char) : List Char :=
  (text.reverse.dropWhile isBlank).reverse

end Primer.Text
