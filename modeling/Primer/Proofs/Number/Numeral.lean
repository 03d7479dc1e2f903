import Primer.Number.Numeral
import Primer.Number.Range

/-! What digits spell. -/

set_option autoImplicit false

namespace Primer

def IsDigits (text : List Char) : Prop :=
  text ≠ [] ∧ ∀ c ∈ text, c.isDigit = true

variable {text more : List Char}

theorem IsDigits.append (first : IsDigits text) (others : ∀ c ∈ more, c.isDigit = true) :
    IsDigits (text ++ more) := by
  refine ⟨List.append_ne_nil_of_left_ne_nil first.1 more, fun c member => ?_⟩
  rcases List.mem_append.mp member with inside | behind
  · exact first.2 c inside
  · exact others c behind

theorem isDigits_repr (n : Nat) : IsDigits n.repr.toList := by
  rw [Nat.toList_repr]
  exact ⟨Nat.toDigits_ne_nil, fun c member =>
    Nat.isDigit_of_mem_toDigits (by decide) (by decide) member⟩

namespace Number

theorem ofDigits_zeros (n : Nat) : ofDigits (List.replicate n '0') = 0 :=
  Nat.ofDigitChars_replicate_zero

theorem ofDigits_repr (n : Nat) : ofDigits n.repr.toList = n := by
  rw [Nat.toList_repr]
  exact Nat.ofDigitChars_ten_toDigits

theorem digits?_eq (isDigits : IsDigits text) : digits? text = some (ofDigits text) :=
  if_pos ⟨isDigits.1, List.all_eq_true.mpr isDigits.2⟩

theorem natural?_eq (isDigits : IsDigits text) : natural? text = some (ofDigits text) := by
  obtain ⟨nonempty, all⟩ := isDigits
  have plain : ∀ c ∈ text, (c.isDigit || c == '_') = true := by
    intro c member
    rw [all c member, Bool.true_or]
  unfold natural?
  split
  · exact absurd rfl nonempty
  · exact absurd (all '_' List.mem_cons_self) (by decide)
  · rw [if_pos (List.all_eq_true.mpr plain), List.filter_eq_self.mpr all]

inductive IsSigned : Int → List Char → Prop where
  | none {digits : List Char} (isDigits : IsDigits digits) : IsSigned (ofDigits digits) digits
  | plus {digits : List Char} (isDigits : IsDigits digits) :
    IsSigned (ofDigits digits) ('+' :: digits)
  | minus {digits : List Char} (isDigits : IsDigits digits) :
    IsSigned (-ofDigits digits) ('-' :: digits)

theorem IsSigned.signed?_eq {n : Int} {magnitude? : List Char → Option Nat}
    (reads : ∀ {digits}, IsDigits digits → magnitude? digits = some (ofDigits digits))
    (signed : IsSigned n text) : signed? magnitude? text = some n := by
  cases signed with
  | none isDigits =>
    unfold signed?
    split
    · exact absurd (isDigits.2 '-' List.mem_cons_self) (by decide)
    · exact absurd (isDigits.2 '+' List.mem_cons_self) (by decide)
    · rw [reads isDigits]
      rfl
  | plus isDigits | minus isDigits =>
    rw [signed?, reads isDigits]
    rfl

theorem isSigned_repr (n : Int) : IsSigned n n.repr.toList := by
  rw [Int.repr_eq_if]
  split
  · next nonneg =>
    have spelled := IsSigned.none (isDigits_repr n.toNat)
    rwa [ofDigits_repr, Int.toNat_of_nonneg nonneg] at spelled
  · next negative =>
    have spelled := IsSigned.minus (isDigits_repr (-n).toNat)
    rw [ofDigits_repr, Int.toNat_of_nonneg (by omega), Int.neg_neg] at spelled
    simpa using spelled

def withSign (negative : Bool) (text : List Char) : List Char :=
  if negative then '-' :: text else text

theorem isSigned_withSign {digits : List Char} (isDigits : IsDigits digits) (negative : Bool) :
    IsSigned (if negative then -ofDigits digits else ofDigits digits)
      (withSign negative digits) := by
  cases negative with
  | false => exact .none isDigits
  | true => exact .minus isDigits

theorem fits64_of_lt {n : Nat} (small : n < Nat.pow 2 63) : fits64 n = true := by
  unfold fits64 fitsSigned
  rw [Bool.and_eq_true, decide_eq_true_eq, decide_eq_true_eq]
  exact ⟨Int.add_nonneg (Int.natCast_nonneg _) (Int.natCast_nonneg _), Int.ofNat_lt.mpr small⟩

end Number

end Primer
