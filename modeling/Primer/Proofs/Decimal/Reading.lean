import Mathlib.Data.List.TakeWhile
import Mathlib.Tactic.Ring
import Primer.Decimal.Double
import Primer.Proofs.Decimal.Value
import Primer.Proofs.Number.Numeral

/-! Numbers written out and read again.

A number is shown by digits, perhaps with a point among them and a power of ten behind. Such a text
spells one number, and this is what the readers of decimals and of doubles take it for.
-/

set_option autoImplicit false

namespace Primer

open Number

/-- Digits, of which the last `places` stand behind a point. -/
inductive IsPositional (mantissa : Nat) : Nat → List Char → Prop where
  | whole {digits : List Char} (isDigits : IsDigits digits)
      (spelled : ofDigits digits = mantissa) : IsPositional mantissa 0 digits
  | fraction {whole fraction : List Char} (isWhole : IsDigits whole)
      (isFraction : IsDigits fraction) (spelled : ofDigits (whole ++ fraction) = mantissa) :
    IsPositional mantissa fraction.length (whole ++ '.' :: fraction)

inductive IsNumeral : Nat → Int → List Char → Prop where
  | positional {mantissa places : Nat} {text : List Char}
      (positional : IsPositional mantissa places text) : IsNumeral mantissa (-places) text
  | scientific {mantissa places : Nat} {exponent : Int} {mark : Char} {text power : List Char}
      (positional : IsPositional mantissa places text) (isMark : isExponentMark mark = true)
      (isPower : IsSigned exponent power) :
    IsNumeral mantissa (exponent - places) (text ++ mark :: power)

/-! ### What is shown -/

theorem Number.ofDigits_append (text more : List Char) :
    ofDigits (text ++ more) = ofDigits text * 10 ^ more.length + ofDigits more := by
  change Nat.ofDigitChars 10 (text ++ more) 0 = Nat.ofDigitChars 10 text 0 * _ + _
  rw [Nat.ofDigitChars_append, Nat.ofDigitChars_eq_ofDigitChars_zero, Nat.mul_comm]
  rfl

namespace Decimal

theorem toList_zeros (n : Nat) : (zeros n).toList = List.replicate n '0' := by
  rw [zeros, String.pushn_eq_repeat_push]
  induction n with
  | zero => rfl
  | succ n ih => simp [Nat.repeat, ih, List.replicate_succ']

theorem isDigit_of_mem_zeros {n : Nat} {c : Char} (member : c ∈ List.replicate n '0') :
    c.isDigit = true := by
  rw [(List.mem_replicate.mp member).2]
  rfl

theorem isPositional_withPoint {digits : String} {places : Nat} (isDigits : IsDigits digits.toList)
    (some : 0 < places) :
    IsPositional (ofDigits digits.toList) places (withPoint digits places).toList := by
  have length := digits.length_toList
  unfold withPoint
  split
  · next few =>
    have isWhole : IsDigits (digits.toList.take (digits.length - places)) := by
      refine ⟨?_, fun c member => isDigits.2 c (List.mem_of_mem_take member)⟩
      rw [← List.length_pos_iff, List.length_take]
      omega
    have isFraction : IsDigits (digits.toList.drop (digits.length - places)) := by
      refine ⟨?_, fun c member => isDigits.2 c (List.mem_of_mem_drop member)⟩
      rw [← List.length_pos_iff, List.length_drop]
      omega
    have shown := IsPositional.fraction isWhole isFraction (by rw [List.take_append_drop])
    rw [List.length_drop, length, Nat.sub_sub_self few.le] at shown
    simpa using shown
  · next many =>
    have isFraction : IsDigits (List.replicate (places - digits.length) '0' ++ digits.toList) := by
      refine ⟨List.append_ne_nil_of_right_ne_nil _ isDigits.1, fun c member => ?_⟩
      rcases List.mem_append.mp member with zero | digit
      · exact isDigit_of_mem_zeros zero
      · exact isDigits.2 c digit
    have isWhole : IsDigits (List.replicate 1 '0') := ⟨nofun, fun _ => isDigit_of_mem_zeros⟩
    have spelled : ofDigits (List.replicate 1 '0' ++
        (List.replicate (places - digits.length) '0' ++ digits.toList)) =
          ofDigits digits.toList := by
      rw [← List.append_assoc, List.replicate_append_replicate, ofDigits_append, ofDigits_zeros,
        Nat.zero_mul, Nat.zero_add]
    have shown := IsPositional.fraction isWhole isFraction spelled
    rw [List.length_append, List.length_replicate, length,
      Nat.sub_add_cancel (Nat.not_lt.mp many)] at shown
    simpa [toList_zeros] using shown

theorem isPositional_positional (magnitude : Nat) (scale : Int) :
    IsPositional (magnitude * 10 ^ (-scale).toNat) scale.toNat
      (positional magnitude scale).toList := by
  have isDigits := isDigits_repr magnitude
  unfold positional
  rw [Nat.toString_eq_repr]
  split
  · next whole =>
    rw [String.toList_append, toList_zeros, Int.toNat_eq_zero.mpr whole]
    refine .whole (isDigits.append fun _ => isDigit_of_mem_zeros) ?_
    rw [ofDigits_append, ofDigits_repr, List.length_replicate, ofDigits_zeros, Nat.add_zero]
  · next fraction =>
    have none : (-scale).toNat = 0 := by omega
    have some : 0 < scale.toNat := by omega
    have shown := isPositional_withPoint isDigits some
    rw [ofDigits_repr] at shown
    rwa [none, Nat.pow_zero, Nat.mul_one]

theorem positional_eq (magnitude : Nat) (scale : Int) :
    ((magnitude * 10 ^ (-scale).toNat : Nat) : ℚ) * 10 ^ (-(scale.toNat : Int)) =
      magnitude * 10 ^ (-scale) := by
  have exponent : -scale = (-scale).toNat + -(scale.toNat : Int) := by omega
  rw [exponent, zpow_add₀ (by norm_num), zpow_natCast, ← exponent, ← mul_assoc]
  push_cast
  rfl

theorem isNumeral_scientific (magnitude : Nat) (exponent : Int) :
    IsNumeral magnitude (exponent - (magnitude.repr.length - 1 : Nat))
      (scientific magnitude.repr exponent).toList := by
  have isDigits := isDigits_repr magnitude
  have spelled := ofDigits_repr magnitude
  have isPower := isSigned_repr exponent
  have isMark : isExponentMark 'E' = true := rfl
  have mark : "E".toList = ['E'] := by decide
  unfold scientific
  simp only [String.toList_append, String.toList_ofList, Int.toString_eq_repr, mark,
    ← String.length_toList]
  obtain ⟨first, rest, digits⟩ := List.exists_cons_of_ne_nil isDigits.1
  rw [digits] at isDigits spelled ⊢
  have isFirst : IsDigits [first] := ⟨nofun, fun c member => isDigits.2 c (by simp_all)⟩
  cases rest with
  | nil => simpa using IsNumeral.scientific (.whole isFirst spelled) isMark isPower
  | cons second rest =>
    have isRest : IsDigits (second :: rest) :=
      ⟨nofun, fun c member => isDigits.2 c (List.mem_cons_of_mem _ member)⟩
    have fraction : (String.ofList (second :: rest)).isEmpty = false := by
      simp [String.isEmpty_eq_false_iff]
    have shown := IsNumeral.scientific (.fraction isFirst isRest spelled) isMark isPower
    rw [List.drop_one, List.tail_cons, fraction]
    simpa using shown

theorem isNumeral_magnitudeText (magnitude : Nat) (scale : Int) :
    ∃ mantissa exponent, IsNumeral mantissa exponent (magnitudeText magnitude scale).toList ∧
      (mantissa : ℚ) * 10 ^ exponent = magnitude * 10 ^ (-scale) := by
  have isDigits := isDigits_repr magnitude
  unfold magnitudeText
  dsimp only
  rw [Nat.toString_eq_repr]
  split
  · refine ⟨_, _, isNumeral_scientific magnitude _, ?_⟩
    have length : 0 < magnitude.repr.length := Nat.length_repr_pos
    congr 2
    omega
  split
  · next large =>
    have isMark : isExponentMark 'e' = true := rfl
    have mark : "e+".toList = ['e', '+'] := by decide
    have nonneg : 0 ≤ -scale := by
      simp only [trailingZeros] at large
      omega
    have isPower := IsSigned.plus (isDigits_repr (-scale).toNat)
    rw [ofDigits_repr, Int.toNat_of_nonneg nonneg] at isPower
    have shown := IsNumeral.scientific (.whole isDigits (ofDigits_repr magnitude)) isMark isPower
    refine ⟨magnitude, -scale, ?_, rfl⟩
    rw [String.toList_append, String.toList_append, Int.toString_eq_repr, Int.repr_eq_if,
      if_pos nonneg, mark]
    simpa using shown
  · exact ⟨_, _, .positional (isPositional_positional magnitude scale), positional_eq _ _⟩

end Decimal

/-! ### What is read -/

section read

variable {mantissa places : Nat} {text : List Char}

theorem IsPositional.head (positional : IsPositional mantissa places text) :
    text.head?.any Char.isDigit = true := by
  have first {digits rest : List Char} (isDigits : IsDigits digits) :
      (digits ++ rest).head?.any Char.isDigit = true := by
    obtain ⟨c, digits, rfl⟩ := List.exists_cons_of_ne_nil isDigits.1
    exact isDigits.2 c List.mem_cons_self
  cases positional with
  | whole isDigits =>
    rw [← List.append_nil text]
    exact first isDigits
  | fraction isWhole => exact first isWhole

theorem IsPositional.plain (positional : IsPositional mantissa places text) :
    ∀ c ∈ text, c.isDigit = true ∨ c = '.' := by
  intro c member
  cases positional with
  | whole isDigits => exact .inl (isDigits.2 c member)
  | fraction isWhole isFraction =>
    rcases List.mem_append.mp member with inWhole | behind
    · exact .inl (isWhole.2 c inWhole)
    rcases List.mem_cons.mp behind with point | inFraction
    · exact .inr point
    · exact .inl (isFraction.2 c inFraction)

theorem IsPositional.unmarked (positional : IsPositional mantissa places text) :
    ∀ c ∈ text, (!isExponentMark c) = true := by
  intro c member
  rw [isExponentMark, Bool.not_eq_true', Bool.or_eq_false_iff, beq_eq_false_iff_ne,
    beq_eq_false_iff_ne]
  rcases positional.plain c member with digit | rfl
  · constructor <;> rintro rfl <;> exact absurd digit (by decide)
  · decide

theorem takeWhile_point {whole : List Char} (plain : '.' ∉ whole) (rest : List Char) :
    (whole ++ '.' :: rest).takeWhile (· ≠ '.') = whole ∧
      (whole ++ '.' :: rest).dropWhile (· ≠ '.') = '.' :: rest := by
  have before : ∀ c ∈ whole, decide (c ≠ '.') = true :=
    fun c member => decide_eq_true fun point => plain (point ▸ member)
  constructor
  · rw [List.takeWhile_append_of_pos before]
    simp
  · rw [List.dropWhile_append_of_pos before]
    simp

theorem takeWhile_no_point {whole : List Char} (plain : '.' ∉ whole) :
    whole.takeWhile (· ≠ '.') = whole ∧ whole.dropWhile (· ≠ '.') = [] := by
  have before : ∀ c ∈ whole, decide (c ≠ '.') = true :=
    fun c member => decide_eq_true fun point => plain (point ▸ member)
  exact ⟨List.takeWhile_eq_self_iff.mpr before, List.dropWhile_eq_nil_iff.mpr before⟩

theorem IsDigits.no_point (isDigits : IsDigits text) (negative : Bool) :
    '.' ∉ withSign negative text := by
  have plain : '.' ∉ text := fun member => absurd (isDigits.2 '.' member) (by decide)
  cases negative <;> simpa [withSign] using plain

namespace Decimal

theorem splitPoint_withSign (positional : IsPositional mantissa places text) (negative : Bool) :
    ∃ digits, splitPoint (withSign negative text) = (withSign negative digits, places) ∧
      IsDigits digits ∧ ofDigits digits = mantissa := by
  cases positional with
  | whole isDigits spelled =>
    obtain ⟨taken, dropped⟩ := takeWhile_no_point (isDigits.no_point negative)
    refine ⟨text, ?_, isDigits, spelled⟩
    simp only [splitPoint, taken, dropped]
  | @fraction whole fraction isWhole isFraction spelled =>
    obtain ⟨taken, dropped⟩ := takeWhile_point (isWhole.no_point negative) fraction
    have none : fraction.filter (· ≠ '_') = fraction := by
      refine List.filter_eq_self.mpr fun c member => decide_eq_true ?_
      rintro rfl
      exact absurd (isFraction.2 '_' member) (by decide)
    have append (behind : List Char) :
        withSign negative (whole ++ behind) = withSign negative whole ++ behind := by
      cases negative <;> rfl
    obtain ⟨first, rest, rfl⟩ := List.exists_cons_of_ne_nil isFraction.1
    refine ⟨whole ++ first :: rest, ?_, isWhole.append isFraction.2, spelled⟩
    simp only [append, splitPoint, taken, dropped, none]

theorem ofText?_withSign (positional : IsPositional mantissa places text) (negative : Bool) :
    ofText? (withSign negative text) =
      if fits64 places then
        some { digits := if negative then -mantissa else mantissa, scale := places }
      else none := by
  have unmarked : ∀ c ∈ withSign negative text, (!isExponentMark c) = true := by
    cases negative with
    | false => exact positional.unmarked
    | true => exact List.forall_mem_cons.mpr ⟨rfl, positional.unmarked⟩
  obtain ⟨digits, split, isDigits, spelled⟩ := splitPoint_withSign positional negative
  have read := (isSigned_withSign isDigits negative).signed?_eq natural?_eq
  rw [spelled] at read
  unfold ofText?
  simp only [List.takeWhile_eq_self_iff.mpr unmarked, List.dropWhile_eq_nil_iff.mpr unmarked, split,
    exponent?]
  rw [integer?, read, Option.bind_eq_bind, Option.bind_some, Option.bind_some, Int.sub_zero]

end Decimal

namespace Double

theorem splitSign_withSign (positional : IsPositional mantissa places text) (rest : List Char)
    (negative : Bool) : splitSign (withSign negative (text ++ rest)) = (negative, text ++ rest) := by
  have head := positional.head
  cases negative with
  | true => rfl
  | false =>
    cases text with
    | nil => cases head
    | cons first text =>
      rw [List.head?_cons, Option.any_some] at head
      change splitSign (first :: (text ++ rest)) = _
      unfold splitSign
      split
      · next same => cases same; exact absurd head (by decide)
      · next same => cases same; exact absurd head (by decide)
      · rfl

theorem digits?_positional (positional : IsPositional mantissa places text) :
    digits? (text.takeWhile (· ≠ '.') ++ (text.dropWhile (· ≠ '.')).drop 1) = some mantissa ∧
      ((text.dropWhile (· ≠ '.')).drop 1).length = places := by
  cases positional with
  | whole isDigits spelled =>
    obtain ⟨taken, dropped⟩ := takeWhile_no_point (isDigits.no_point false)
    rw [withSign, if_neg Bool.false_ne_true] at taken dropped
    rw [taken, dropped, List.drop_nil, List.append_nil, digits?_eq isDigits, spelled]
    exact ⟨rfl, rfl⟩
  | @fraction whole fraction isWhole isFraction spelled =>
    obtain ⟨taken, dropped⟩ := takeWhile_point (isWhole.no_point false) fraction
    rw [withSign, if_neg Bool.false_ne_true] at taken dropped
    rw [taken, dropped, List.drop_one, List.tail_cons, digits?_eq (isWhole.append isFraction.2),
      spelled]
    exact ⟨rfl, rfl⟩

theorem ofText?_withSign {exponent : Int} (numeral : IsNumeral mantissa exponent text)
    (negative : Bool) :
    ofText? (withSign negative text) =
      some { negative, magnitude := ofScientific mantissa exponent } := by
  cases numeral with
  | positional positional =>
    have split := splitSign_withSign positional [] negative
    obtain ⟨digits, length⟩ := digits?_positional positional
    rw [List.append_nil] at split
    simp only [ofText?, split, List.takeWhile_eq_self_iff.mpr positional.unmarked,
      List.dropWhile_eq_nil_iff.mpr positional.unmarked, digits, length, Option.bind_eq_bind,
      Option.bind_some, Int.zero_sub]
  | @scientific _ _ mark text power positional isMark isPower =>
    have split := splitSign_withSign positional (mark :: power) negative
    obtain ⟨digits, length⟩ := digits?_positional positional
    have base : (text ++ mark :: power).takeWhile (fun c => !isExponentMark c) = text := by
      rw [List.takeWhile_append_of_pos positional.unmarked]
      simp [isMark]
    have behind : (text ++ mark :: power).dropWhile (fun c => !isExponentMark c) =
        mark :: power := by
      rw [List.dropWhile_append_of_pos positional.unmarked]
      simp [isMark]
    simp only [ofText?, split, base, behind, digits, length, isPower.signed?_eq digits?_eq,
      Option.bind_eq_bind, Option.bind_some]

end Double

end read

end Primer
