import Primer.Proofs.Token.Scan

/-! Tokens that stand further apart.

What a token is depends on the token before it, and on the text behind it only as far as that text
goes on with a name, a number or an operator. So the tokens of a text remain the same when their
values are joined anew, with blanks and comments between them.
-/

set_option autoImplicit false

namespace Primer

open Lexeme

namespace Lexeme

/-- The text is empty or begins with a blank. -/
def Breaks (text : List Char) : Prop :=
  ∀ c, text.head? = some c → Text.isBlank c = true

/-- Blanks and comments, each comment with the newline that ends it. -/
inductive Spacing : List Char → Prop where
  | nothing : Spacing []
  | blank {c : Char} {rest : List Char} (white : Text.isBlank c = true) (others : Spacing rest) :
    Spacing (c :: rest)
  | comment {words rest : List Char} (line : '\n' ∉ words) (others : Spacing rest) :
    Spacing ('/' :: '/' :: (words ++ '\n' :: rest))

structure Separator (text : List Char) : Prop where
  spacing : Spacing text
  blank : text.head?.any Text.isBlank = true

section breaks

variable {piece rest : List Char}

theorem breaks_nil : Breaks [] := nofun

theorem Separator.breaks (separator : Separator piece) (text : List Char) :
    Breaks (piece ++ text) := by
  have blank := separator.blank
  cases piece with
  | nil => cases blank
  | cons c more =>
    intro first isFirst
    cases isFirst
    exact blank

theorem span_of_breaks {p : Char → Bool} (inside : ∀ c ∈ piece, p c = true) (breaks : Breaks rest)
    (visible : ∀ c, p c = true → Text.isBlank c = false) :
    (piece ++ rest).takeWhile p = piece ∧ (piece ++ rest).dropWhile p = rest := by
  rw [List.takeWhile_append_of_pos inside, List.dropWhile_append_of_pos inside]
  cases rest with
  | nil => exact ⟨List.append_nil piece, rfl⟩
  | cons c more =>
    have stops : p c = false := by
      refine Bool.eq_false_iff.mpr fun holds => ?_
      have white := breaks c rfl
      rw [visible c holds] at white
      cases white
    simp [stops]

theorem visible_of_isDigit (c : Char) (digit : c.isDigit = true) : Text.isBlank c = false :=
  isBlank_of_isNamePart (isNamePart_of_isDigit digit)

theorem fraction_of_breaks (breaks : Breaks rest) : fraction rest = [] := by
  unfold fraction
  split
  · exact absurd (breaks '.' rfl) (by decide)
  · rfl

theorem number?_digits (isDigits : IsDigits piece) (breaks : Breaks rest) :
    number? (piece ++ rest) = some piece := by
  obtain ⟨nonempty, inside⟩ := isDigits
  obtain ⟨c, more, rfl⟩ := List.exists_cons_of_ne_nil nonempty
  obtain ⟨digit, inside⟩ := List.forall_mem_cons.mp inside
  obtain ⟨taken, left⟩ := span_of_breaks inside breaks visible_of_isDigit
  rw [List.cons_append, number?, if_pos digit, taken, left, fraction_of_breaks breaks,
    List.append_nil]

theorem number?_fraction {whole places : List Char} (isWhole : IsDigits whole)
    (isPlaces : IsDigits places) (breaks : Breaks rest) :
    number? (whole ++ '.' :: places ++ rest) = some (whole ++ '.' :: places) := by
  obtain ⟨nonempty, inside⟩ := isWhole
  obtain ⟨c, more, rfl⟩ := List.exists_cons_of_ne_nil nonempty
  obtain ⟨digit, inside⟩ := List.forall_mem_cons.mp inside
  obtain ⟨nonempty, behind⟩ := isPlaces
  obtain ⟨d, others, rfl⟩ := List.exists_cons_of_ne_nil nonempty
  obtain ⟨also, behind⟩ := List.forall_mem_cons.mp behind
  have ends := span_of_breaks behind breaks visible_of_isDigit
  have noDigit : ('.').isDigit = false := by decide
  rw [List.append_assoc, List.cons_append, number?, if_pos digit,
    List.takeWhile_append_of_pos inside, List.dropWhile_append_of_pos inside, List.cons_append,
    List.takeWhile_cons_of_neg (by simp [noDigit]), List.dropWhile_cons_of_neg (by simp [noDigit]),
    List.append_nil, List.cons_append, fraction, if_pos also, ends.1]
  rfl

/-- Where the text breaks, a sign has no number behind it. -/
theorem number?_eq_none_of_breaks (breaks : Breaks rest) : number? rest = none := by
  cases rest with
  | nil => rfl
  | cons c more =>
    refine number?_eq_none (Bool.eq_false_iff.mpr fun digit => ?_)
    have white := breaks c rfl
    rw [visible_of_isDigit c digit] at white
    cases white

end breaks

end Lexeme

/-- The text of a token of this kind, as it is read behind an operand or elsewhere. -/
structure Token.Kind.Legible (kind : Token.Kind) (afterOperand : Bool) (text : List Char) :
    Prop where
  shapes : kind.Shapes text
  unsigned : afterOperand = true → kind ≠ .operator → text.head? ≠ some '-'
  mark : kind = .operator → ∀ c, text.head? = some c → isNamePart c = false

namespace Lexeme

section legible

variable {afterOperand : Bool} {text rest : List Char} {lexeme : Lexeme} {kind : Token.Kind}

theorem kind_number_ne_operator (digits : List Char) : (number digits).kind ≠ some .operator := by
  unfold number ofKind
  split <;> nofun

theorem not_operator_of_isNamePart {c : Char} (part : isNamePart c = true)
    (found : head? afterOperand (c :: text) = some lexeme) : lexeme.kind ≠ some .operator := by
  rw [isNamePart_eq, Bool.or_eq_true] at part
  rcases part with start | digit
  · rw [head?_of_isNameStart start] at found
    cases found
    nofun
  · rw [head?_of_isDigit digit] at found
    obtain ⟨digits, -, rfl⟩ := Option.map_eq_some_iff.mp found
    exact kind_number_ne_operator digits

/-- Behind an operand a minus sign is an operator, whatever comes next. -/
theorem operator_of_minus (found : head? true ('-' :: text) = some lexeme) :
    lexeme.kind = some .operator := by
  rw [head?_minus] at found
  cases read : number? text <;> simp only [read] at found <;> cases found <;> rfl

/-- A minus sign in front of a digit is an operator only behind an operand. -/
theorem operand_of_minus (digit : text.head?.any Char.isDigit = true)
    (found : head? afterOperand ('-' :: text) = some (ofKind .operator ['-'])) :
    afterOperand = true := by
  cases text with
  | nil => cases digit
  | cons c more =>
    cases afterOperand with
    | true => rfl
    | false =>
      have isDigit : c.isDigit = true := digit
      rw [head?_minus, number?, if_pos isDigit] at found
      exact absurd (congrArg Lexeme.kind (Option.some.inj found)) (kind_number_ne_operator _)

theorem legible_of_head? (found : head? afterOperand text = some lexeme)
    (isKind : lexeme.kind = some kind) : kind.Legible afterOperand lexeme.text := by
  obtain ⟨rest, rfl, stands⟩ := of_head? found
  rw [Stands, isKind] at stands
  refine ⟨stands.1, ?_, ?_⟩
  · rintro rfl other isFirst
    obtain ⟨more, isText⟩ := List.head?_eq_some_iff.mp isFirst
    rw [isText, List.cons_append] at found
    rw [operator_of_minus found] at isKind
    exact other (Option.some.inj isKind).symm
  · rintro rfl c isFirst
    obtain ⟨more, isText⟩ := List.head?_eq_some_iff.mp isFirst
    rw [isText, List.cons_append] at found
    exact Bool.eq_false_iff.mpr fun part => not_operator_of_isNamePart part found isKind

theorem head?_digits {digits : List Char} (isDigits : IsDigits digits) (rest : List Char) :
    head? afterOperand (digits ++ rest) = (number? (digits ++ rest)).map number := by
  obtain ⟨c, more, rfl⟩ := List.exists_cons_of_ne_nil isDigits.1
  exact head?_of_isDigit (isDigits.2 c List.mem_cons_self)

theorem head?_signed {sign digits : List Char} (isSign : IsSign sign)
    (unsigned : afterOperand = true → (sign ++ digits).head? ≠ some '-')
    (first : ∃ whole more, digits = whole ++ more ∧ IsDigits whole)
    (read : number? (digits ++ rest) = some digits) :
    head? afterOperand (sign ++ digits ++ rest) = some (number (sign ++ digits)) := by
  rcases isSign with rfl | rfl
  · obtain ⟨whole, more, rfl, isDigits⟩ := first
    have found : head? afterOperand (whole ++ (more ++ rest)) = _ :=
      head?_digits isDigits (more ++ rest)
    rw [← List.append_assoc, read] at found
    exact found
  · have elsewhere : afterOperand = false :=
      Bool.eq_false_iff.mpr fun operand => unsigned operand rfl
    rw [elsewhere]
    change head? false ('-' :: (digits ++ rest)) = _
    rw [head?_minus, read]
    rfl

/-- Where the text breaks, no second character belongs to a mark. -/
theorem head?_mark {c : Char} (visible : Text.isBlank c = false) (noQuote : c ≠ '\'' ∧ c ≠ '"')
    (noPart : isNamePart c = false) (breaks : Breaks rest) :
    head? afterOperand (c :: rest) = some (ofKind .operator [c]) := by
  by_cases minus : c = '-'
  · rw [minus, head?_minus, number?_eq_none_of_breaks breaks]
  have stops : ∀ d more, rest = d :: more → Text.isBlank d = true := by
    rintro d more rfl
    exact breaks d rfl
  obtain ⟨noStart, noDigit⟩ := Bool.or_eq_false_iff.mp ((isNamePart_eq c).symm.trans noPart)
  have noGap : gap? (c :: rest) = none := by
    unfold gap?
    split
    case h_1 isText =>
      cases isText
      exact absurd (stops _ _ rfl) (by decide)
    case h_2 isText =>
      cases isText
      simp [visible]
    case h_3 => rfl
  have mark : operator? (c :: rest) = some [c] := by
    unfold operator?
    split
    case h_5 isText =>
      cases isText
      simp [visible, noQuote]
    case h_6 isText => cases isText
    all_goals
      rename_i isText
      cases isText
      exact absurd (stops _ _ rfl) (by decide)
  have noCharacter : character? (c :: rest) = none := by
    unfold character?
    grind
  have noString : string? (c :: rest) = none := by
    unfold string?
    grind
  simp [head?, readers, noGap, identifier?_eq_none noStart, signed?, negative?_eq_none minus,
    number?_eq_none noDigit, noCharacter, noString, mark]

theorem head?_of_legible (legible : kind.Legible afterOperand text) (breaks : Breaks rest) :
    head? afterOperand (text ++ rest) = some (ofKind kind text) := by
  obtain ⟨shaped, unsigned, mark⟩ := legible
  cases kind with
  | identifier =>
    obtain ⟨c, more, rfl, start, inside⟩ := shaped
    rw [List.cons_append, head?_of_isNameStart start,
      (span_of_breaks inside breaks fun c => isBlank_of_isNamePart).1]
  | integer =>
    rw [← number_of_integer shaped]
    obtain ⟨sign, digits, rfl, isSign, isDigits⟩ := shaped
    exact head?_signed isSign (fun operand => unsigned operand nofun)
      ⟨digits, [], (List.append_nil digits).symm, isDigits⟩ (number?_digits isDigits breaks)
  | decimal =>
    rw [← number_of_decimal shaped]
    obtain ⟨sign, whole, places, rfl, isSign, isWhole, isPlaces⟩ := shaped
    exact head?_signed isSign (fun operand => unsigned operand nofun)
      ⟨whole, _, rfl, isWhole⟩ (number?_fraction isWhole isPlaces breaks)
  | character => exact head?_append_of_isCharacter shaped afterOperand rest
  | string => exact head?_append_of_isString shaped afterOperand rest
  | operator =>
    rcases shaped with listed | ⟨c, rfl, visible, noQuote⟩
    · simp only [List.mem_cons, List.not_mem_nil, or_false] at listed
      rcases listed with rfl | rfl | rfl | rfl <;> rfl
    · exact head?_mark visible noQuote (mark rfl c rfl) breaks

end legible

end Lexeme

namespace Token

def spelling (token : Token) : Kind × String :=
  (token.kind, token.value)

/-- A text in which the values of the tokens stand in their order, with separators between them. -/
inductive Joined : List Token → List Char → Prop where
  | nothing : Joined [] []
  | last (token : Token) : Joined [token] token.value.toList
  | next {first second : Token} {others : List Token} {gap text : List Char}
    (separator : Separator gap) (joined : Joined (second :: others) text) :
    Joined (first :: second :: others) (first.value.toList ++ (gap ++ text))

def AllLegible : Bool → List Token → Prop
  | _, [] => True
  | afterOperand, first :: others =>
    first.kind.Legible afterOperand first.value.toList ∧ AllLegible first.endsOperand others

theorem AllLegible.second {afterOperand : Bool} {front back : List Token} {first second : Token}
    (legible : AllLegible afterOperand (front ++ first :: second :: back)) :
    second.kind.Legible first.endsOperand second.value.toList := by
  induction front generalizing afterOperand with
  | nil => exact legible.2.1
  | cons head others ih => exact ih legible.2

theorem endsOperand_congr {token other : Token} (same : token.spelling = other.spelling) :
    token.endsOperand = other.endsOperand := by
  obtain ⟨kind, value⟩ := Prod.mk.inj same
  simp only [endsOperand, isReserved, kind, value]

section scanning

variable {position : Nat} {read tokens : List Token} {gap text : List Char}

theorem scanFrom_gap (position : Nat) (read : List Token) (gap text : List Char)
    (found : gap? (gap ++ text) = some gap) :
    scanFrom position read (gap ++ text) =
      scanFrom (position + Text.byteLength gap) read text :=
  scanFrom_append position (Lexeme.gap gap) (by simp [head?, readers, Lexeme.gap, found])

theorem gap?_blank {c : Char} (white : Text.isBlank c = true) (text : List Char) :
    gap? (c :: text) = some (c :: text.takeWhile Text.isBlank) := by
  unfold gap?
  split
  case h_1 isText =>
    cases isText
    exact absurd white (by decide)
  case h_2 isText =>
    cases isText
    rw [if_pos white]
  case h_3 isText => cases isText

theorem scanFrom_blank {c : Char} (white : Text.isBlank c = true) :
    scanFrom position read (c :: text) = scanFrom (position + c.utf8Size) read text := by
  have parted : text.takeWhile Text.isBlank ++ text.dropWhile Text.isBlank = text :=
    List.takeWhile_append_dropWhile
  have whole := scanFrom_gap position read (c :: text.takeWhile Text.isBlank)
    (text.dropWhile Text.isBlank)
  rw [List.cons_append, parted] at whole
  rw [whole (gap?_blank white text), Text.byteLength_cons, ← Nat.add_assoc]
  cases text with
  | nil => rfl
  | cons d others =>
    cases also : Text.isBlank d with
    | false => simp [also]
    | true =>
      have behind := scanFrom_gap (position + c.utf8Size) read
        ((d :: others).takeWhile Text.isBlank) ((d :: others).dropWhile Text.isBlank)
      rw [parted] at behind
      rw [behind]
      rw [gap?_blank also, List.takeWhile_cons_of_pos also]

theorem scanFrom_comment {words : List Char} (line : '\n' ∉ words) :
    scanFrom position read ('/' :: '/' :: (words ++ '\n' :: text)) =
      scanFrom (position + Text.byteLength ('/' :: '/' :: words)) read ('\n' :: text) := by
  refine scanFrom_gap position read ('/' :: '/' :: words) _ ?_
  have inside : ∀ c ∈ words, decide (c ≠ '\n') = true := by
    intro c member
    refine decide_eq_true ?_
    rintro rfl
    exact line member
  change some ('/' :: '/' :: (words ++ '\n' :: text).takeWhile (· ≠ '\n')) = _
  rw [List.takeWhile_append_of_pos inside]
  simp

theorem scanFrom_spacing (spacing : Spacing gap) :
    scanFrom position read (gap ++ text) =
      scanFrom (position + Text.byteLength gap) read text := by
  induction spacing generalizing position with
  | nothing => rfl
  | blank white _ ih =>
    rw [List.cons_append, scanFrom_blank white, ih, Text.byteLength_cons, Nat.add_assoc]
  | @comment words rest line _ ih =>
    have isText : '/' :: '/' :: (words ++ '\n' :: rest) ++ text =
        '/' :: '/' :: (words ++ '\n' :: (rest ++ text)) := by simp
    rw [isText, scanFrom_comment line, scanFrom_blank (by decide), ih]
    simp only [Text.byteLength_append, Text.byteLength_cons, Nat.add_assoc]

theorem scanFrom_legible (position : Nat) {token : Token}
    (legible : token.kind.Legible (read.head?.any endsOperand) token.value.toList)
    (breaks : Breaks text) :
    ∃ placed behind, placed.spelling = token.spelling ∧
      scanFrom position read (token.value.toList ++ text) =
        scanFrom behind (placed :: read) text := by
  have step := scanFrom_append position (ofKind token.kind token.value.toList)
    (head?_of_legible legible breaks)
  refine ⟨_, _, ?_, step⟩
  simp [spelling, ofKind]

/-- Tokens that are legible one behind the other are read off any text that joins them. -/
theorem scanFrom_joined (position : Nat) (read : List Token) (joined : Joined tokens text)
    (legible : AllLegible (read.head?.any endsOperand) tokens) :
    ∃ again, scanFrom position read text = .ok (read.reverse ++ again) ∧
      again.map spelling = tokens.map spelling := by
  induction joined generalizing position read with
  | nothing =>
    refine ⟨[], ?_, rfl⟩
    rw [scanFrom, List.append_nil]
  | last token =>
    obtain ⟨placed, behind, same, scanned⟩ := scanFrom_legible position legible.1
      breaks_nil
    rw [List.append_nil] at scanned
    refine ⟨[placed], ?_, by rw [List.map_singleton, List.map_singleton, same]⟩
    rw [scanned, scanFrom, List.reverse_cons]
  | @next first second others gap text separator joined ih =>
    obtain ⟨placed, behind, same, scanned⟩ := scanFrom_legible position legible.1
      (separator.breaks text)
    have later := legible.2
    rw [← endsOperand_congr same] at later
    obtain ⟨again, more, spelled⟩ := ih (behind + Text.byteLength gap) (placed :: read)
      later
    refine ⟨placed :: again, ?_, by rw [List.map_cons, List.map_cons, same, spelled]⟩
    rw [scanned, scanFrom_spacing separator.spacing, more, List.reverse_cons, List.append_assoc]
    rfl

/-- The token stands between `before` and `rest` in a text that begins `position` bytes into the
source. -/
structure Found (token : Token) (position : Nat) (text before rest : List Char) : Prop where
  whole : text = before ++ (token.value.toList ++ rest)
  start : token.start = UInt32.ofNat (position + Text.byteLength before)
  stop : token.stop =
    UInt32.ofNat (position + Text.byteLength before + Text.byteLength token.value.toList)

theorem Found.behind {token : Token} {before rest piece : List Char}
    (found : token.Found (position + Text.byteLength piece) text before rest) :
    token.Found position (piece ++ text) (piece ++ before) rest where
  whole := by rw [found.whole, List.append_assoc]
  start := by rw [found.start, Text.byteLength_append, Nat.add_assoc]
  stop := by rw [found.stop, Text.byteLength_append, Nat.add_assoc position]

def MinusBehindOperand (afterOperand : Bool) (token : Token) (rest : List Char) : Prop :=
  token.kind = .operator → token.value = "-" → rest.head?.any Char.isDigit = true →
    afterOperand = true

theorem token?_of_kind {lexeme : Lexeme} {kind : Kind} (isKind : lexeme.kind = some kind)
    (position : Nat) : lexeme.token? position = some
      { kind, value := String.ofList lexeme.text, start := UInt32.ofNat position
        stop := UInt32.ofNat (position + Text.byteLength lexeme.text) } := by
  rw [Lexeme.token?, isKind, Option.map_some]

theorem minusBehindOperand_of_head? {afterOperand : Bool} {rest : List Char} {lexeme : Lexeme}
    (read : head? afterOperand (lexeme.text ++ rest) = some lexeme)
    {token : Token} (isKind : lexeme.kind = some token.kind)
    (isText : token.value = String.ofList lexeme.text) :
    MinusBehindOperand afterOperand token rest := by
  intro isOperator isMinus digit
  have written : lexeme.text = ['-'] := by
    rw [← String.toList_ofList (l := lexeme.text), ← isText, isMinus]
    rfl
  have isLexeme : lexeme = ofKind .operator ['-'] := by
    rw [← written, ← isOperator]
    exact congrArg (Lexeme.mk · lexeme.text) isKind
  rw [written, isLexeme] at read
  exact operand_of_minus digit read

/-- What scanning finds behind the tokens already read is legible, and stands in the text. -/
theorem found_of_scanFrom (scanned : scanFrom position read text = .ok tokens) :
    ∃ more, tokens = read.reverse ++ more ∧ AllLegible (read.head?.any endsOperand) more ∧
      ∀ front token back, more = front ++ token :: back → ∃ before rest,
        token.Found position text before rest ∧
        MinusBehindOperand ((front.reverse ++ read).head?.any endsOperand) token rest := by
  fun_induction scanFrom position read text with
  | case1 =>
    cases scanned
    refine ⟨[], by simp, trivial, fun front token back split => ?_⟩
    cases front <;> cases split
  | case2 => cases scanned
  | case3 position read c others lexeme read? ih =>
    obtain ⟨behind, parted, -⟩ := of_head? read?
    rw [parted, List.drop_left] at ih scanned
    rw [parted]
    obtain ⟨more, rfl, legible, places⟩ := ih scanned
    cases isKind : lexeme.kind with
    | none =>
      have dropped : lexeme.token? position = none := by rw [Lexeme.token?, isKind, Option.map_none]
      simp only [dropped, Option.toList_none, List.nil_append] at legible places ⊢
      refine ⟨more, rfl, legible, fun front token back split => ?_⟩
      obtain ⟨before, rest, found, minus⟩ := places front token back split
      exact ⟨_, rest, found.behind, minus⟩
    | some kind =>
      have isPlaced := token?_of_kind isKind position
      simp only [isPlaced, Option.toList_some, List.cons_append, List.nil_append]
        at legible places ⊢
      refine ⟨_ :: more, by simp, ⟨?_, legible⟩, fun front token back split => ?_⟩
      · rw [String.toList_ofList]
        exact legible_of_head? read? isKind
      · cases front with
        | nil =>
          cases split
          refine ⟨[], behind, ⟨?_, rfl, ?_⟩,
            minusBehindOperand_of_head? (parted ▸ read?) isKind rfl⟩
          · rw [String.toList_ofList, List.nil_append]
          · rw [String.toList_ofList]
            rfl
        | cons first front =>
          cases split
          obtain ⟨before, rest, found, minus⟩ := places front token back rfl
          refine ⟨_, rest, found.behind, ?_⟩
          simpa using minus

end scanning

/-- Scanning does not depend on the spacing. The values of scanned tokens, joined by any separators,
are scanned as tokens of the same kinds and values in the same order. A number with a minus sign
never stands right behind a token that ends an operand, and a minus sign that is an operator with a
digit right behind it always does. -/
theorem scan_spacing {source : String} {tokens : List Token} (scanned : scan source = .ok tokens) :
    (∀ text, Joined tokens text → ∃ again, scan (String.ofList text) = .ok again ∧
      again.map spelling = tokens.map spelling) ∧
    (∀ front first second back, tokens = front ++ first :: second :: back →
      second.kind = .integer ∨ second.kind = .decimal → second.value.toList.head? = some '-' →
      first.endsOperand = false) ∧
    ∀ front token back, tokens = front ++ token :: back → ∃ before rest,
      token.Found 0 source.toList before rest ∧
      (token.kind = .operator → token.value = "-" → rest.head?.any Char.isDigit = true →
        front.getLast?.any endsOperand = true) := by
  obtain ⟨tokens, rfl, legible, places⟩ := found_of_scanFrom scanned
  refine ⟨fun text joined => ?_, ?_, fun front token back split => ?_⟩
  · obtain ⟨again, read, same⟩ := scanFrom_joined 0 [] joined legible
    refine ⟨again, ?_, same⟩
    rw [scan, String.toList_ofList, read, List.reverse_nil, List.nil_append]
  · rintro front first second back rfl isNumber signed
    refine Bool.eq_false_iff.mpr fun operand => ?_
    refine AllLegible.second legible |>.unsigned operand ?_ signed
    rcases isNumber with isKind | isKind <;> rw [isKind] <;> nofun
  · obtain ⟨before, rest, found, minus⟩ := places front token back split
    rw [List.append_nil, List.head?_reverse] at minus
    exact ⟨before, rest, found, minus⟩

theorem separator_space : Separator [' '] :=
  ⟨.blank (by decide) .nothing, rfl⟩

theorem separator_comment : Separator " // -1\n".toList :=
  ⟨.blank (by decide) (@Spacing.comment " -1".toList [] (by decide) .nothing), rfl⟩

/-- A subtraction, a division and a negative divisor, with a comment in front of the divisor. -/
theorem scan_spacing_signed : ∃ tokens text again,
    scan "x-1/-2.5" = .ok tokens ∧ Joined tokens text ∧
      String.ofList text = "x - 1 / // -1\n-2.5" ∧ scan (String.ofList text) = .ok again ∧
      again.map spelling = tokens.map spelling ∧
      (∃ front first second, tokens = front ++ [first, second] ∧ second.kind = .decimal ∧
        second.value.toList.head? = some '-' ∧ first.endsOperand = false) ∧
      ∃ front token back before rest, tokens = front ++ token :: back ∧
        token.Found 0 "x-1/-2.5".toList before rest ∧ token.kind = .operator ∧ token.value = "-" ∧
        rest.head?.any Char.isDigit = true ∧ front.getLast?.any endsOperand = true := by
  let x : Token := { kind := .identifier, value := "x", start := 0, stop := 1 }
  let minus : Token := { kind := .operator, value := "-", start := 1, stop := 2 }
  let one : Token := { kind := .integer, value := "1", start := 2, stop := 3 }
  let slash : Token := { kind := .operator, value := "/", start := 3, stop := 4 }
  let divisor : Token := { kind := .decimal, value := "-2.5", start := 4, stop := 8 }
  have scanned : scan "x-1/-2.5" = .ok [x, minus, one, slash, divisor] := by
    with_unfolding_all rfl
  have joined : Joined [x, minus, one, slash, divisor] _ :=
    .next separator_space (.next separator_space (.next separator_space
      (.next separator_comment (.last divisor))))
  obtain ⟨spaced, signs, minuses⟩ := scan_spacing scanned
  obtain ⟨again, read, same⟩ := spaced _ joined
  obtain ⟨before, rest, found, operand⟩ := minuses [x] minus [one, slash, divisor] rfl
  -- Both minus signs of the source stand in front of a digit.
  have digits : ∀ place < "x-1/-2.5".toList.length, "x-1/-2.5".toList[place]? = some '-' →
      "x-1/-2.5".toList[place + 1]?.any Char.isDigit = true := by decide
  have digit := digits before.length (by rw [found.whole]; simp [minus])
    (by rw [found.whole]; simp [minus])
  rw [found.whole, show minus.value.toList = ['-'] from by decide, ← List.append_assoc,
    List.getElem?_append_right (by simp), List.length_append, List.length_singleton,
    Nat.sub_self, ← List.head?_eq_getElem?] at digit
  exact ⟨_, _, again, scanned, joined, by decide, read, same,
    ⟨[x, minus, one], slash, divisor, rfl, rfl, by decide,
      signs [x, minus, one] slash divisor [] rfl (.inr rfl) (by decide)⟩,
    [x], minus, [one, slash, divisor], before, rest, rfl, found, rfl, rfl, digit,
    operand rfl rfl digit⟩

end Token

end Primer
