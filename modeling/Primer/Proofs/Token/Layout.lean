import Primer.Proofs.Token.Shape
import Primer.Token.Scan

/-! Texts laid out as tokens.

Scanning loses nothing: the tokens stand in the text in their order, with nothing but blanks and
comments between them. It fails only at a quote that opens no literal, and the text in front of the
quote is laid out in the same way.
-/

set_option autoImplicit false

namespace Primer

open Lexeme Text

namespace Token

/-- A text that begins `start` bytes into the source, taken apart into tokens and the gaps around
them. The text goes on with `after`. -/
inductive Layout : Nat → List Char → List Token → List Char → Prop where
  | gap {start : Nat} {gap after : List Char} (isGap : IsGap gap after) : Layout start gap [] after
  | token {start : Nat} {gap rest after : List Char} {token : Token} {tokens : List Token}
      (isGap : IsGap gap (token.value.toList ++ (rest ++ after)))
      (starts : token.start.toNat = start + byteLength gap)
      (stops : token.stop.toNat = token.start.toNat + byteLength token.value.toList)
      (shaped : token.kind.Shapes token.value.toList)
      (ends : ¬ token.kind.Continues (rest ++ after))
      (others : Layout token.stop.toNat rest tokens after) :
      Layout start (gap ++ (token.value.toList ++ rest)) (token :: tokens) after

/-- The token's place is a piece of the source that reads as the token's value. -/
structure Spans (token : Token) (source : String) : Prop where
  nonempty : token.start < token.stop
  starts : String.Pos.Raw.IsValid source ⟨token.start.toNat⟩
  stops : String.Pos.Raw.IsValid source ⟨token.stop.toNat⟩
  value : source.toByteArray.extract token.start.toNat token.stop.toNat = token.value.toByteArray

/-- The tokens take the source apart up to `after`. -/
structure Splits (source : String) (text after : List Char) (tokens : List Token) : Prop where
  whole : source.toList = text ++ after
  layout : Layout 0 text tokens after
  spans : ∀ token ∈ tokens, token.Spans source
  ordered : tokens.Pairwise fun first second => first.stop ≤ second.start

theorem ne_nil_of_shapes {kind : Kind} {text : List Char} (shaped : kind.Shapes text) :
    text ≠ [] := by
  rintro rfl
  cases kind with
  | identifier =>
    obtain ⟨_, _, isText, -, -⟩ := shaped
    cases isText
  | integer =>
    obtain ⟨sign, digits, isText, -, isDigits⟩ := shaped
    exact isDigits.1 (List.append_eq_nil_iff.mp isText.symm).2
  | decimal =>
    obtain ⟨sign, whole, places, isText, -, isDigits, -⟩ := shaped
    have unsigned := (List.append_eq_nil_iff.mp isText.symm).2
    exact List.cons_ne_nil _ _ (List.append_eq_nil_iff.mp unsigned).2
  | character =>
    obtain ⟨_, -, isText⟩ := shaped
    cases isText
  | string =>
    obtain ⟨_, -, isText⟩ := shaped
    cases isText
  | operator =>
    rcases shaped with listed | ⟨_, isText, -⟩
    · simp at listed
    · cases isText

namespace Layout

variable {start : Nat} {gap text after : List Char} {tokens : List Token}

theorem gap_append (isGap : IsGap gap (text ++ after))
    (layout : Layout (start + byteLength gap) text tokens after) :
    Layout start (gap ++ text) tokens after := by
  cases layout with
  | gap other => exact .gap (isGap_append isGap other)
  | token other starts stops shaped ends others =>
    rw [← List.append_assoc]
    refine .token (isGap_append ?_ other) ?_ stops shaped ends others
    · simpa using isGap
    · rw [starts, byteLength_append, Nat.add_assoc]

theorem start_le (layout : Layout start text tokens after) :
    ∀ token ∈ tokens, start ≤ token.start.toNat := by
  induction layout with
  | gap => exact nofun
  | token isGap starts stops shaped ends others ih =>
    intro token member
    rcases List.mem_cons.mp member with rfl | later
    · omega
    · have inOrder := ih token later
      omega

theorem ordered (layout : Layout start text tokens after) :
    tokens.Pairwise fun first second => first.stop ≤ second.start := by
  induction layout with
  | gap => exact .nil
  | token _ _ _ _ _ others ih =>
    refine .cons (fun second member => ?_) ih
    exact UInt32.le_iff_toNat_le.mpr (others.start_le second member)

/-- The bytes of the source that a token takes up are those of its value. -/
theorem spans_head {source : String} {before value behind : List Char} {token : Token}
    (whole : source.toList = before ++ (value ++ behind)) (isValue : token.value.toList = value)
    (starts : token.start.toNat = byteLength before)
    (stops : token.stop.toNat = token.start.toNat + byteLength value) (nonempty : value ≠ []) :
    token.Spans source := by
  have parted : source = String.ofList before ++ (token.value ++ String.ofList behind) := by
    rw [← String.toList_inj, whole, ← isValue]
    simp
  have size : byteLength value = token.value.utf8ByteSize := by rw [← isValue, byteLength_toList]
  rw [byteLength_eq_utf8ByteSize_ofList before] at starts
  refine ⟨?_, ?_, ?_, ?_⟩
  · have positive := byteLength_pos nonempty
    exact UInt32.lt_iff_toNat_lt.mpr (by omega)
  · exact String.Pos.Raw.isValid_iff_exists_append.mpr ⟨_, _, parted, by rw [starts]; rfl⟩
  · refine String.Pos.Raw.isValid_iff_exists_append.mpr
      ⟨String.ofList before ++ token.value, String.ofList behind, ?_, ?_⟩
    · rw [parted, String.append_assoc]
    · rw [stops, starts, size, ← String.utf8ByteSize_append]
      rfl
  · have upTo : token.stop.toNat = (String.ofList before ++ token.value).toByteArray.size := by
      rw [stops, starts, size, String.size_toByteArray, String.utf8ByteSize_append]
    rw [parted, ← String.append_assoc, String.toByteArray_append, upTo,
      ByteArray.extract_append_size_left, String.toByteArray_append]
    exact ByteArray.extract_append_eq_right starts ByteArray.size_append

theorem spans {source : String} {before : List Char} (layout : Layout start text tokens after)
    (begins : start = byteLength before) (whole : source.toList = before ++ (text ++ after)) :
    ∀ token ∈ tokens, token.Spans source := by
  induction layout generalizing before with
  | gap => exact nofun
  | @token start gap rest after token tokens isGap starts stops shaped ends others ih =>
    -- Before the token stand all earlier tokens and gaps, and the gap right before it.
    have behindGap : source.toList =
        (before ++ gap) ++ (token.value.toList ++ (rest ++ after)) := by
      rw [whole]
      simp only [List.append_assoc]
    have isStart : token.start.toNat = byteLength (before ++ gap) := by
      rw [starts, begins, byteLength_append]
    intro other member
    rcases List.mem_cons.mp member with rfl | later
    · exact spans_head behindGap rfl isStart stops (ne_nil_of_shapes shaped)
    · have isStop : token.stop.toNat = byteLength (before ++ gap ++ token.value.toList) := by
        rw [stops, isStart, byteLength_append (before ++ gap)]
      refine ih isStop ?_ other later
      rw [behindGap]
      simp only [List.append_assoc]

/-- A lexeme in front of a text becomes its first token or part of the gap in front of it. -/
theorem of_lexeme {lexeme : Lexeme} (stands : lexeme.Stands (text ++ after))
    (short : start + byteLength lexeme.text < UInt32.size)
    (layout : Layout (start + byteLength lexeme.text) text tokens after) :
    Layout start (lexeme.text ++ text) ((lexeme.token? start).toList ++ tokens) after := by
  unfold Lexeme.Stands at stands
  unfold Lexeme.token?
  cases isKind : lexeme.kind with
  | none =>
    rw [isKind] at stands
    exact gap_append stands layout
  | some kind =>
    simp only [isKind] at stands
    have starts : (UInt32.ofNat start).toNat = start :=
      UInt32.toNat_ofNat_of_lt' (Nat.lt_of_le_of_lt (Nat.le_add_right _ _) short)
    have stops : (UInt32.ofNat (start + byteLength lexeme.text)).toNat =
      start + byteLength lexeme.text := UInt32.toNat_ofNat_of_lt' short
    -- There is no gap in front of the token, as far as this lexeme goes.
    have placed := @Layout.token start [] text after
      { kind, value := String.ofList lexeme.text, start := UInt32.ofNat start
        stop := UInt32.ofNat (start + byteLength lexeme.text) } tokens .nothing
    rw [String.toList_ofList, starts, stops] at placed
    exact placed rfl rfl stands.1 stands.2 layout

end Layout

/-- Behind the tokens already read, the text is laid out to its end or to a stray quote. -/
theorem layout_of_scanFrom (position : Nat) (read : List Token) (text : List Char)
    (short : position + byteLength text < UInt32.size) :
    match scanFrom position read text with
    | .ok tokens => ∃ more, tokens = read.reverse ++ more ∧ Layout position text more []
    | .error error => ∃ before quote rest more, text = before ++ quote :: rest ∧
        Stray quote rest ∧ error = { cause := .unrecognised quote.toString
                                     position := UInt32.ofNat (position + byteLength before) } ∧
        Layout position before more (quote :: rest) := by
  fun_induction scanFrom position read text with
  | case1 => exact ⟨[], by simp, .gap .nothing⟩
  | case2 position read c rest found =>
    exact ⟨[], c, rest, [], rfl, of_head?_eq_none found, rfl, .gap .nothing⟩
  | case3 position read c rest lexeme found ih =>
    obtain ⟨behind, parted, stands⟩ := of_head? found
    rw [parted, byteLength_append] at short
    rw [parted, List.drop_left] at ih ⊢
    have scanned := ih (by omega)
    cases result : scanFrom (position + byteLength lexeme.text)
        ((lexeme.token? position).toList ++ read) behind with
    | ok tokens =>
      rw [result] at scanned
      obtain ⟨more, rfl, layout⟩ := scanned
      refine ⟨(lexeme.token? position).toList ++ more, ?_, ?_⟩
      · cases lexeme.token? position <;> simp
      · exact .of_lexeme (by simpa using stands) (by omega) layout
    | error error =>
      rw [result] at scanned
      obtain ⟨before, quote, rest, more, rfl, stray, rfl, layout⟩ := scanned
      refine ⟨lexeme.text ++ before, quote, rest, _, by simp, stray, ?_,
        .of_lexeme stands (by omega) layout⟩
      rw [byteLength_append, Nat.add_assoc]

theorem splits_of_layout {source : String} {text after : List Char} {tokens : List Token}
    (whole : source.toList = text ++ after) (layout : Layout 0 text tokens after) :
    Splits source text after tokens :=
  ⟨whole, layout, layout.spans byteLength_nil.symm whole, layout.ordered⟩

theorem splits_of_scan {source : String} {tokens : List Token}
    (short : source.utf8ByteSize < UInt32.size) (scanned : scan source = .ok tokens) :
    Splits source source.toList [] tokens := by
  have layout := layout_of_scanFrom 0 [] source.toList (by simpa using short)
  rw [show scanFrom 0 [] source.toList = .ok tokens from scanned] at layout
  obtain ⟨more, rfl, layout⟩ := layout
  exact splits_of_layout (by simp) layout

theorem stray_of_scan {source : String} {error : SyntaxError}
    (short : source.utf8ByteSize < UInt32.size) (failed : scan source = .error error) :
    ∃ before quote rest tokens, Splits source before (quote :: rest) tokens ∧
      Stray quote rest ∧ error.cause = .unrecognised quote.toString ∧
      error.position.toNat = byteLength before := by
  have layout := layout_of_scanFrom 0 [] source.toList (by simpa using short)
  rw [show scanFrom 0 [] source.toList = .error error from failed] at layout
  obtain ⟨before, quote, rest, more, whole, stray, rfl, layout⟩ := layout
  -- Positions fit into 32 bits because the source does.
  have inside : byteLength before < UInt32.size := by
    have size := congrArg byteLength whole
    rw [byteLength_toList, byteLength_append] at size
    omega
  refine ⟨before, quote, rest, more, splits_of_layout whole layout, stray, rfl, ?_⟩
  rw [Nat.zero_add]
  exact UInt32.toNat_ofNat_of_lt' inside

/-- Scanning takes a whole source apart, or stops at a quote that opens no literal and takes the
text in front of it apart. -/
theorem scan_lossless {source : String} (short : source.utf8ByteSize < UInt32.size) :
    match scan source with
    | .ok tokens => Splits source source.toList [] tokens
    | .error error => ∃ before quote rest tokens, Splits source before (quote :: rest) tokens ∧
        Stray quote rest ∧ error.cause = .unrecognised quote.toString ∧
        error.position.toNat = byteLength before := by
  cases scanned : scan source with
  | ok tokens => exact splits_of_scan short scanned
  | error error => exact stray_of_scan short scanned

/-- The first quote is part of a comment and the last one opens no literal. `é` takes two bytes. -/
theorem scan_stops_at_quote :
    "x//'\n-1\"é\"'".utf8ByteSize < UInt32.size ∧
      scan "x//'\n-1\"é\"'" = .error { cause := .unrecognised "'", position := 11 } ∧
      ∃ before quote rest tokens, Splits "x//'\n-1\"é\"'" before (quote :: rest) tokens ∧
        Stray quote rest ∧ "'" = quote.toString ∧ byteLength before = 11 := by
  have short : "x//'\n-1\"é\"'".utf8ByteSize < UInt32.size := by decide
  have scanned : scan "x//'\n-1\"é\"'" =
      .error { cause := .unrecognised "'", position := 11 } := by
    with_unfolding_all rfl
  have lossless := scan_lossless short
  rw [scanned] at lossless
  obtain ⟨before, quote, rest, tokens, splits, stray, cause, position⟩ := lossless
  exact ⟨short, scanned, before, quote, rest, tokens, splits, stray,
    SyntaxError.Cause.unrecognised.inj cause, position.symm⟩

end Token

end Primer
