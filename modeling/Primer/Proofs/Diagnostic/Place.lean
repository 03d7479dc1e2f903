import Primer.Diagnostic.Report
import Primer.Proofs.Grammar.Progress
import Primer.Proofs.Text.Column
import Primer.Proofs.Token.Layout

/-! Every error in the form of a source shows at a place of the source.

The place is that of the quote at which scanning stopped, the end of a token, or the start of the
token that begins no item. A report of the error then has the name of the source, the line with this
place and a caret.
-/

set_option autoImplicit false

namespace Primer

open Text

namespace Parse

variable {α : Type} {cursor after : Cursor} {error : SyntaxError}

theorem Lands.stop {count : α → Nat}
    (lands : Lands cursor 1 count (.error error after)) :
    ∃ token ∈ cursor.tokens, error.position = token.stop := by
  obtain ⟨reaches, position⟩ := lands
  have passed : 0 < after.position := Nat.lt_of_lt_of_le (Nat.succ_pos _) reaches.onwards
  obtain ⟨token, member, stops⟩ := Cursor.offset_mem reaches.within passed
  exact ⟨token, reaches.tokens ▸ member, position.trans stops⟩

/-- Either an item breaks off behind a token, or a token begins no item. -/
theorem error_of_program (within : cursor.Within) (ran : program cursor = .error error after) :
    (∃ token ∈ cursor.tokens, error.position = token.stop) ∨
      ∃ token ∈ cursor.tokens,
        error = { cause := .unexpected token.value, position := token.start } := by
  have globals := Moves.of_parallel (fun _ => parallel_collect parallel_global?) cursor within
  rcases program_eq_error.mp ran with failed | ⟨_, middle, returned, rest⟩
  · rw [failed] at globals
    exact .inl globals.stop
  · rw [returned] at globals
    have first : cursor.Reaches 0 middle := globals
    have functions := Moves.of_parallel (fun _ => parallel_collect parallel_function?) middle
      first.within
    rw [← first.tokens]
    rcases rest with failed | ⟨_, token, returned, found, rfl⟩
    · rw [failed] at functions
      exact .inl functions.stop
    · rw [returned] at functions
      have second : middle.Reaches 0 after := functions
      exact .inr ⟨token, second.tokens ▸ Array.mem_of_getElem? found, rfl⟩

end Parse

/-- What stands in the source where the error shows. -/
inductive SyntaxError.Site (source : String) (error : SyntaxError) : Prop where
  | quote {before rest : List Char} {quote : Char} (whole : source.toList = before ++ quote :: rest)
      (scanned : Token.scan source = .error error)
      (cause : error.cause = .unrecognised quote.toString)
      (position : error.position.toNat = byteLength before)
  | stop {tokens : List Token} {token : Token} (scanned : Token.scan source = .ok tokens)
      (member : token ∈ tokens) (position : error.position = token.stop)
  | start {tokens : List Token} {token : Token} (scanned : Token.scan source = .ok tokens)
      (member : token ∈ tokens) (cause : error.cause = .unexpected token.value)
      (position : error.position = token.start)

theorem Token.site_of_scan {source : String} {error : SyntaxError}
    (short : source.utf8ByteSize < UInt32.size) (failed : scan source = .error error) :
    error.Site source := by
  obtain ⟨before, quote, rest, tokens, splits, -, cause, position⟩ := stray_of_scan short failed
  exact .quote splits.whole failed cause position

theorem SyntaxError.site_of_ofSource {source : String} {error : SyntaxError}
    (short : source.utf8ByteSize < UInt32.size) (failed : Program.ofSource source = .error error) :
    error.Site source := by
  unfold Program.ofSource at failed
  cases scanned : Token.scan source with
  | error first =>
    rw [scanned] at failed
    cases failed
    exact Token.site_of_scan short scanned
  | ok tokens =>
    rw [scanned] at failed
    obtain ⟨after, ran⟩ := Program.ofTokens_eq_error.mp failed
    have begins : (Cursor.ofTokens tokens).Within := Nat.zero_le _
    rcases Parse.error_of_program begins ran with
      ⟨token, member, position⟩ | ⟨token, member, rfl⟩
    · exact .stop scanned (List.mem_toArray.mp member) position
    · exact .start scanned (List.mem_toArray.mp member) rfl rfl

theorem Token.Spans.source_ne {token : Token} {source : String} (spans : token.Spans source) :
    source ≠ "" := by
  rintro rfl
  have stops : token.stop.toNat ≤ 0 := spans.stops.le_utf8ByteSize
  have longer := UInt32.lt_iff_toNat_lt.mp spans.nonempty
  omega

theorem Diagnostic.report_at {diagnostic : Diagnostic} {document : Document} {offset : Offset}
    {place : Place} (positioned : diagnostic.position? = some offset)
    (found : place? document.text.toList offset.toNat = some place) :
    diagnostic.report document = diagnostic.headline ++ excerpt document.name place := by
  unfold report
  rw [positioned, Option.bind_some, found]
  rfl

namespace SyntaxError

variable {source : String} {error : SyntaxError}

/-- A place of the source lies between two of its characters, or at one of its ends. -/
theorem Site.boundary (site : error.Site source) (short : source.utf8ByteSize < UInt32.size) :
    String.Pos.Raw.IsValid source ⟨error.position.toNat⟩ := by
  cases site with
  | @quote before rest quote whole scanned cause position =>
    refine String.Pos.Raw.isValid_iff_exists_append.mpr
      ⟨String.ofList before, String.ofList (quote :: rest), ?_, ?_⟩
    · rw [← String.toList_inj, whole]
      simp
    · rw [position, byteLength_eq_utf8ByteSize_ofList]
      rfl
  | stop scanned member position =>
    rw [position]
    exact ((Token.splits_of_scan short scanned).spans _ member).stops
  | start scanned member cause position =>
    rw [position]
    exact ((Token.splits_of_scan short scanned).spans _ member).starts

theorem Site.nonempty (site : error.Site source) (short : source.utf8ByteSize < UInt32.size) :
    source ≠ "" := by
  cases site with
  | quote whole =>
    rintro rfl
    simp at whole
  | stop scanned member | start scanned member =>
    exact ((Token.splits_of_scan short scanned).spans _ member).source_ne

/-- Whatever is malformed in a source shows at a place that the source has. A report names the
source, shows the line of this place without its indentation, and has a caret line under it. -/
theorem shown_in_report (short : source.utf8ByteSize < UInt32.size)
    (failed : Program.ofSource source = .error error) (name : String) :
    source ≠ "" ∧
      error.position.toNat ≤ source.utf8ByteSize ∧
      String.Pos.Raw.IsValid source ⟨error.position.toNat⟩ ∧
      error.Site source ∧
      ∃ place, place? source.toList error.position.toNat = some place ∧
        (Diagnostic.malformed error).report { name, text := source } =
          (Diagnostic.malformed error).headline ++
            ("-> " ++ name ++ "\n" ++
              Diagnostic.bar place.number ++ "\n" ++
              toString place.number ++ " | " ++
                String.ofList (trimEnd (place.line.drop place.indentation)) ++ "\n" ++
              Diagnostic.bar place.number ++ " " ++
                "".pushn '-' (place.column - place.indentation) ++ "^\n") := by
  have site := site_of_ofSource short failed
  have nonempty := site.nonempty short
  have boundary := site.boundary short
  have inside : error.position.toNat ≤ source.utf8ByteSize := boundary.le_utf8ByteSize
  have hasLine : (place? source.toList error.position.toNat).isSome := by
    apply place?_isSome
    · simpa using nonempty
    · rw [byteLength_toList]
      exact inside
  obtain ⟨place, found⟩ := Option.isSome_iff_exists.mp hasLine
  exact ⟨nonempty, inside, boundary, site, place, found, Diagnostic.report_at rfl found⟩

end SyntaxError

namespace Sample

/-- The semicolon is missed behind the last token, where the source ends. `é` takes two bytes. -/
theorem missing_semicolon_shown :
    "val s = \"é\"".utf8ByteSize < UInt32.size ∧
      Program.ofSource "val s = \"é\"" =
        .error { cause := .expected ";" "end of input", position := 12 } ∧
      "val s = \"é\"" ≠ "" ∧ 12 ≤ "val s = \"é\"".utf8ByteSize ∧
      place? "val s = \"é\"".toList 12 =
        some { number := 1, line := "val s = \"é\"".toList, column := 12 } ∧
      (Diagnostic.malformed { cause := .expected ";" "end of input", position := 12 }).report
          { name := "final.plc", text := "val s = \"é\"" } =
        "Error: ExpectedToken (Expected `;`, found end of input)\n" ++
          "-> final.plc\n" ++
          "  |\n" ++
          "1 | val s = \"é\"\n" ++
          "  | ------------^\n" := by
  have short : "val s = \"é\"".utf8ByteSize < UInt32.size := by decide
  have failed : Program.ofSource "val s = \"é\"" =
      .error { cause := .expected ";" "end of input", position := 12 } := by
    with_unfolding_all rfl
  obtain ⟨nonempty, inside, -, -, place, found, report⟩ :=
    SyntaxError.shown_in_report short failed "final.plc"
  have same : some place = some { number := 1, line := "val s = \"é\"".toList, column := 12 } :=
    found.symm.trans (by with_unfolding_all rfl)
  cases same
  exact ⟨short, failed, nonempty, inside, found, report.trans (by with_unfolding_all rfl)⟩

end Sample

end Primer
