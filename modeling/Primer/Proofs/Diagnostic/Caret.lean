import Primer.Proofs.Diagnostic.Place

/-! Where the caret of a report stands.

The line is shown without its indentation, and the caret line is filled as wide as the column of the
place less the indentation. Columns count bytes: the caret stands under its place just if every
character of the line in front of the place takes one byte.
-/

set_option autoImplicit false

namespace Primer

open Text

namespace Diagnostic

theorem length_bar (number : Nat) :
    (bar number ++ " ").length = (toString number ++ " | ").length := by
  have margin : ("".pushn ' ' ((toString number).length + 1)).length =
      (toString number).length + 1 := by
    rw [String.length_pushn]
    exact Nat.zero_add _
  rw [bar, String.length_append, String.length_append, String.length_append, margin]
  rfl

end Diagnostic

namespace SyntaxError

variable {source : String} {error : SyntaxError}

/-- An error has a place also where its offset has lost what does not fit into a word. -/
theorem exists_place (failed : Program.ofSource source = .error error) :
    ∃ place, place? source.toList error.position.toNat = some place := by
  have hasLine : (place? source.toList error.position.toNat).isSome := by
    by_cases short : source.utf8ByteSize < UInt32.size
    · have site := site_of_ofSource short failed
      apply place?_isSome
      · simpa using site.nonempty short
      · rw [byteLength_toList]
        exact (site.boundary short).le_utf8ByteSize
    · have word := error.position.toNat_lt_size
      apply place?_isSome
      · intro empty
        have none := byteLength_toList source
        rw [empty, byteLength_nil] at none
        omega
      · rw [byteLength_toList]
        omega
  exact Option.isSome_iff_exists.mp hasLine

theorem boundary_of_place (short : source.utf8ByteSize < UInt32.size)
    (failed : Program.ofSource source = .error error) {place : Place}
    (found : place? source.toList error.position.toNat = some place) :
    byteLength place.before = place.column := by
  have boundary := (site_of_ofSource short failed).boundary short
  obtain ⟨front, back, whole, ends⟩ := String.Pos.Raw.isValid_iff_exists_append.mp boundary
  have offset : error.position.toNat = byteLength front.toList := by
    rw [byteLength_toList]
    exact congrArg String.Pos.Raw.byteIdx ends
  have pieces : (lines source.toList).flatten = front.toList ++ back.toList := by
    rw [flatten_lines, whole, String.toList_append]
  rw [offset] at found
  exact placeFrom?_boundary pieces found

/-- The caret line is filled by bytes. So the caret stands under the place of the error, as far from
the bar as the place is in the line above, if and only if as many characters as bytes of the line
are in front of the place. -/
theorem caret_under_place_iff (failed : Program.ofSource source = .error error) (name : String) :
    ∃ place, place? source.toList error.position.toNat = some place ∧
      (Diagnostic.malformed error).report { name, text := source } =
        (Diagnostic.malformed error).headline ++
          ("-> " ++ name ++ "\n" ++
            Diagnostic.bar place.number ++ "\n" ++
            toString place.number ++ " | " ++
              String.ofList (trimEnd (place.line.drop place.indentation)) ++ "\n" ++
            Diagnostic.bar place.number ++ " " ++
              "".pushn '-' (place.column - place.indentation) ++ "^\n") ∧
      (Diagnostic.bar place.number ++ " ").length = (toString place.number ++ " | ").length ∧
      (place.column - place.indentation = (place.before.drop place.indentation).length ↔
        place.column = place.before.length) ∧
      (source.utf8ByteSize < UInt32.size →
        (place.column = place.before.length ↔ ∀ c ∈ place.before, c.utf8Size = 1)) := by
  obtain ⟨place, found⟩ := exists_place failed
  refine ⟨place, found, Diagnostic.report_at rfl found, Diagnostic.length_bar place.number,
    place.column_sub_indentation_eq_iff, fun short => ?_⟩
  rw [← boundary_of_place short failed found, eq_comm]
  exact length_eq_byteLength_iff place.before

end SyntaxError

namespace Sample

/-- The spaces in front are not shown, and what follows them takes one byte for each character. -/
theorem caret_behind_number :
    Program.ofSource "\n  val x = 1" =
        .error { cause := .expected ";" "end of input", position := 12 } ∧
      ∃ place, place? "\n  val x = 1".toList 12 = some place ∧
        place.column - place.indentation = (place.before.drop place.indentation).length := by
  have failed : Program.ofSource "\n  val x = 1" =
      .error { cause := .expected ";" "end of input", position := 12 } := by
    with_unfolding_all rfl
  obtain ⟨place, found, -, -, under, -⟩ := SyntaxError.caret_under_place_iff failed "final.plc"
  have same : some place = some { number := 2, line := "  val x = 1".toList, column := 11 } :=
    found.symm.trans (by with_unfolding_all rfl)
  cases same
  exact ⟨failed, _, found, under.mpr (by with_unfolding_all rfl)⟩

/-- `é` takes two bytes, so the caret stands one character behind the end of the line. -/
theorem caret_beyond_line :
    Program.ofSource "val s = \"é\"" =
        .error { cause := .expected ";" "end of input", position := 12 } ∧
      (Diagnostic.malformed { cause := .expected ";" "end of input", position := 12 }).report
          { name := "final.plc", text := "val s = \"é\"" } =
        "Error: ExpectedToken (Expected `;`, found end of input)\n" ++
          "-> final.plc\n" ++
          "  |\n" ++
          "1 | val s = \"é\"\n" ++
          "  | ------------^\n" ∧
      "val s = \"é\"".utf8ByteSize = 12 ∧ "val s = \"é\"".length = 11 ∧
      "------------".length = 12 := by
  refine ⟨?_, ?_, ?_, ?_, ?_⟩ <;> with_unfolding_all rfl

end Sample

end Primer
