import InstructionSet.Include.Splice
import InstructionSet.Proofs.Decoding
import InstructionSet.Proofs.Text.Boundaries

/-!
# Copies of included files

The lines that take the place of a directive each end with a line feed. Put together they
are the text of the file with a line feed behind each of its lines, so they are the text
itself, completed by a last line feed, exactly if no other boundary stands inside it.
-/

set_option autoImplicit false

namespace InstructionSet.Include

open Text (fed completed OnlyFeedsInside)

theorem terminated_ofList {chars : List Char} (written : chars ≠ []) :
    terminated (String.ofList chars) = String.ofList (completed chars) := by
  have ends : chars.getLast? = some (chars.getLast written) := List.getLast?_eq_some_getLast written
  simp only [terminated, completed, String.toList_ofList, ends, Option.all_some]
  by_cases feed : chars.getLast written = '\n'
  · simp [feed]
  · simp only [Option.some_beq_some, beq_iff_eq, feed, if_false, String.ofList_append]

theorem join_terminated {lines : List (List Char)} (written : ∀ line ∈ lines, line ≠ []) :
    String.join ((lines.map String.ofList).map terminated) =
      String.ofList (lines.flatMap completed) := by
  induction lines with
  | nil => rfl
  | cons first rest ih =>
      obtain ⟨here, behind⟩ := List.forall_mem_cons.mp written
      simp only [List.map_cons, String.join_cons, terminated_ofList here, ih behind,
        List.flatMap_cons, String.ofList_append]

theorem linesWithEndings_eq (text : String) :
    Text.linesWithEndings text =
      ((Text.Line.cut text.toList).map Text.Line.whole).map String.ofList := by
  rw [List.map_map]
  rfl

theorem whole_ne_nil_of_mem {chars line : List Char}
    (member : line ∈ (Text.Line.cut chars).map Text.Line.whole) : line ≠ [] := by
  obtain ⟨cut, cutMember, rfl⟩ := List.mem_map.mp member
  exact Text.Line.whole_ne_nil cut cutMember

theorem join_splicedLines {text : String} (noReturn : '\r' ∉ text.toList) :
    String.join (splicedLines text) = String.ofList (fed text.toList) := by
  rw [splicedLines, linesWithEndings_eq, join_terminated fun _ => whole_ne_nil_of_mem,
    List.flatMap_map, Text.flatMap_completed_cut noReturn]

theorem mem_ofPlain_iff {chars : List Char} {c : Char} :
    c ∈ (Text.ofPlain chars).toList ↔ c ∈ chars := by
  have doubled (other : Char) :
      c ∈ (if other = Text.surrogateMark then [other, other] else [other]) ↔ c = other := by
    split <;> simp
  simp only [Text.ofPlain, String.toList_ofList, Text.ofChars, List.mem_flatMap, doubled,
    exists_eq_right']

/-- What has been read from a file has no carriage returns. -/
theorem not_mem_of_textOf {files : Files} {path : Path} {span : Span} {text : String}
    (read : textOf files path span = .ok text) : '\r' ∉ text.toList := by
  obtain ⟨bytes, -, read⟩ := bind_ok read
  cases decoded : Text.Utf8.decodeWhole bytes with
  | error fault => simp [Text.fileText, decoded, Except.map, Except.mapError] at read
  | ok chars =>
      simp only [Text.fileText, decoded, Except.map, Except.mapError, Except.ok.injEq] at read
      rw [← read, mem_ofPlain_iff]
      exact Text.not_mem_normalizeNewlines chars

section Splices

variable (files : Files) (base : Path) (source : String)

theorem spliceFrom_append (number : Nat) (lines more : List String) :
    spliceFrom files base source number (lines ++ more) =
      spliceFrom files base source number lines ++
        spliceFrom files base source (number + lines.length) more := by
  induction lines generalizing number with
  | nil => rfl
  | cons line rest ih =>
      have shifted : number + (rest.length + 1) = number + 1 + rest.length := by omega
      simp only [List.cons_append, spliceFrom, ih, List.length_cons, shifted, Trace.append_assoc]

theorem items_ofLines (lines : List String) :
    (ofLines files base source lines).items =
      banner.map (· ++ "\n") ++ (spliceFrom files base source 1 lines).items := by
  simp [ofLines, withBanner]

theorem spliceLine_of_read {number : Nat} {line target text : String}
    (directive : directive? line = some target)
    (readable : textOf files (resolve base target) { file := source, line := number } = .ok text) :
    (spliceLine files base source number line).items = splicedLines text ∧
      (spliceLine files base source number line).failure? = none := by
  simp only [spliceLine, directive, readable]
  exact ⟨by simp [Trace.items], Trace.failure?_withItems _ _⟩

/-- The lines that take the place of a directive are those of the file, each completed by a line
feed. They are the text of the file, completed by a line feed at its end, if and only if no
boundary stands inside the text that is no line feed. -/
theorem copied_verbatim_iff (before after : List String) {line target text : String}
    (directive : directive? line = some target)
    (readable :
      textOf files (resolve base target) { file := source, line := before.length + 1 } = .ok text)
    (reached : (spliceFrom files base source 1 before).failure? = none) :
    ∃ written : List String,
      (ofLines files base source (before ++ line :: after)).items =
        (ofLines files base source before).items ++ written ++
          (spliceFrom files base source (before.length + 2) after).items ∧
      String.join written = String.ofList (fed text.toList) ∧
      (String.join written = String.ofList (completed text.toList) ↔
        OnlyFeedsInside text.toList) := by
  have joined := join_splicedLines (not_mem_of_textOf readable)
  obtain ⟨items, complete⟩ := spliceLine_of_read files base source directive readable
  refine ⟨splicedLines text, ?_, joined, ?_⟩
  · have number : 1 + before.length = before.length + 1 := Nat.add_comm _ _
    rw [items_ofLines, items_ofLines, spliceFrom_append,
      Trace.items_append_of_failure?_eq_none _ reached, spliceFrom, number,
      Trace.items_append_of_failure?_eq_none _ complete, items]
    simp only [List.append_assoc]
  · rw [joined, ← Text.fed_eq_completed_iff, ← String.toList_inj]
    simp only [String.toList_ofList]

end Splices

/-- A directory with one file of the name `page`. -/
def pageOf (bytes : List UInt8) : Files where
  contents path := if path.names = ["page"] then .ok bytes else .error .notFound

def pageLine : String := "(**** include: page ****)\n"

theorem copied_verbatim_page :
    directive? pageLine = some "page" ∧
      textOf (pageOf [120, 10, 121]) (resolve {} "page") { line := 2 } =
        .ok "x\ny" ∧
      ∃ written : List String,
        (ofLines (pageOf [120, 10, 121]) {} "" ["first\n", pageLine]).items =
          banner.map (· ++ "\n") ++ ["first\n"] ++ written ∧
        String.join written = "x\ny\n" := by
  have directive : directive? pageLine = some "page" := by decide +kernel
  have readable : textOf (pageOf [120, 10, 121]) (resolve {} "page") { line := 2 } =
      .ok "x\ny" := by decide +kernel
  refine ⟨directive, readable, ?_⟩
  obtain ⟨written, items, -, verbatim⟩ :=
    copied_verbatim_iff _ {} "" ["first\n"] [] directive readable (by decide +kernel)
  refine ⟨written, ?_, verbatim.mpr (by decide)⟩
  have first : (ofLines (pageOf [120, 10, 121]) {} "" ["first\n"]).items =
      banner.map (· ++ "\n") ++ ["first\n"] := by decide +kernel
  simpa [first, spliceFrom, Trace.items] using items

/-- A form feed inside an included file gets a line feed behind it. -/
theorem form_feed_completed :
    textOf (pageOf [120, 12, 121, 10]) (resolve {} "page") { line := 1 } = .ok "x\x0cy\n" ∧
      (ofLines (pageOf [120, 12, 121, 10]) {} "" [pageLine]).items =
        banner.map (· ++ "\n") ++ ["x\x0c\n", "y\n"] ∧
      String.join ["x\x0c\n", "y\n"] ≠ String.ofList (completed "x\x0cy\n".toList) := by
  refine ⟨?_, ?_, ?_⟩
  · decide +kernel
  · decide +kernel
  · decide +kernel

end InstructionSet.Include
