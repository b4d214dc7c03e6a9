import InstructionSet.Diagnostic.Code
import InstructionSet.Diagnostic.Span
import InstructionSet.Proofs.Text.Marks

/-!
# Texts of spans and codes

The text of a span can be cut into its parts again, and so can the text of a code. So spans and
codes whose texts are equal are equal, where a span shows all that it has. What is said of spans and
of the spelling of codes holds for numbers of any size, also for those that have too many digits to
be shown (`Number.digitLimit`).
-/

set_option autoImplicit false

namespace InstructionSet

/-! ## Spans -/

namespace Span

/-- No number of the span is hidden, and its file, if it has one, is written like nothing else in a
text: not like an unnamed input, and without what begins the other parts. -/
structure Legible (span : Span) : Prop where
  named : span.file ≠ "<input>"
  noColon : ':' ∉ span.file.toList
  noBracket : '(' ∉ span.file.toList
  line : 0 ≤ span.line
  column : 0 ≤ span.column
  columnBehindLine : span.line = 0 → span.column = 0
  document : -1 ≤ span.document

def shownColumn (column : Int) : String := if 0 < column then ":" ++ toString column else ""

def shownPlace (line column : Int) : String :=
  if 0 < line then ":" ++ toString line ++ shownColumn column else ""

def gap (document : Int) : String := if 0 ≤ document then " " else ""

def shownDocument (document : Int) : String :=
  if 0 ≤ document then "(document " ++ toString document ++ ")" else ""

theorem text_eq_parts (span : Span) :
    span.text = shownFile span.file ++ shownPlace span.line span.column ++ gap span.document ++
      shownDocument span.document := by
  by_cases shown : 0 ≤ span.document
  · have opening : " (document " = " " ++ "(document " := rfl
    simp only [text, shownPlace, shownColumn, gap, shownDocument, if_pos shown, opening,
      String.append_assoc]
  · simp only [text, shownPlace, shownColumn, gap, shownDocument, if_neg shown, String.append_empty]

/-! ### Parts and the marks that begin them -/

theorem head?_shownColumn (column : Int) : ∀ c ∈ (shownColumn column).toList.head?, c = ':' := by
  unfold shownColumn
  split <;> simp

theorem head?_shownPlace (line column : Int) :
    ∀ c ∈ (shownPlace line column).toList.head?, c = ':' := by
  unfold shownPlace
  split <;> simp

theorem head?_shownDocument (document : Int) :
    ∀ c ∈ (shownDocument document).toList.head?, c = '(' := by
  unfold shownDocument
  split <;> simp

theorem bracket_not_mem_shownColumn (column : Int) : '(' ∉ (shownColumn column).toList := by
  unfold shownColumn
  split
  · next shown =>
    rw [String.toList_append, List.mem_append, not_or]
    exact ⟨by decide, Text.not_mem_toString (by decide) (Int.le_of_lt shown)⟩
  · exact List.not_mem_nil

theorem bracket_not_mem_shownPlace (line column : Int) :
    '(' ∉ (shownPlace line column).toList := by
  unfold shownPlace
  split
  · next shown =>
    simp only [String.toList_append, List.mem_append, not_or]
    exact ⟨⟨by decide, Text.not_mem_toString (by decide) (Int.le_of_lt shown)⟩,
      bracket_not_mem_shownColumn column⟩
  · exact List.not_mem_nil

theorem bracket_not_mem_gap (document : Int) : '(' ∉ (gap document).toList := by
  unfold gap
  split <;> decide

section File

variable {file other : String} {mark : Char}

theorem not_mem_shownFile (lacks : mark ∉ file.toList) (unnamed : mark ∉ "<input>".toList) :
    mark ∉ (shownFile file).toList := by
  unfold shownFile
  split <;> assumption

theorem file_eq_of_shownFile_eq (named : file ≠ "<input>") (namedToo : other ≠ "<input>")
    (same : shownFile file = shownFile other) : file = other := by
  by_cases empty : file.isEmpty <;> by_cases emptyToo : other.isEmpty <;>
    simp only [shownFile, empty, emptyToo, if_true, if_false, Bool.false_eq_true] at same
  · rw [String.isEmpty_iff.mp empty, String.isEmpty_iff.mp emptyToo]
  · exact absurd same.symm namedToo
  · exact absurd same named
  · exact same

end File

/-! ### What a part shows -/

section Numbers

variable {line column document otherLine otherColumn otherDocument : Int}

theorem document_eq_of_shownDocument_eq (numbered : -1 ≤ document)
    (numberedToo : -1 ≤ otherDocument)
    (same : shownDocument document = shownDocument otherDocument) : document = otherDocument := by
  by_cases shown : 0 ≤ document <;> by_cases shownToo : 0 ≤ otherDocument <;>
    simp only [shownDocument, shown, shownToo, if_true, if_false] at same
  · simp only [String.append_left_inj, String.append_right_inj] at same
    exact Text.eq_of_toString_eq shown shownToo same
  · simp at same
  · simp at same
  · omega

theorem column_eq_of_shownColumn_eq (counted : 0 ≤ column) (countedToo : 0 ≤ otherColumn)
    (same : shownColumn column = shownColumn otherColumn) : column = otherColumn := by
  by_cases shown : 0 < column <;> by_cases shownToo : 0 < otherColumn <;>
    simp only [shownColumn, shown, shownToo, if_true, if_false] at same
  · rw [String.append_right_inj] at same
    exact Text.eq_of_toString_eq counted countedToo same
  · simp at same
  · simp at same
  · omega

/-- The colon behind the line ends it, so the line is not longer with a part of the column. -/
theorem line_eq_of_shownPlace_eq (shown : 0 < line) (shownToo : 0 < otherLine)
    (same : shownPlace line column = shownPlace otherLine otherColumn) :
    line = otherLine ∧ shownColumn column = shownColumn otherColumn := by
  rw [shownPlace, shownPlace, if_pos shown, if_pos shownToo, String.append_assoc,
    String.append_assoc, String.append_right_inj] at same
  have counted := Int.le_of_lt shown
  have countedToo := Int.le_of_lt shownToo
  obtain ⟨lines, columns⟩ := Text.string_append_inj_of_mark
    (Text.not_mem_toString (by decide) counted) (head?_shownColumn column)
    (Text.not_mem_toString (by decide) countedToo) (head?_shownColumn otherColumn) same
  exact ⟨Text.eq_of_toString_eq counted countedToo lines, columns⟩

theorem place_eq_of_shownPlace_eq (counted : 0 ≤ line) (countedToo : 0 ≤ otherLine)
    (columnCounted : 0 ≤ column) (columnCountedToo : 0 ≤ otherColumn)
    (behind : line = 0 → column = 0) (behindToo : otherLine = 0 → otherColumn = 0)
    (same : shownPlace line column = shownPlace otherLine otherColumn) :
    line = otherLine ∧ column = otherColumn := by
  by_cases shown : 0 < line <;> by_cases shownToo : 0 < otherLine
  · obtain ⟨lines, columns⟩ := line_eq_of_shownPlace_eq shown shownToo same
    exact ⟨lines, column_eq_of_shownColumn_eq columnCounted columnCountedToo columns⟩
  · simp [shownPlace, shown, shownToo] at same
  · simp [shownPlace, shown, shownToo] at same
  · have lines : line = 0 ∧ otherLine = 0 := by omega
    simp [lines, behind lines.1, behindToo lines.2]

end Numbers

theorem Legible.bracket_not_mem {span : Span} (legible : span.Legible) :
    '(' ∉ (shownFile span.file ++ shownPlace span.line span.column ++
      gap span.document).toList := by
  simp only [String.toList_append, List.mem_append, not_or]
  exact ⟨⟨not_mem_shownFile legible.noBracket (by decide), bracket_not_mem_shownPlace _ _⟩,
    bracket_not_mem_gap _⟩

/-- Legible spans with one text are equal: the bracket and the colons show where the text is cut.
This covers spans with numbers that have too many digits to be shown. -/
theorem text_eq_text_iff {first second : Span} (legible : first.Legible)
    (legibleToo : second.Legible) : first.text = second.text ↔ first = second := by
  refine ⟨fun same => ?_, fun same => same ▸ rfl⟩
  rw [text_eq_parts, text_eq_parts] at same
  obtain ⟨fronts, brackets⟩ := Text.string_append_inj_of_mark
    legible.bracket_not_mem (head?_shownDocument _)
    legibleToo.bracket_not_mem (head?_shownDocument _) same
  have documents : first.document = second.document :=
    document_eq_of_shownDocument_eq legible.document legibleToo.document brackets
  rw [documents, String.append_left_inj] at fronts
  obtain ⟨names, places⟩ := Text.string_append_inj_of_mark
    (not_mem_shownFile legible.noColon (by decide)) (head?_shownPlace _ _)
    (not_mem_shownFile legibleToo.noColon (by decide)) (head?_shownPlace _ _) fronts
  have files : first.file = second.file :=
    file_eq_of_shownFile_eq legible.named legibleToo.named names
  obtain ⟨lines, columns⟩ := place_eq_of_shownPlace_eq legible.line legibleToo.line legible.column
    legibleToo.column legible.columnBehindLine legibleToo.columnBehindLine places
  cases first
  cases second
  rw [mk.injEq]
  exact ⟨files, lines, columns, documents⟩

/-- The digits of a line and of its column do not run together. -/
theorem text_ne_of_same_digits :
    let first : Span := { file := "rules 2.yaml", line := 1, column := 12, document := 0 }
    let second : Span := { file := "rules 2.yaml", line := 11, column := 2, document := 0 }
    first.Legible ∧ second.Legible ∧ first.text ≠ second.text := by
  intro first second
  have legible : first.Legible := by constructor <;> decide
  have legibleToo : second.Legible := by constructor <;> decide
  have apart : first ≠ second := by decide
  exact ⟨legible, legibleToo, mt (text_eq_text_iff legible legibleToo).mp apart⟩

end Span

/-! ## Codes -/

namespace Code

variable {first second : Code}

/-- A negative number has a hyphen of its own. -/
example :
    let first := own (-1234) .internalError .internal
    let second : Code := { own 1234 .internalError .internal with family := "VMG-" }
    first.text? = second.text? ∧ first.same second = false := by
  decide +kernel

end Code

end InstructionSet
