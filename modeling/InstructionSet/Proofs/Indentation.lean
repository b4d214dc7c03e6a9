import InstructionSet.Proofs.Dependence
import InstructionSet.Proofs.Fragments

/-!
# Indentation

The unit of indentation is chosen after everything else is settled. What a generation writes is
laid out as rows, each with its depth and its text, and a unit only says how wide a level of depth
is. So two generations that differ in their units alone lay out the same rows, and they fail alike
(`generate_of_indentation`).
-/

set_option autoImplicit false

namespace InstructionSet

/-! ## Pages -/

/-- The rows of a layout as a page, unless there are none. -/
def Layout.pages (layout : Layout) : List (List Row) :=
  if (layout.sheet 0).rows.isEmpty then [] else [(layout.sheet 0).rows]

theorem Layout.mem_of_mem_pages {layout : Layout} {row : Row}
    (member : row ∈ layout.pages.flatten) : row ∈ (layout.sheet 0).rows := by
  unfold pages at member
  split at member
  · cases member
  · simpa using member

namespace Row

variable (unit : String)

theorem renderAll_isEmpty (rows : List Row) : (renderAll unit rows).isEmpty = rows.isEmpty := by
  by_cases written : rows = []
  · rw [written]
    rfl
  · obtain ⟨front, ended⟩ := exists_renderAll_eq_append_lineFeed unit written
    have behind : (front ++ "\n").isEmpty = false := by simp [String.isEmpty_eq_false_iff]
    rw [ended, behind, List.isEmpty_eq_false_iff.mpr written]

theorem renderAll_flatten (pages : List (List Row)) :
    renderAll unit pages.flatten = String.join (pages.map (renderAll unit)) := by
  induction pages with
  | nil => rfl
  | cons page pages ih => simp [ih]

end Row

/-! ## Passes with another unit -/

theorem Dispatch.arm_indent (config : Config) (rules : RuleTable) (unit : String)
    (record : Record) : arm (config.set .indent unit) rules record = arm config rules record := by
  have parts : destructure (config.set .indent unit) rules record =
      destructure config rules record := by
    have accessors : (config.set .indent unit).accessorStem = config.accessorStem := rfl
    exact destructureFrom_congr accessors rules 0 record.parameters
  simp only [arm, bindings, parts]
  rfl

namespace Pass

/-- A pass that indents with a unit in place of its own. -/
def indentedBy (pass : Pass) (unit : String) : Pass :=
  { pass with config := pass.config.set .indent unit }

variable (pass : Pass)

def rows (record : Record) : List Row := ((pass.layout record).sheet 0).rows

/-- The pages behind the records. A failure leaves them out. -/
def closingPages : Option Failure → List (List Row)
  | none => pass.epilogue.pages
  | some _ => []

variable (unit : String)

/-- No layout of a record reads the unit of indentation. -/
theorem layout_indentedBy (record : Record) :
    (pass.indentedBy unit).layout record = pass.layout record := by
  obtain ⟨artifact?, config, duplicates, rules⟩ := pass
  cases artifact? with
  | none => rfl
  | some artifact =>
      cases artifact with
      | dispatch => exact Dispatch.arm_indent config rules unit record
      | opcodeType | interpreter | primitiveTable | nodeType | lowering => rfl

theorem prologue_indentedBy : (pass.indentedBy unit).prologue = pass.prologue := by
  obtain ⟨artifact?, config, duplicates, rules⟩ := pass
  cases artifact? with
  | none => rfl
  | some artifact => cases artifact <;> rfl

theorem text_indentedBy (record : Record) :
    (pass.indentedBy unit).text record = Row.renderAll unit (pass.rows record) := by
  rw [text, layout_indentedBy, rows]
  rfl

theorem chunkAlone_indentedBy (layout : Layout) :
    (pass.indentedBy unit).chunkAlone layout = layout.pages.map (Row.renderAll unit) := by
  rw [chunkAlone_eq]
  have unitGiven : (pass.indentedBy unit).config.indent = unit := rfl
  simp only [unitGiven, Row.renderAll_isEmpty, Layout.pages]
  split <;> rfl

theorem closing_indentedBy (failure? : Option Failure) :
    (pass.indentedBy unit).closing failure? =
      (pass.closingPages failure?).map (Row.renderAll unit) := by
  cases failure? with
  | none => exact pass.chunkAlone_indentedBy unit pass.epilogue
  | some failure => rfl

/-- With every unit a pass writes the same pages. -/
theorem items_emit_indentedBy {artifact : Artifact} (writes : pass.artifact = some artifact)
    (records : Trace Record) :
    let accepted := (artifact.stop? pass.duplicates).accept records.failure? []
      (records.items.filter artifact.selects)
    ((pass.indentedBy unit).emit records).items =
      (pass.prologue.pages ++ accepted.1.map pass.rows ++ pass.closingPages accepted.2).map
        (Row.renderAll unit) := by
  intro accepted
  have writesToo : (pass.indentedBy unit).artifact = some artifact := writes
  have failure : ((pass.indentedBy unit).emit records).failure? = accepted.2 :=
    failure?_emit writesToo records
  have front : (pass.indentedBy unit).front = pass.prologue.pages.map (Row.renderAll unit) := by
    rw [Pass.front, prologue_indentedBy, chunkAlone_indentedBy]
  have texts : (pass.indentedBy unit).text = Row.renderAll unit ∘ pass.rows :=
    funext (pass.text_indentedBy unit)
  rw [items_emit writesToo, failure, front, closing_indentedBy, texts, List.map_append,
    List.map_append, List.map_map]
  rfl

end Pass

theorem Pass.tidy_prologue {pass : Pass} {row : Row} (member : row ∈ pass.prologue.pages.flatten) :
    row.Tidy := by
  have laid := Layout.mem_of_mem_pages member
  unfold prologue at laid
  split at laid
  · obtain rfl := List.mem_singleton.mp laid
    simp [Row.ofLine, Row.Tidy, Text.allBlank, Text.isBlank]
  · cases laid

theorem Pass.tidy_closingPages {pass : Pass} {failure? : Option Failure} {row : Row}
    (member : row ∈ (pass.closingPages failure?).flatten) : row.Tidy := by
  cases failure? with
  | some failure => cases member
  | none =>
      have laid := Layout.mem_of_mem_pages member
      unfold epilogue at laid
      split at laid
      · have tail : ∀ row ∈ (OpcodeType.tail.sheet 0).rows, row.Tidy := by decide
        exact tail row laid
      · cases laid

/-! ## The rows of a record -/

/-- Rows that an artifact may lay out for a record: lines of its own, and the fragment of the
record in its bracket if it splices one. -/
def Artifact.Lays (artifact : Artifact) (config : Config) (record : Record) (rows : List Row) :
    Prop :=
  match artifact.splicedKey? record with
  | none => rows ≠ [] ∧ ∀ row ∈ rows, row.Tidy
  | some key => ∃ text, record.require key = .ok text ∧ artifact.Frames config record text rows

theorem OpcodeType.tidy_printerRows (record : Record) (opcode : String) :
    ∀ row ∈ printerRows record opcode, row.Tidy := by
  unfold printerRows
  cases record.suppressPrinter <;> cases record.customPrinter <;>
    simp [Row.Tidy, Text.allBlank, Text.isBlank]

section Laid

variable {artifact : Artifact} {record : Record}
variable (config : Config) (duplicates : DuplicatePolicy) (rules : RuleTable)

theorem Pass.tidy_rows {inst : String} (unspliced : artifact.splicedKey? record = none)
    (named : record.requireInst = .ok inst) :
    ∀ row ∈ (Pass.mk (some artifact) config duplicates rules).rows record, row.Tidy := by
  have opcode := Record.opcodeName_of_requireInst named
  have node : record.nodeName = .ok inst := named
  cases artifact with
  | opcodeType =>
      simp only [Pass.rows, Pass.layout, OpcodeType.sheet_variant opcode, List.forall_mem_cons]
      refine ⟨?_, OpcodeType.tidy_printerRows record _⟩
      simp [Row.Tidy, OpcodeType.declaration, Text.allBlank, Text.isBlank]
  | nodeType =>
      simp only [Pass.rows, Pass.layout, NodeType.sheet_variant config node,
        List.forall_mem_singleton]
      simp [Row.Tidy, NodeType.declaration, Text.allBlank, Text.isBlank]
  | lowering =>
      simp only [Pass.rows, Pass.layout, Lowering.sheet_case config node opcode,
        List.forall_mem_cons]
      simp [Row.Tidy, Text.allBlank, Text.isBlank, Lowering.transformLine]
  | dispatch | interpreter | primitiveTable => cases unspliced

theorem Pass.lays_rows (complete : artifact.lacks? record = none) :
    artifact.Lays config record
      ((Pass.mk (some artifact) config duplicates rules).rows record) := by
  obtain ⟨⟨inst, named, -⟩, present⟩ := Artifact.present_of_lacks? complete
  unfold Artifact.Lays
  cases spliced : artifact.splicedKey? record with
  | none => exact ⟨rows_ne_nil rfl complete, tidy_rows config duplicates rules spliced named⟩
  | some key =>
      obtain ⟨text, given⟩ := present key spliced
      exact ⟨text, given, frames_rows spliced given named⟩

end Laid

/-- Before a unit of indentation is chosen there is one list of rows, and one failure if there is
any, for a generation. With every unit the generation writes these rows, as far as it gets, and
ends in this failure. A blank line of the artifact's own is an empty row at the margin, and the
lines of a fragment are one level deeper than its bracket. -/
theorem generate_of_indentation (artifact : Artifact) (config : Config)
    (duplicates : DuplicatePolicy) (rules : RuleTable) (records : Trace Record) :
    ∃ failure? front sheets back written,
      written <+: records.items.filter artifact.selects ∧
      (failure? = none → written = records.items.filter artifact.selects) ∧
      List.Forall₂ (artifact.Lays config) written sheets ∧
      (∀ row ∈ (front ++ back).flatten, row.Tidy) ∧
      ∀ unit : String,
        let pass : Pass :=
          { artifact := some artifact, config := { config with indent := unit }, duplicates, rules }
        let pages := front ++ sheets ++ back
        (pass.emit records).failure? = failure? ∧
          (pass.emit records).items = pages.map (Row.renderAll unit) ∧
          generate pass records =
            match failure? with
            | some failure => .error failure
            | none => .ok (Row.renderAll unit pages.flatten) := by
  -- The rows are those of a pass with any unit, for none of them reads it.
  let base : Pass := { artifact := some artifact, config, duplicates, rules }
  let accepted := (artifact.stop? duplicates).accept records.failure? []
    (records.items.filter artifact.selects)
  refine ⟨accepted.2, base.prologue.pages, accepted.1.map base.rows, base.closingPages accepted.2,
    accepted.1, ?_, ?_, ?_, ?_, ?_⟩
  · exact (artifact.stop? duplicates).accept_isPrefix records.failure? [] _
  · intro finished
    exact (Guard.ending_of_accept_eq_none finished).2
  · rw [List.forall₂_map_right_iff, List.forall₂_same]
    intro record member
    exact Pass.lays_rows config duplicates rules (Artifact.complete_of_mem_accept member)
  · intro row member
    rw [List.flatten_append, List.mem_append] at member
    rcases member with front | back
    · exact Pass.tidy_prologue front
    · exact Pass.tidy_closingPages back
  · intro unit pass pages
    have failure : (pass.emit records).failure? = accepted.2 := Pass.failure?_emit rfl records
    have items : (pass.emit records).items = pages.map (Row.renderAll unit) :=
      base.items_emit_indentedBy unit rfl records
    refine ⟨failure, items, ?_⟩
    rw [Row.renderAll_flatten, ← items, ← failure]
    rfl

end InstructionSet
