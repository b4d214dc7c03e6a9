import InstructionSet.Artifact.Pass
import InstructionSet.Proofs.Rows

/-!
# Rows of the artifacts

What each artifact writes for a record that lacks nothing, row by row, and when a
record lacks something. The depths are those of a printer that stands at the left
margin, as it does before each record.
-/

set_option autoImplicit false

namespace InstructionSet

theorem Row.ofLine_line (binding : Binding) (level : Int) :
    Row.ofLine level binding.line = ⟨level.toNat, binding.line⟩ := by
  simp [Binding.line, Row.ofLine, Text.allBlank, Text.isBlank]

namespace Layout

/-- The failure of a layout does not depend on where it starts. -/
def failure? : Layout → Option Failure
  | .nothing | .line _ | .blank _ | .fragment _ | .indent _ | .dedent _ => none
  | .block _ _ body => body.failure?
  | .stop failure => some failure
  | .andThen first second => first.failure?.or second.failure?

theorem sheet_failure? (layout : Layout) (level : Int) :
    (layout.sheet level).failure? = layout.failure? := by
  induction layout generalizing level with
  | nothing | line | blank | fragment | indent | dedent | stop => rfl
  | block header levels body ih => exact ih (level + levels)
  | andThen first second firstIH secondIH =>
      simp only [sheet, Sheet.followedBy, failure?, ← firstIH level]
      cases ended : (first.sheet level).failure? with
      | some failure => simpa using ended
      | none => simpa using secondIH _

@[simp] theorem failure?_append (first second : Layout) :
    (first ++ second).failure? = first.failure?.or second.failure? := rfl

@[simp] theorem failure?_lineAt (depth : Nat) (text : String) :
    (lineAt depth text).failure? = none := rfl

@[simp] theorem failure?_lines (texts : List String) : (lines texts).failure? = none := by
  induction texts with
  | nil => rfl
  | cons text texts ih => exact ih

@[simp] theorem sheet_append (first second : Layout) (level : Int) :
    (first ++ second).sheet level = (first.sheet level).followedBy second.sheet := rfl

@[simp] theorem sheet_lineAt (depth : Nat) (text : String) (level : Int) :
    (lineAt depth text).sheet level = ⟨[Row.ofLine (level + depth) text], max 0 level, none⟩ := by
  simp [lineAt, sheet]

@[simp] theorem sheet_lines (texts : List String) (level : Int) :
    (lines texts).sheet level = ⟨texts.map (Row.ofLine level), level, none⟩ := by
  induction texts with
  | nil => rfl
  | cons text texts ih =>
      change (line text ++ lines texts).sheet level = _
      simp [sheet, ih]

end Layout

/-! ## Dispatch arms -/

namespace Dispatch

variable (config : Config) (rules : RuleTable) (record : Record)

def openingRows (patterns : List String) : List Row :=
  if patterns.isEmpty then []
  else [⟨4, "match " ++ config.stack ++ " with"⟩, ⟨4, patternLine config patterns⟩]

def bodyRows (code : String) : List Row :=
  if record.isPrimitive then
    ⟨6, "let " ++ config.result ++ " ="⟩ :: (Text.lines code).map (Row.mk 7) ++
      [⟨6, "in " ++ config.vmExec ++ " (" ++ config.result ++ " :: " ++ config.stack ++ ") " ++
        config.environment ++ " " ++ config.code ++ " " ++ config.dump⟩]
  else ⟨6, "begin"⟩ :: (Text.lines code).map (Row.mk 7) ++ [⟨6, "end"⟩]

def mismatchRows (opcode : String) (patterns : List String) : List Row :=
  if patterns.isEmpty then []
  else [⟨4, "| _ -> " ++ config.bugReporter ++ " \x22invalid argument for " ++ opcode ++ "\x22"⟩]

def armRows (opcode code : String) : List Row :=
  let parts := destructure config rules record
  [⟨1, headLine opcode record.fields⟩, ⟨3, "begin"⟩] ++ openingRows config parts.patterns ++
    (bindings config rules record).map (fun binding => ⟨6, binding.line⟩) ++
    bodyRows config record code ++ [⟨0, ""⟩] ++ mismatchRows config opcode parts.patterns ++
    [⟨3, "end"⟩, ⟨0, ""⟩]

theorem sheet_opening (patterns : List String) :
    (opening config patterns).sheet 4 = ⟨openingRows config patterns, 4, none⟩ := by
  unfold opening openingRows patternLine
  split
  · rfl
  · simp [Layout.sheet, Row.ofLine, Text.allBlank, Text.isBlank]

theorem sheet_mismatch (opcode : String) (patterns : List String) :
    (mismatch config opcode patterns).sheet 4 =
      ⟨mismatchRows config opcode patterns, 4, none⟩ := by
  unfold mismatch mismatchRows
  split
  · rfl
  · simp [Layout.sheet, Row.ofLine, Text.allBlank, Text.isBlank]

theorem sheet_body {code : String} (present : record.require .code = .ok code) :
    (body config record).sheet 6 = ⟨bodyRows config record code, 6, none⟩ := by
  unfold body bodyRows spliced
  split
  · simp +decide [present, Layout.withValue, Layout.sheet, Row.ofLine, Text.allBlank, Text.isBlank]
  · simp +decide [present, Layout.withValue, Layout.sheet, Row.ofLine]

theorem failure?_opening (patterns : List String) : (opening config patterns).failure? = none := by
  unfold opening
  split <;> rfl

theorem failure?_mismatch (opcode : String) (patterns : List String) :
    (mismatch config opcode patterns).failure? = none := by
  unfold mismatch
  split <;> rfl

theorem failure?_body :
    (body config record).failure? =
      match record.require .code with
      | .error failure => some failure
      | .ok _ => none := by
  unfold body spliced
  cases record.require .code <;> split <;> rfl

theorem sheet_arm {opcode code : String} (named : record.opcodeName = .ok opcode)
    (present : record.require .code = .ok code) :
    (arm config rules record).sheet 0 = ⟨armRows config rules record opcode code, 3, none⟩ := by
  have head : Row.ofLine 1 (headLine opcode record.fields) = ⟨1, headLine opcode record.fields⟩ := by
    simp [headLine, Row.ofLine, Text.allBlank, Text.isBlank]
  unfold arm armRows
  simp only [named, Layout.withValue]
  simp [Layout.sheet, sheet_opening, sheet_mismatch, sheet_body _ _ present, Int.max_def, head,
    Row.ofLine_line, Function.comp_def]
  simp [Row.ofLine, Text.allBlank, Text.isBlank]

end Dispatch

/-! ## Opcode types -/

namespace OpcodeType

def printerRows (record : Record) (opcode : String) : List Row :=
  (if record.suppressPrinter then
      [⟨3, "[@printer (fun fmt _ -> Format.fprintf fmt \x22" ++ opcode ++ "(...)\x22)]"⟩]
    else []) ++
    record.customPrinter.toList.map fun printer =>
      ⟨3, "[@printer (" ++ Text.trimmedEnd printer ++ ")]"⟩

theorem sheet_variant {record : Record} {opcode : String} (named : record.opcodeName = .ok opcode) :
    (variant record).sheet 0 =
      ⟨⟨1, declaration opcode record.fields⟩ :: printerRows record opcode, 0, none⟩ := by
  have head : Row.ofLine 1 (declaration opcode record.fields) =
      ⟨1, declaration opcode record.fields⟩ := by
    simp [declaration, Row.ofLine, Text.allBlank, Text.isBlank]
  have hidden : Row.ofLine 3
        ("[@printer (fun fmt _ -> Format.fprintf fmt \x22" ++ opcode ++ "(...)\x22)]") =
      ⟨3, "[@printer (fun fmt _ -> Format.fprintf fmt \x22" ++ opcode ++ "(...)\x22)]"⟩ := by
    simp [Row.ofLine, Text.allBlank, Text.isBlank]
  have replaced (text : String) :
      Row.ofLine 3 ("[@printer (" ++ text ++ ")]") = ⟨3, "[@printer (" ++ text ++ ")]"⟩ := by
    simp [Row.ofLine, Text.allBlank, Text.isBlank]
  unfold variant printerRows
  simp only [named, Layout.withValue]
  cases record.suppressPrinter <;> cases record.customPrinter <;>
    simp [Layout.sheet, head, hidden, replaced]

end OpcodeType

/-! ## Interpreter cases -/

namespace Interpreter

def caseRows (config : Config) (record : Record) (node body : String) : List Row :=
  ⟨1, "| " ++ applied node (subterms record.arity) ++ " ->"⟩ ::
    (bindings config record).map (fun binding => ⟨3, binding.line⟩) ++ [⟨4, "begin"⟩] ++
    (Text.lines body).map (Row.mk 5) ++ [⟨4, "end"⟩, ⟨0, ""⟩]

theorem sheet_case (config : Config) {record : Record} {node body : String}
    (named : record.nodeName = .ok node) (present : record.interpBody = .ok body) :
    (case_ config record).sheet 0 = ⟨caseRows config record node body, 4, none⟩ := by
  unfold case_ caseRows
  simp only [named, present, Layout.withValue]
  simp [Layout.sheet, Int.max_def, Row.ofLine_line, Function.comp_def]
  simp [Row.ofLine, Text.allBlank, Text.isBlank]

end Interpreter

/-! ## The table of primitives -/

namespace PrimitiveTable

def entryRows (record : Record) (node signature : String) : List Row :=
  [⟨4, "(\x22" ++ publicName record ++ "\x22,"⟩, ⟨5, "begin"⟩] ++
    (Text.lines signature).map (Row.mk 6) ++
    [⟨5, "end,"⟩, ⟨5, wrapperOf node record.arity⟩, ⟨4, ");"⟩]

theorem sheet_entry {record : Record} {node signature : String}
    (named : record.nodeName = .ok node) (present : record.require .type = .ok signature) :
    (entry record).sheet 0 = ⟨entryRows record node signature, 4, none⟩ := by
  have wrapped (level : Int) : Row.ofLine level (wrapperOf node record.arity) =
      ⟨level.toNat, wrapperOf node record.arity⟩ := by
    unfold wrapperOf
    split <;> simp [Row.ofLine, Text.allBlank, Text.isBlank]
  unfold entry entryRows wrapper
  simp only [named, present, Layout.withValue, Except.map]
  simp [Layout.sheet, Int.max_def, wrapped]
  simp [Row.ofLine, Text.allBlank, Text.isBlank]

end PrimitiveTable

/-! ## Nodes and their lowering -/

theorem NodeType.sheet_variant (config : Config) {record : Record} {node : String}
    (named : record.nodeName = .ok node) :
    (NodeType.variant config record).sheet 0 =
      ⟨[⟨1, NodeType.declaration config node record.arity⟩], 0, none⟩ := by
  unfold NodeType.variant NodeType.declaration
  simp only [named, Layout.withValue]
  simp [Row.ofLine, Text.allBlank, Text.isBlank]

theorem Lowering.sheet_case (config : Config) {record : Record} {node opcode : String}
    (named : record.nodeName = .ok node) (coded : record.opcodeName = .ok opcode) :
    (Lowering.case_ config record).sheet 0 =
      ⟨[⟨2, "| " ++ applied node (Lowering.subtrees record.arity) ++ " ->"⟩,
        ⟨4, Lowering.transformLine config opcode record.arity⟩, ⟨0, ""⟩], 0, none⟩ := by
  unfold Lowering.case_ Lowering.transformLine
  simp only [named, coded, Layout.withValue]
  simp [Layout.sheet, Row.ofLine, Text.allBlank, Text.isBlank]

/-! ## What a record may lack -/

theorem Record.opcodeName_of_requireInst {record : Record} {inst : String}
    (named : record.requireInst = .ok inst) : record.opcodeName = .ok ("Op" ++ inst) := by
  rw [opcodeName, named, Except.map]

/-- The key of the text that an artifact splices into what it generates. -/
def Artifact.splicedKey? : Artifact → Record → Option TextKey
  | .dispatch, _ => some .code
  | .interpreter, record => some record.interpKey
  | .primitiveTable, _ => some .type
  | .opcodeType, _ | .nodeType, _ | .lowering, _ => none

/-- What a record lacks for an artifact: its identifier, or else the text to splice. -/
def Artifact.lacks? (artifact : Artifact) (record : Record) : Option Failure :=
  match record.requireInst with
  | .error failure => some failure
  | .ok _ =>
      match artifact.splicedKey? record with
      | none => none
      | some key =>
          match record.require key with
          | .error failure => some failure
          | .ok _ => none

namespace Artifact

variable {artifact : Artifact} {record : Record} {inst : String}
variable (named : record.requireInst = .ok inst)

include named

theorem lacks?_of_named (unspliced : artifact.splicedKey? record = none) :
    artifact.lacks? record = none := by
  simp only [lacks?, named, unspliced]

theorem lacks?_of_present {key : TextKey} {text : String}
    (spliced : artifact.splicedKey? record = some key) (present : record.require key = .ok text) :
    artifact.lacks? record = none := by
  simp only [lacks?, named, spliced, present]

end Artifact

/-- The layout of a record fails exactly when the record lacks something. -/
theorem Pass.layout_failure? {pass : Pass} {artifact : Artifact}
    (writes : pass.artifact = some artifact) (record : Record) :
    (pass.layout record).failure? = artifact.lacks? record := by
  unfold Artifact.lacks?
  cases named : record.requireInst with
  | error failure =>
      cases artifact <;>
        simp [Pass.layout, writes, Dispatch.arm, OpcodeType.variant, Interpreter.case_,
          PrimitiveTable.entry, PrimitiveTable.wrapper, NodeType.variant, Lowering.case_,
          Record.opcodeName, Record.nodeName, named, Except.map, Layout.withValue,
          Layout.failure?]
  | ok inst =>
      have node : record.nodeName = .ok inst := named
      have opcode := Record.opcodeName_of_requireInst named
      cases artifact with
      | dispatch =>
          simp only [Pass.layout, writes, Dispatch.arm, opcode, Layout.withValue]
          simp [Dispatch.failure?_opening, Dispatch.failure?_mismatch, Dispatch.failure?_body,
            Layout.failure?, Artifact.splicedKey?]
      | interpreter =>
          simp only [Pass.layout, writes, Interpreter.case_, node, Layout.withValue,
            Record.interpBody]
          cases present : record.require record.interpKey <;>
            simp [Layout.failure?, Artifact.splicedKey?, present]
      | primitiveTable =>
          simp only [Pass.layout, writes, PrimitiveTable.entry, PrimitiveTable.wrapper, node,
            Layout.withValue, Except.map]
          cases present : record.require .type <;>
            simp [Layout.failure?, Artifact.splicedKey?, present]
      | opcodeType =>
          rw [← Layout.sheet_failure? _ 0]
          simp only [Pass.layout, writes, OpcodeType.sheet_variant opcode, Artifact.splicedKey?]
      | nodeType =>
          rw [← Layout.sheet_failure? _ 0]
          simp only [Pass.layout, writes, NodeType.sheet_variant _ node, Artifact.splicedKey?]
      | lowering =>
          rw [← Layout.sheet_failure? _ 0]
          simp only [Pass.layout, writes, Lowering.sheet_case _ node opcode, Artifact.splicedKey?]

/-- A record that lacks nothing has an identifier, and the text to splice if there is
one. -/
theorem Artifact.present_of_lacks? {artifact : Artifact} {record : Record}
    (complete : artifact.lacks? record = none) :
    (∃ inst, record.nodeName = .ok inst ∧ record.opcodeName = .ok ("Op" ++ inst)) ∧
      ∀ key, artifact.splicedKey? record = some key → ∃ text, record.require key = .ok text := by
  unfold Artifact.lacks? at complete
  cases named : record.requireInst with
  | error failure => simp [named] at complete
  | ok inst =>
      refine ⟨⟨inst, named, Record.opcodeName_of_requireInst named⟩, ?_⟩
      intro key spliced
      cases present : record.require key with
      | error failure => simp [named, spliced, present] at complete
      | ok text => exact ⟨text, rfl⟩

theorem Pass.rows_ne_nil {pass : Pass} {artifact : Artifact} (writes : pass.artifact = some artifact)
    {record : Record} (complete : artifact.lacks? record = none) :
    ((pass.layout record).sheet 0).rows ≠ [] := by
  obtain ⟨⟨inst, node, opcode⟩, spliced⟩ := Artifact.present_of_lacks? complete
  cases artifact with
  | dispatch =>
      obtain ⟨code, present⟩ := spliced .code rfl
      simp [Pass.layout, writes, Dispatch.sheet_arm _ _ _ opcode present, Dispatch.armRows]
  | opcodeType => simp [Pass.layout, writes, OpcodeType.sheet_variant opcode]
  | interpreter =>
      obtain ⟨body, present⟩ := spliced record.interpKey rfl
      simp [Pass.layout, writes, Interpreter.sheet_case _ node present, Interpreter.caseRows]
  | primitiveTable =>
      obtain ⟨signature, present⟩ := spliced .type rfl
      simp [Pass.layout, writes, PrimitiveTable.sheet_entry node present,
        PrimitiveTable.entryRows]
  | nodeType => simp [Pass.layout, writes, NodeType.sheet_variant _ node]
  | lowering => simp [Pass.layout, writes, Lowering.sheet_case _ node opcode]

end InstructionSet
