import InstructionSet.Proofs.Decoding
import InstructionSet.Proofs.Reading.Chunks
import InstructionSet.Proofs.Reading.Components

/-!
# Arguments of opcodes

The types of an opcode's fields are copied as they are, and a star in one of them
separates arguments like the stars between them. An arm binds a name for each field,
and a lowering case refers to the opcode alone.
-/

set_option autoImplicit false

namespace InstructionSet

open Reading

def Record.fieldTypes (record : Record) : List String := (record.fields.getD []).map Field.type

def Record.fieldNames (record : Record) : List String := (record.fields.getD []).map Field.name

theorem declaredOpcode?_declaration {opcode : String} (valid : isName opcode = true)
    (fields : Option (List Field)) :
    declaredOpcode? (OpcodeType.declaration opcode fields) =
      some (opcode,
        match fields with
        | none => 0
        | some fields => components (" * ".intercalate (fields.map Field.type))) := by
  have characters : ∀ character ∈ opcode.toList, isNameCharacter character = true :=
    List.all_eq_true.mp (Bool.and_eq_true_iff.mp valid).2
  have taken (rest : List Char) (fresh : isFresh rest = true) :
      (opcode.toList ++ rest).takeWhile isNameCharacter = opcode.toList ∧
        (opcode.toList ++ rest).dropWhile isNameCharacter = rest := by
    rw [List.takeWhile_append_of_pos characters, List.dropWhile_append_of_pos characters]
    cases rest with
    | nil => simp
    | cons character rest =>
        have other : isNameCharacter character = false := by
          simpa [isFresh] using fresh
        simp [other]
  cases fields with
  | none =>
      obtain ⟨front, back⟩ := taken [] rfl
      rw [List.append_nil] at front back
      simp [declaredOpcode?, OpcodeType.declaration, front, back]
  | some fields =>
      simp only [OpcodeType.declaration]
      generalize " * ".intercalate (fields.map Field.type) = types
      obtain ⟨front, back⟩ := taken (' ' :: 'o' :: 'f' :: ' ' :: types.toList) rfl
      simp [declaredOpcode?, front, back]

theorem headLine_eq (opcode : String) {record : Record} (written : record.fields ≠ some []) :
    Dispatch.headLine opcode record.fields =
      "| " ++ applied opcode record.fieldNames ++ " ->" := by
  unfold Dispatch.headLine Record.fieldNames
  cases found : record.fields with
  | none => simp [applied]
  | some fields =>
      cases fields with
      | nil => exact absurd found written
      | cons field fields => simp [applied, String.append_assoc]

section Chunks

variable (duplicates : DuplicatePolicy) (rules : RuleTable) {record : Record} {node : String}
variable (named : record.requireInst = .ok node) (valid : isName node = true)

include named

theorem writtenAlone_opcodeType :
    (Pass.mk (some .opcodeType) {} duplicates rules).writtenAlone record =
      .ok ("  " ++ OpcodeType.declaration ("Op" ++ node) record.fields ++ "\n" ++
        Row.renderAll "  " (OpcodeType.printerRows record ("Op" ++ node))) := by
  have complete : Artifact.opcodeType.lacks? record = none := Artifact.lacks?_of_named named rfl
  rw [(Pass.writtenAlone_of_complete rfl complete).1]
  simp only [Pass.text, Pass.layout,
    OpcodeType.sheet_variant (Record.opcodeName_of_requireInst named), Row.renderAll_cons]
  rfl

include valid

theorem caseHead?_arm {code : String} (present : record.require .code = .ok code)
    (written : record.fields ≠ some [])
    (fieldNames : ∀ name ∈ record.fieldNames, isName name = true) :
    ∃ chunk, (Pass.mk (some .dispatch) {} duplicates rules).writtenAlone record = .ok chunk ∧
      caseHead? (tokens chunk) = some ⟨"Op" ++ node, record.fieldNames⟩ := by
  have complete : Artifact.dispatch.lacks? record = none := Artifact.lacks?_of_present named rfl present
  refine ⟨_, (Pass.writtenAlone_of_complete rfl complete).1, ?_⟩
  simp only [Pass.text, Pass.layout,
    Dispatch.sheet_arm _ _ _ (Record.opcodeName_of_requireInst named) present, Dispatch.armRows,
    headLine_eq _ written, List.cons_append]
  exact caseHead?_rows (isName_opcode valid) fieldNames 1 _

end Chunks

theorem Record.requireInst_of_isName {record : Record} {node : String}
    (named : record.inst = some node) (valid : isName node = true) :
    record.requireInst = .ok node := by
  have written : node.isEmpty = false := by
    simpa using (Bool.and_eq_true_iff.mp valid).1
  simp [requireInst, named, written]

theorem declared_components {record : Record} (written : record.fields ≠ some [])
    (closed : ∀ type ∈ record.fieldTypes, isClosed type = true) :
    (match record.fields with
      | none => 0
      | some fields => components (" * ".intercalate (fields.map Field.type))) =
      (record.fieldTypes.map components).sum := by
  unfold Record.fieldTypes at *
  cases found : record.fields with
  | none => rfl
  | some fields =>
      rw [found] at written closed
      have nonempty : fields.map Field.type ≠ [] := by
        simpa using written
      exact components_intercalate nonempty closed

/-- The declaration of an opcode has no arguments exactly when the record has no fields, and as
many as the types of the fields have components when these are closed. An arm matches
the opcode with one binding for each field, which is as many as are declared if and only
if each type is one component. A lowering case refers to the opcode without arguments. -/
theorem opcode_arguments {document : Yaml.Document} {span : Span} {record : Record}
    {notes : List Note} {node : String}
    (decoded : Record.ofDocument document span = .ok (record, notes))
    (named : record.inst = some node) (valid : isName node = true)
    (fieldNames : ∀ name ∈ record.fieldNames, isName name = true)
    (duplicates : DuplicatePolicy) (rules : RuleTable) :
    ∃ declaration count,
      (Pass.mk (some .opcodeType) {} duplicates rules).writtenAlone record =
        .ok ("  " ++ declaration ++ "\n" ++
          Row.renderAll "  " (OpcodeType.printerRows record ("Op" ++ node))) ∧
      declaredOpcode? declaration = some ("Op" ++ node, count) ∧
      (count = 0 ↔ record.fields = none) ∧
      ((∀ type ∈ record.fieldTypes, isClosed type = true) →
        count = (record.fieldTypes.map components).sum) ∧
      (∀ code, record.require .code = .ok code → ∃ chunk head,
        (Pass.mk (some .dispatch) {} duplicates rules).writtenAlone record = .ok chunk ∧
          caseHead? (tokens chunk) = some head ∧ head.constructor = "Op" ++ node ∧
          head.arguments = record.fieldNames ∧
          ((∀ type ∈ record.fieldTypes, isClosed type = true) →
            (head.arguments.length = count ↔
              ∀ type ∈ record.fieldTypes, components type = 1))) ∧
      (Artifact.lowering.selects record = true → ∃ chunk lowered,
        (Pass.mk (some .lowering) {} duplicates rules).writtenAlone record = .ok chunk ∧
          loweringCase? (tokens chunk) = some lowered ∧
          lowered.opcode = ⟨"Op" ++ node, []⟩ ∧
          (lowered.opcode.arguments.length = count ↔ record.fields = none)) := by
  have written := Record.fields_ne_nil_of_ofDocument decoded
  have required := Record.requireInst_of_isName named valid
  refine ⟨_, _, writtenAlone_opcodeType duplicates rules required,
    declaredOpcode?_declaration (isName_opcode valid) record.fields, ?_, ?_, ?_, ?_⟩
  · cases record.fields with
    | none => simp
    | some fields => simp [components]
  · intro closed
    exact declared_components written closed
  · intro code present
    obtain ⟨chunk, emitted, head⟩ :=
      caseHead?_arm duplicates rules required valid present written fieldNames
    refine ⟨chunk, _, emitted, head, rfl, rfl, ?_⟩
    intro closed
    have bindings : record.fieldNames.length = record.fieldTypes.length := by
      simp [Record.fieldNames, Record.fieldTypes]
    rw [declared_components written closed, bindings, sum_components_eq_length_iff]
  · intro _
    obtain ⟨chunk, emitted, lowered⟩ := exists_lowering_chunk duplicates rules required valid
    refine ⟨chunk, _, emitted, lowered, rfl, ?_⟩
    cases record.fields with
    | none => simp
    | some fields => simp [components]

def pushDocument (type : String) : Yaml.Document where
  root := .mapping [
    (.text "inst", .text "Push"), (.text "is-primitive", .bool true),
    (.text "fields", .list [.mapping [(.text "x", .text type)]]), (.text "code", .text "x")]

def pushRecord (type : String) : Record where
  inst := some "Push"
  fields := some [⟨"x", type⟩]
  code := some "x"
  isPrimitive := true

theorem ofDocument_pushDocument (type : String) :
    Record.ofDocument (pushDocument type) = .ok (pushRecord type, []) := by
  cbv

theorem opcode_arguments_push :
    Record.ofDocument (pushDocument "int") = .ok (pushRecord "int", []) ∧
      ∃ declaration,
        (Pass.mk (some .opcodeType) {} .warn .standard).writtenAlone (pushRecord "int") =
          .ok ("  " ++ declaration ++ "\n") ∧
        declaredOpcode? declaration = some ("OpPush", 1) := by
  obtain ⟨declaration, count, written, declared, -, sum, -, -⟩ :=
    opcode_arguments (ofDocument_pushDocument "int") rfl (by decide) (by decide) .warn .standard
  have single : count = 1 := sum (by decide)
  refine ⟨ofDocument_pushDocument "int", declaration, ?_, single ▸ declared⟩
  simpa [OpcodeType.printerRows, pushRecord] using written

/-- An opcode is declared with an argument that the lowering case does not supply, and a star in
the type of a field declares arguments that the arm does not bind. -/
theorem opcode_arguments_differ :
    (Record.ofDocument (pushDocument "int") = .ok (pushRecord "int", []) ∧
      Artifact.lowering.selects (pushRecord "int") = true ∧
      (Pass.mk (some .opcodeType) {} .warn .standard).writtenAlone (pushRecord "int") =
        .ok "  | OpPush of int\n" ∧
      declaredOpcode? "| OpPush of int" = some ("OpPush", 1) ∧
      ∃ chunk, (Pass.mk (some .lowering) {} .warn .standard).writtenAlone (pushRecord "int") =
          .ok chunk ∧
        loweringCase? (tokens chunk) = some ⟨⟨"Push", []⟩, [], ⟨"OpPush", []⟩⟩) ∧
    (Record.ofDocument (pushDocument "int * int") = .ok (pushRecord "int * int", []) ∧
      (Pass.mk (some .opcodeType) {} .warn .standard).writtenAlone (pushRecord "int * int") =
        .ok "  | OpPush of int * int\n" ∧
      declaredOpcode? "| OpPush of int * int" = some ("OpPush", 2) ∧
      ∃ chunk, (Pass.mk (some .dispatch) {} .warn .standard).writtenAlone
          (pushRecord "int * int") = .ok chunk ∧
        caseHead? (tokens chunk) = some ⟨"OpPush", ["x"]⟩) := by
  have named (type : String) : (pushRecord type).requireInst = .ok "Push" := rfl
  have valid : isName "Push" = true := by decide
  refine ⟨⟨ofDocument_pushDocument "int", rfl, ?_, by decide, ?_⟩,
    ofDocument_pushDocument "int * int", ?_, by decide, ?_⟩
  · exact writtenAlone_opcodeType .warn .standard (named "int")
  · exact exists_lowering_chunk .warn .standard (named "int") valid
  · exact writtenAlone_opcodeType .warn .standard (named "int * int")
  · exact caseHead?_arm .warn .standard (named "int * int") valid rfl (by decide) (by decide)

end InstructionSet
