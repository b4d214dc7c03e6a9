import InstructionSet.Proofs.Emission
import InstructionSet.Proofs.Reading.Nodes

/-!
# Reading of chunks

The chunks of records that have a name as their identifier.
-/

set_option autoImplicit false

namespace InstructionSet

open Reading

namespace Record

theorem inst_of_requireInst {record : Record} {node : String}
    (named : record.requireInst = .ok node) : record.inst = some node := by
  unfold requireInst at named
  cases inst : record.inst with
  | none => simp [inst] at named
  | some text =>
      simp only [inst] at named
      split at named
      · cases named
      · cases named
        rfl

end Record

theorem isName_opcode {node : String} (valid : isName node = true) :
    isName ("Op" ++ node) = true :=
  isName_append (by decide) (Bool.and_eq_true_iff.mp valid).2

section Chunks

variable (duplicates : DuplicatePolicy) (rules : RuleTable) {record : Record} {node : String}
variable (named : record.requireInst = .ok node)

include named

theorem text_nodeType :
    (Pass.mk (some .nodeType) {} duplicates rules).text record =
      Row.renderAll "  " [⟨1, NodeType.declaration {} node record.arity⟩] := by
  simp only [Pass.text, Pass.layout, NodeType.sheet_variant _ named]

theorem text_lowering :
    (Pass.mk (some .lowering) {} duplicates rules).text record =
      Row.renderAll "  "
        [⟨2, "| " ++ applied node (Lowering.subtrees record.arity) ++ " ->"⟩,
          ⟨4, Lowering.transformLine {} ("Op" ++ node) record.arity⟩, ⟨0, ""⟩] := by
  simp only [Pass.text, Pass.layout,
    Lowering.sheet_case _ named (Record.opcodeName_of_requireInst named)]

variable (valid : isName node = true)

include valid

theorem loweringCase?_text :
    loweringCase? (tokens ((Pass.mk (some .lowering) {} duplicates rules).text record)) =
      some ⟨⟨node, numbered "p" 1 record.arity⟩, numbered "p" 1 record.arity,
        ⟨"Op" ++ node, []⟩⟩ := by
  rw [text_lowering duplicates rules named]
  exact loweringCase?_rows valid record.arity (isName_opcode valid)

theorem exists_lowering_chunk :
    ∃ chunk, (Pass.mk (some .lowering) {} duplicates rules).writtenAlone record = .ok chunk ∧
      loweringCase? (tokens chunk) =
        some ⟨⟨node, numbered "p" 1 record.arity⟩, numbered "p" 1 record.arity,
          ⟨"Op" ++ node, []⟩⟩ := by
  have complete : Artifact.lowering.lacks? record = none := Artifact.lacks?_of_named named rfl
  exact ⟨_, (Pass.writtenAlone_of_complete rfl complete).1,
    loweringCase?_text duplicates rules named valid⟩

end Chunks

end InstructionSet
