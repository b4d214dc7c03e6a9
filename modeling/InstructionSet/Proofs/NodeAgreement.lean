import InstructionSet.Proofs.Names
import InstructionSet.Proofs.Reading.Chunks

/-!
# Agreement on nodes

The type of nodes and the cases that lower them are generated independently, but they
stop at the same record and name the same constructors with the same number of
subtrees. The cases of the interpreter and the functions of the table of primitives
build and match the same nodes.
-/

set_option autoImplicit false

namespace InstructionSet

open Reading

/-- The node that a chunk declares, and how many subtrees it has. -/
def declaredNode? (chunk : String) : Option (String × Nat) :=
  (variant? (tokens chunk)).map fun (constructor, types) =>
    (constructor, types.count "abstract_tree")

/-- The node that a chunk lowers, and how many subtrees it has. -/
def loweredNode? (chunk : String) : Option (String × Nat) :=
  (loweringCase? (tokens chunk)).map fun lowered =>
    (lowered.node.constructor, lowered.node.arguments.length)

structure Record.NodeAgreement (duplicates : DuplicatePolicy) (record : Record) (node : String) :
    Prop where
  named : record.requireInst = .ok node
  lowered : ∃ chunk lowered,
    (Pass.mk (some .lowering) {} duplicates .standard).writtenAlone record = .ok chunk ∧
      loweringCase? (tokens chunk) = some lowered ∧
      lowered.node = ⟨node, numbered "p" 1 record.arity⟩ ∧
      lowered.passed = lowered.node.arguments
  interpreted : Artifact.interpreter.selects record = true →
    ∀ body, record.interpBody = .ok body → ∃ chunk head,
      (Pass.mk (some .interpreter) {} duplicates .standard).writtenAlone record = .ok chunk ∧
        caseHead? (tokens chunk) = some head ∧ head.constructor = node ∧
        head.arguments.length = record.arity ∧ head.arguments.Nodup
  wrapped : Artifact.primitiveTable.selects record = true →
    ∀ signature, record.require .type = .ok signature → ∃ chunk line wrapper,
      (Pass.mk (some .primitiveTable) {} duplicates .standard).writtenAlone record = .ok chunk ∧
        lineFromEnd? 1 chunk = some line ∧ wrapper? (tokens line) = some wrapper ∧
        wrapper.function = "lambda" ++ toString record.arity ∧
        wrapper.bound.length = record.arity ∧ wrapper.bound.Nodup ∧
        wrapper.node = ⟨node, wrapper.bound⟩

section Nodes

variable (duplicates : DuplicatePolicy) {record : Record} {node : String}
variable (named : record.requireInst = .ok node) (valid : isName node = true)

include named valid

theorem declaredNode?_text :
    declaredNode? ((Pass.mk (some .nodeType) {} duplicates .standard).text record) =
      some (node, record.arity) := by
  rw [text_nodeType duplicates .standard named, declaredNode?, variant?_node valid]
  simp

theorem loweredNode?_text :
    loweredNode? ((Pass.mk (some .lowering) {} duplicates .standard).text record) =
      some (node, record.arity) := by
  rw [loweredNode?, loweringCase?_text duplicates .standard named valid]
  simp

theorem Record.nodeAgreement : record.NodeAgreement duplicates node where
  named := named
  lowered := by
    obtain ⟨chunk, emitted, lowered⟩ := exists_lowering_chunk duplicates .standard named valid
    exact ⟨chunk, _, emitted, lowered, rfl, rfl⟩
  interpreted := by
    intro _ body present
    have complete : Artifact.interpreter.lacks? record = none :=
      Artifact.lacks?_of_present named rfl present
    have arguments : ∀ name ∈ Interpreter.subterms record.arity, isName name = true := by
      intro name member
      obtain ⟨index, -, rfl⟩ := List.mem_map.mp member
      exact isName_indexed (by decide) index
    refine ⟨_, ⟨node, Interpreter.subterms record.arity⟩,
      (Pass.writtenAlone_of_complete rfl complete).1, ?_, rfl,
      Interpreter.length_subterms record.arity, Interpreter.subterms_nodup record.arity⟩
    simp only [Pass.text, Pass.layout, Interpreter.sheet_case _ named present]
    exact caseHead?_rows valid arguments 1 _
  wrapped := by
    intro _ signature present
    have complete : Artifact.primitiveTable.lacks? record = none :=
      Artifact.lacks?_of_present named rfl present
    refine ⟨_, _, _, (Pass.writtenAlone_of_complete rfl complete).1, ?_,
      wrapper?_line valid record.arity, rfl, length_numbered _ _ _, numbered_nodup _ _ _, rfl⟩
    simp only [Pass.text, Pass.layout, PrimitiveTable.sheet_entry named present]
    exact lineFromEnd?_entry valid

end Nodes

/-- The type of nodes and the lowering cases are written for the same records and stop for the
same reason. When nothing stops them and the identifiers are names, both read as the same
list of nodes with the same numbers of subtrees, and every node is lowered, interpreted
and built as it is declared. -/
theorem nodes_agree (duplicates : DuplicatePolicy) (records : Trace Record) :
    let nodes : Pass := Pass.mk (some .nodeType) {} duplicates .standard
    let lowering : Pass := Pass.mk (some .lowering) {} duplicates .standard
    let selected := records.items.filter Artifact.nodeType.selects
    (∃ written rest, selected = written ++ rest ∧
      List.Forall₂ (fun record chunk => nodes.writtenAlone record = .ok chunk) written
        (nodes.emit records).items ∧
      List.Forall₂ (fun record chunk => lowering.writtenAlone record = .ok chunk) written
        (lowering.emit records).items ∧
      (nodes.emit records).failure? = (lowering.emit records).failure? ∧
      ((nodes.emit records).failure? = none → rest = [])) ∧
    ((nodes.emit records).failure? = none →
      (∀ record ∈ selected, ∀ node, record.inst = some node → isName node = true) →
        (nodes.emit records).items.map declaredNode? =
            selected.map (fun record => some (record.inst.getD "", record.arity)) ∧
          (lowering.emit records).items.map loweredNode? =
            selected.map (fun record => some (record.inst.getD "", record.arity)) ∧
          ∀ record ∈ selected, record.NodeAgreement duplicates (record.inst.getD "")) := by
  intro nodes lowering selected
  have nodesWrite : nodes.artifact = some .nodeType := rfl
  have loweringWrites : lowering.artifact = some .lowering := rfl
  -- Both artifacts select the same records and want the same of them.
  have sameFailure : (nodes.emit records).failure? = (lowering.emit records).failure? :=
    (Pass.failure?_emit nodesWrite records).trans (Pass.failure?_emit loweringWrites records).symm
  refine ⟨?_, ?_⟩
  · obtain ⟨rest, split, -, next⟩ :=
      (Artifact.nodeType.stop? duplicates).exists_split records.failure? [] selected
    refine ⟨_, rest, split, Pass.forall₂_items nodesWrite (by decide) records,
      Pass.forall₂_items loweringWrites (by decide) records, sameFailure, ?_⟩
    intro finished
    rw [Pass.failure?_emit nodesWrite] at finished
    cases rest with
    | nil => rfl
    | cons record rest => exact absurd finished next.2
  · intro finished valid
    obtain ⟨nodesItems, complete⟩ :=
      Pass.items_emit_of_finished nodesWrite (by decide) finished
    obtain ⟨loweringItems, -⟩ :=
      Pass.items_emit_of_finished loweringWrites (by decide) (sameFailure ▸ finished)
    have found : ∀ record ∈ selected, record.requireInst = .ok (record.inst.getD "") ∧
        isName (record.inst.getD "") = true := by
      intro record member
      obtain ⟨⟨node, required, -⟩, -⟩ := Artifact.present_of_lacks? (complete record member)
      have inst := Record.inst_of_requireInst required
      rw [inst]
      exact ⟨required, valid record member node inst⟩
    refine ⟨?_, ?_, ?_⟩
    · rw [nodesItems, List.map_map]
      refine List.map_congr_left fun record member => ?_
      obtain ⟨required, name⟩ := found record member
      exact declaredNode?_text duplicates required name
    · rw [loweringItems, List.map_map]
      refine List.map_congr_left fun record member => ?_
      obtain ⟨required, name⟩ := found record member
      exact loweredNode?_text duplicates required name
    · intro record member
      obtain ⟨required, name⟩ := found record member
      exact Record.nodeAgreement duplicates required name

end InstructionSet
