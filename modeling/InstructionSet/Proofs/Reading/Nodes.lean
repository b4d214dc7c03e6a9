import InstructionSet.Proofs.ArtifactRows
import InstructionSet.Proofs.Reading.Readers

/-!
# Reading of nodes

What the readers find in the artifacts that mention a node, if its name is one.
-/

set_option autoImplicit false

namespace InstructionSet.Reading

section Node

variable {node : String} (named : isName node = true) (arity : Nat)

include named

theorem spells_variant :
    Spells (NodeType.declaration {} node arity) (.mark '|' :: .name node ::
      if arity = 0 then []
      else .name "of" :: separated [.mark '*'] (List.replicate arity "abstract_tree")) := by
  have bar : Reads "| " [.mark '|'] := fun _ => rfl
  have head := bar.append_spells (spells_name named)
  unfold NodeType.declaration
  split
  · simpa using head
  · have keyword : Reads " of " [.name "of"] := fun _ => rfl
    have star : Reads " * " [.mark '*'] := fun _ => rfl
    have valid : ∀ name ∈ List.replicate arity "abstract_tree", isName name = true := by
      intro name member
      rw [List.eq_of_mem_replicate member]
      decide
    have tail := keyword.append_spells (spells_intercalate star (by decide) (by decide) valid)
    have whole := head.append_spells tail (by simp [isFresh]; decide)
    simpa [String.append_assoc] using whole

theorem variant?_node :
    variant? (tokens (Row.renderAll "  " [⟨1, NodeType.declaration {} node arity⟩])) =
      some (node, List.replicate arity "abstract_tree") := by
  rw [tokens_renderAll_cons 1 (spells_variant named arity)]
  cases arity with
  | zero => rfl
  | succ count =>
      have types : namesBy '*' (separated [.mark '*']
          (List.replicate (count + 1) "abstract_tree") ++ []) =
            (List.replicate (count + 1) "abstract_tree", []) :=
        namesBy_separated '*' _ (by simp)
      change variant? (_ :: _ :: _ :: _ ++ []) = _
      simp only [List.cons_append, variant?, types]

theorem spells_head {arguments : List String} (valid : ∀ name ∈ arguments, isName name = true) :
    Spells ("| " ++ applied node arguments ++ " ->")
      (.mark '|' :: Application.tokens ⟨node, arguments⟩ ++ [.mark '-', .mark '>']) := by
  have bar : Reads "| " [.mark '|'] := fun _ => rfl
  have arrow : Reads " ->" [.mark '-', .mark '>'] := fun _ => rfl
  have head := bar.append_spells (spells_applied named valid)
  exact (head.append arrow (by decide) (by decide)).spells

theorem caseHead?_rows {arguments : List String} (valid : ∀ name ∈ arguments, isName name = true)
    (depth : Nat) (rows : List Row) :
    caseHead? (tokens (Row.renderAll "  "
        (⟨depth, "| " ++ applied node arguments ++ " ->"⟩ :: rows))) =
      some ⟨node, arguments⟩ := by
  rw [tokens_renderAll_cons depth (spells_head named valid)]
  have head : application? (Application.tokens ⟨node, arguments⟩ ++
      .mark '-' :: .mark '>' :: tokens (Row.renderAll "  " rows)) =
        some (⟨node, arguments⟩, .mark '-' :: .mark '>' :: tokens (Row.renderAll "  " rows)) :=
    application?_tokens _ (by simp)
  simp only [List.cons_append, List.append_assoc, List.nil_append, caseHead?, head]

theorem spells_transformLine :
    Spells (Lowering.transformLine {} node arity)
      (.name "transform_primitive" :: .name "env" :: .mark '[' ::
        separated [.mark ';'] (Lowering.subtrees arity) ++ [.mark ']', .name node]) := by
  have front : Reads "transform_primitive env [" [.name "transform_primitive", .name "env",
    .mark '['] := fun _ => rfl
  have semicolon : Reads "; " [.mark ';'] := fun _ => rfl
  have back : Reads "] " [.mark ']'] := fun _ => rfl
  have subtrees := spells_intercalate semicolon (by decide) (by decide)
    (fun name (member : name ∈ Lowering.subtrees arity) =>
      isName_of_mem_numbered (by decide) member)
  have list := (front.append_spells subtrees).append back (by decide) (by decide)
  simpa [Lowering.transformLine, String.append_assoc] using list.append_spells (spells_name named)

/-- A lowering case matches all subtrees, passes them on in order and refers to the opcode
without arguments. -/
theorem loweringCase?_rows {opcode : String} (coded : isName opcode = true) :
    loweringCase? (tokens (Row.renderAll "  "
      [⟨2, "| " ++ applied node (Lowering.subtrees arity) ++ " ->"⟩,
        ⟨4, Lowering.transformLine {} opcode arity⟩, ⟨0, ""⟩])) =
      some ⟨⟨node, Lowering.subtrees arity⟩, Lowering.subtrees arity, ⟨opcode, []⟩⟩ := by
  have valid : ∀ name ∈ Lowering.subtrees arity, isName name = true :=
    fun name member => isName_of_mem_numbered (by decide) member
  have blank : Spells "" [] := fun _ _ => rfl
  rw [tokens_renderAll_cons 2 (spells_head named valid),
    tokens_renderAll_cons 4 (spells_transformLine coded arity),
    tokens_renderAll_cons 0 blank]
  have list : namesBy ';' (separated [.mark ';'] (Lowering.subtrees arity) ++
      [.mark ']', .name opcode]) = (Lowering.subtrees arity, [.mark ']', .name opcode]) :=
    namesBy_separated ';' _ (by simp)
  have head : application? (Application.tokens ⟨node, Lowering.subtrees arity⟩ ++
      .mark '-' :: .mark '>' :: .name "transform_primitive" :: .name "env" :: .mark '[' ::
        (separated [.mark ';'] (Lowering.subtrees arity) ++ [.mark ']', .name opcode])) =
          some (⟨node, Lowering.subtrees arity⟩, _) :=
    application?_tokens _ (by simp)
  have reference : application? [.name opcode] = some (⟨opcode, []⟩, []) := rfl
  have ending : tokens (Row.renderAll "  " []) = [] := rfl
  simp only [List.cons_append, List.append_assoc, List.nil_append, List.append_nil, ending,
    loweringCase?, head, list, reference]

omit named in
example : loweringCase? (tokens
    "    | Add(p1, p2) ->\n        transform_primitive env [p1; p2] OpAdd\n\n") =
      some ⟨⟨"Add", ["p1", "p2"]⟩, ["p1", "p2"], ⟨"OpAdd", []⟩⟩ := by
  decide

theorem spells_wrapper :
    Spells (PrimitiveTable.wrapperOf node arity)
      (.name ("lambda" ++ toString arity) :: .mark '(' ::
        (if arity = 0 then []
          else .name "fun" :: separated [] (PrimitiveTable.arguments arity) ++
            [.mark '-', .mark '>']) ++
        Application.tokens ⟨node, PrimitiveTable.arguments arity⟩ ++ [.mark ')']) := by
  have valid : ∀ name ∈ PrimitiveTable.arguments arity, isName name = true :=
    fun name member => isName_of_mem_numbered (by decide) member
  have lambda : isName "lambda" = true := by decide
  have function := spells_name (isName_append lambda (all_isNameCharacter_toString arity))
  have closed : Reads ")" [.mark ')'] := fun _ => rfl
  have body := (spells_applied named valid).append closed (by decide) (by decide)
  unfold PrimitiveTable.wrapperOf
  split
  case isTrue nullary =>
    subst nullary
    have opened : Reads "lambda0 (" [.name "lambda0", .mark '('] := fun _ => rfl
    have function : "lambda" ++ toString 0 = "lambda0" := by decide
    rw [function]
    simpa [PrimitiveTable.arguments, applied, numbered, String.append_assoc] using
      (opened.append body).spells
  case isFalse =>
    have opened : Reads " (fun " [.mark '(', .name "fun"] := fun _ => rfl
    have space : Reads " " [] := fun _ => rfl
    have arrow : Reads " -> " [.mark '-', .mark '>'] := fun _ => rfl
    have head := function.append opened (by decide) (by decide)
    have bound := head.append_spells (spells_intercalate space (by decide) (by decide) valid)
    have whole := (bound.append arrow (by decide) (by decide)).append body
    simpa [String.append_assoc] using whole.spells

theorem wrapper?_line :
    wrapper? (tokens (Printer.indentation "  " 5 ++ PrimitiveTable.wrapperOf node arity)) =
      some ⟨"lambda" ++ toString arity, PrimitiveTable.arguments arity,
        ⟨node, PrimitiveTable.arguments arity⟩⟩ := by
  rw [((reads_indentation 5).append_spells (spells_wrapper named arity)).tokens_eq]
  have body : application? (Application.tokens ⟨node, PrimitiveTable.arguments arity⟩ ++
      [.mark ')']) = some (⟨node, PrimitiveTable.arguments arity⟩, [.mark ')']) :=
    application?_tokens _ (by simp)
  split
  case isTrue nullary =>
    subst nullary
    rfl
  case isFalse =>
    have bound : namesInRow (separated [] (PrimitiveTable.arguments arity) ++ .mark '-' ::
        .mark '>' :: (Application.tokens ⟨node, PrimitiveTable.arguments arity⟩ ++
          [.mark ')'])) = (PrimitiveTable.arguments arity, _) :=
      namesInRow_separated _ (by simp)
    simp only [List.nil_append, List.cons_append, List.append_assoc, wrapper?, namesInRow, bound,
      body, if_true]

end Node

theorem feed_not_mem_wrapper {node : String} (named : isName node = true) (arity : Nat) :
    '\n' ∉ (PrimitiveTable.wrapperOf node arity).toList := by
  have valid : ∀ name ∈ PrimitiveTable.arguments arity, isName name = true :=
    fun name member => isName_of_mem_numbered (by decide) member
  have body := feed_not_mem_applied named valid
  have space : '\n' ∉ " ".toList := by decide
  have bound := feed_not_mem_intercalate space valid
  have count := feed_not_mem_of_all (all_isNameCharacter_toString arity)
  unfold PrimitiveTable.wrapperOf
  split
  · exact feed_not_mem_append (feed_not_mem_append (by decide) (feed_not_mem_of_isName named))
      (by decide)
  · simp only [String.toList_append, List.mem_append, not_or]
    exact ⟨⟨⟨⟨⟨⟨by decide, count⟩, by decide⟩, bound⟩, by decide⟩, body⟩, by decide⟩

/-- The function stands in the last line but one of an entry, behind the signature. -/
theorem lineFromEnd?_entry {record : Record} {node signature : String}
    (named : isName node = true) :
    lineFromEnd? 1 (Row.renderAll "  " (PrimitiveTable.entryRows record node signature)) =
      some (Printer.indentation "  " 5 ++ PrimitiveTable.wrapperOf node record.arity) := by
  have rows : PrimitiveTable.entryRows record node signature =
      ([⟨4, "(\x22" ++ PrimitiveTable.publicName record ++ "\x22,"⟩, ⟨5, "begin"⟩] ++
        (Text.lines signature).map (Row.mk 6) ++ [⟨5, "end,"⟩]) ++
        [⟨5, PrimitiveTable.wrapperOf node record.arity⟩, ⟨4, ");"⟩] := by
    simp [PrimitiveTable.entryRows]
  rw [rows]
  exact lineFromEnd?_rows (by simp) 5 4 (feed_not_mem_wrapper named _) (by decide)

end InstructionSet.Reading
