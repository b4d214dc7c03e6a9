import InstructionSet.Proofs.Binding.Case
import InstructionSet.Proofs.Binding.Destructuring

/-!
# Freshness of generated names

Temporaries and subterms are numbered without a look at the names of the parameters, so a parameter
may be named like one of them. The pattern of an arm binds a name twice, or a line hides a generated
name that a line behind it reads, exactly where a parameter has the name of certain temporaries or
subterms, and these can be told from the order of the parameters alone.
-/

set_option autoImplicit false

namespace InstructionSet

def IsGenerated (name : String) : Prop :=
  ∃ index, name = Dispatch.temporary index ∨ name = Interpreter.subterm index

/-- No line binds a generated name that a line behind it reads. -/
def KeepsGenerated (lines : List Binding) : Prop :=
  lines.Pairwise fun line later => IsGenerated line.name → line.name ∉ later.value.names

theorem not_isGenerated_of_plain {name : String} (plain : name.toList.head? ≠ some '_') :
    ¬ IsGenerated name := by
  rintro ⟨index, same | same⟩
  · exact Dispatch.ne_temporary plain index same
  · exact Interpreter.ne_subterm plain index same

/-- The lines that read nothing generated do not matter. -/
theorem keepsGenerated_append_iff {lines : List Binding} {others : List Binding}
    (single : others.length ≤ 1)
    (plain : ∀ other ∈ others, ∀ name ∈ other.value.names, ¬ IsGenerated name) :
    KeepsGenerated (lines ++ others) ↔ KeepsGenerated lines := by
  rw [KeepsGenerated, List.pairwise_append]
  refine ⟨fun kept => kept.1, fun kept => ⟨kept, ?_, ?_⟩⟩
  · match others, single with
    | [], _ => exact .nil
    | [_], _ => exact List.pairwise_singleton _ _
  · intro line _ other member generated read
    exact plain other member _ read generated

/-- Lines of which each reads one generated name: none is hidden unless a line in front has its
name. -/
theorem keepsGenerated_map_iff {α : Type} {items : List α} {line : α → Binding}
    (generated : α → String) (reads : ∀ one ∈ items, ∀ name,
      name ∈ (line one).value.names ∧ IsGenerated name ↔ name = generated one) :
    KeepsGenerated (items.map line) ↔
      items.Pairwise fun one later => (line one).name ≠ generated later := by
  rw [KeepsGenerated, List.pairwise_map]
  refine List.Pairwise.iff_of_mem fun {one later} _ member => ?_
  constructor
  · intro kept same
    obtain ⟨read, generated⟩ := (reads later member _).mpr same
    exact kept generated read
  · intro other generated read
    exact other ((reads later member _).mp ⟨read, generated⟩)

namespace Record

/-- The lines for a record mention no generated name of the configuration's. -/
def MentionsPlain (config : Config) (record : Record) : Prop :=
  ∀ name ∈ record.mentioned config, ¬ IsGenerated name

theorem mentionsPlain_default (record : Record) : record.MentionsPlain {} := by
  intro name member
  apply not_isGenerated_of_plain
  rcases List.mem_append.mp member with fixed | accessor
  · have plain : ∀ name ∈ ["stack", "env", "code", "dump", "exec", "ret", "exec_application",
        "reduce_beta_list", "interpret", "report_bug_vm"], name.toList.head? ≠ some '_' := by
      decide
    exact plain name fixed
  · obtain ⟨tag, -, rfl⟩ := List.mem_map.mp accessor
    simp [Config.accessor, String.toList_append]

theorem length_reducer?_le (record : Record) (reduction : Expression) :
    (record.reducer? reduction).toList.length ≤ 1 := by
  unfold reducer?
  split <;> simp

theorem value_of_mem_reducer? {record : Record} {reduction : Expression} {other : Binding}
    (member : other ∈ (record.reducer? reduction).toList) : other.value = reduction := by
  unfold reducer? at member
  split at member
  · rw [List.mem_singleton.mp member]
  · cases member

end Record

namespace Dispatch

variable {config : Config} (rules : RuleTable) {record : Record}

/-- A line of an arm hides a temporary that is still to be read exactly where a typed parameter
without a rule is named like the temporary of one that is declared behind it. -/
theorem keepsGenerated_iff (plain : record.MentionsPlain config) :
    KeepsGenerated (bindings config rules record) ↔
      (unruled rules record.parameters).zipIdx.Pairwise fun one later =>
        one.1.1 ≠ temporary later.2 := by
  have bindings : bindings config rules record =
      conversionLines config rules record ++ (record.reducer? (reduction config)).toList := rfl
  rw [bindings, keepsGenerated_append_iff (record.length_reducer?_le _), conversionLines_eq,
    keepsGenerated_map_iff fun one => temporary one.2]
  · rfl
  · rintro ⟨⟨parameter, tag⟩, index⟩ member name
    have declared := mem_of_mem_unruled (List.fst_mem_of_mem_zipIdx member)
    have accessor : ¬ IsGenerated (config.accessor tag) :=
      plain _ (Record.mentioned_of_mem_accessors (Record.mem_accessors config declared))
    constructor
    · rintro ⟨read, generated⟩
      rcases List.mem_pair.mp read with rfl | rfl
      · exact absurd generated accessor
      · rfl
    · rintro rfl
      exact ⟨List.mem_pair.mpr (.inr rfl), index, .inl rfl⟩
  · intro other member name read
    rw [Record.value_of_mem_reducer? member] at read
    rcases List.mem_pair.mp read with rfl | rfl
    · exact plain _ (by simp [Record.mentioned])
    · exact plain _ (by simp [Record.mentioned])

end Dispatch

namespace Interpreter

variable {config : Config} {record : Record}

/-- Parameters with their numbers, in the order in which a case binds them. -/
def inBoundOrder (parameters : List Parameter) : List (Parameter × Nat) :=
  parameters.zipIdx.filter (·.1.tag?.isNone) ++ parameters.zipIdx.filter (·.1.tag?.isSome)

theorem zip_subterms (parameters : List Parameter) :
    parameters.zip (subterms parameters.length) =
      parameters.zipIdx.map fun one => (one.1, subterm one.2) := by
  rw [List.zipIdx_eq_zip_range', subterms, List.range_eq_range', List.zip_map_right]
  rfl

theorem parameterBindings_eq (config : Config) (parameters : List Parameter) :
    parameterBindings config parameters =
      (inBoundOrder parameters).map fun one => binding config (one.1, subterm one.2) := by
  rw [parameterBindings, zip_subterms, List.filterMap_map, List.filterMap_map, inBoundOrder,
    List.map_append, ← List.filterMap_eq_map, List.filterMap_filter, List.filterMap_filter]
  congr 2 <;> funext ⟨parameter, index⟩ <;> cases parameter <;> rfl

/-- A line of a case hides a subterm that is still to be read exactly where a parameter is named like
the subterm of one that is bound behind it. -/
theorem keepsGenerated_iff (plain : record.MentionsPlain config) :
    KeepsGenerated (bindings config record) ↔
      (inBoundOrder record.parameters).Pairwise fun one later => one.1.name ≠ subterm later.2 := by
  rw [bindings, keepsGenerated_append_iff (record.length_reducer?_le _), parameterBindings_eq,
    keepsGenerated_map_iff fun one => subterm one.2]
  · simp only [binding_name]
  · rintro ⟨parameter, index⟩ member name
    have declared : parameter ∈ record.parameters := by
      rcases List.mem_append.mp member with value | typed
      · exact List.fst_mem_of_mem_zipIdx (List.mem_of_mem_filter value)
      · exact List.fst_mem_of_mem_zipIdx (List.mem_of_mem_filter typed)
    constructor
    · rintro ⟨read, generated⟩
      rcases mem_mentioned_or_eq_of_read declared read with mentioned | same
      · exact absurd generated (plain name mentioned)
      · exact same
    · rintro rfl
      exact ⟨subterm_read parameter _, index, .inr rfl⟩
  · intro other member name read
    rw [Record.value_of_mem_reducer? member] at read
    rw [List.mem_singleton.mp read]
    exact plain _ (by simp [Record.mentioned])

end Interpreter

/-- Names are numbered without a look at those of the parameters. So the pattern of an arm binds
different names unless a parameter that is matched directly is named like one of the temporaries of
the arm; and no line of an arm or a case hides a generated name that a line behind it reads unless
its parameter is named like the temporary, or the subterm, of one that is bound later. Of the lines
this holds where they mention no generated name of the configuration's. -/
theorem generated_names_kept (config : Config) (rules : RuleTable) (record : Record)
    (distinct : record.parameterNames.Nodup) :
    (((Dispatch.destructure config rules record).cells.map Pattern.name).Nodup ↔
      ∀ name ∈ (record.parameters.filterMap (Dispatch.direct? rules)).map Pattern.name,
        name ∉ Dispatch.temporaries rules record) ∧
    (record.MentionsPlain config →
      (KeepsGenerated (Dispatch.bindings config rules record) ↔
        (Dispatch.unruled rules record.parameters).zipIdx.Pairwise fun one later =>
          one.1.1 ≠ Dispatch.temporary later.2) ∧
      (KeepsGenerated (Interpreter.bindings config record) ↔
        (Interpreter.inBoundOrder record.parameters).Pairwise fun one later =>
          one.1.name ≠ Interpreter.subterm later.2)) :=
  ⟨Dispatch.cell_names_nodup_iff config rules 0 distinct, fun plain =>
    ⟨Dispatch.keepsGenerated_iff rules plain, Interpreter.keepsGenerated_iff plain⟩⟩

theorem generated_names_kept_mixed :
    Term.mixedRecord.parameterNames.Nodup ∧
      ((Dispatch.destructure {} .standard Term.mixedRecord).cells.map Pattern.name).Nodup ∧
      KeepsGenerated (Dispatch.bindings {} .standard Term.mixedRecord) ∧
      KeepsGenerated (Interpreter.bindings {} Term.mixedRecord) := by
  have distinct : Term.mixedRecord.parameterNames.Nodup := by decide
  obtain ⟨pattern, lines⟩ := generated_names_kept {} .standard Term.mixedRecord distinct
  obtain ⟨arm, case⟩ := lines (Record.mentionsPlain_default _)
  exact ⟨distinct, pattern.mpr (by decide), arm.mpr (by decide), case.mpr (by decide)⟩

/-! ## Clashes -/

def clashDocument (parameters : List Yaml.Value) : Yaml.Document where
  root := .mapping [
    (.text "inst", .text "Scale"), (.text "is-primitive", .bool true),
    (.text "params", .list parameters), (.text "code", .text "y")]

def clashRecord (parameters : List Parameter) : Record where
  inst := some "Scale"
  parameters := parameters
  code := some "y"
  isPrimitive := true

def typedParameter (name tag : String) : Yaml.Value := .mapping [(.text name, .text tag)]

/-- A pattern binds a temporary twice, and lines hide a temporary and a subterm that are still to be
read. An accessor that is named like a temporary is hidden as well. -/
theorem generated_names_clash :
    (Record.ofDocument (clashDocument [.text "_tmp0", typedParameter "y" "ratio"]) =
        .ok (clashRecord [.value "_tmp0", .typed "y" "ratio"], []) ∧
      (clashRecord [.value "_tmp0", .typed "y" "ratio"]).parameterNames.Nodup ∧
      ¬ ((Dispatch.destructure {} .standard
        (clashRecord [.value "_tmp0", .typed "y" "ratio"])).cells.map Pattern.name).Nodup) ∧
    (Record.ofDocument (clashDocument [typedParameter "_tmp1" "ratio", typedParameter "y" "ratio"]) =
        .ok (clashRecord [.typed "_tmp1" "ratio", .typed "y" "ratio"], []) ∧
      (clashRecord [.typed "_tmp1" "ratio", .typed "y" "ratio"]).parameterNames.Nodup ∧
      ¬ KeepsGenerated (Dispatch.bindings {} .standard
        (clashRecord [.typed "_tmp1" "ratio", .typed "y" "ratio"]))) ∧
    (Record.ofDocument (clashDocument [.text "_ast1", .text "y"]) =
        .ok (clashRecord [.value "_ast1", .value "y"], []) ∧
      (clashRecord [.value "_ast1", .value "y"]).parameterNames.Nodup ∧
      ¬ KeepsGenerated (Interpreter.bindings {} (clashRecord [.value "_ast1", .value "y"]))) ∧
    (Record.ofDocument (clashDocument [typedParameter "_tmp5" "ratio", typedParameter "y" "5"]) =
        .ok (clashRecord [.typed "_tmp5" "ratio", .typed "y" "5"], []) ∧
      (clashRecord [.typed "_tmp5" "ratio", .typed "y" "5"]).parameterNames.Nodup ∧
      ¬ KeepsGenerated (Dispatch.bindings { accessorStem := "_tmp" } .standard
        (clashRecord [.typed "_tmp5" "ratio", .typed "y" "5"]))) := by
  refine ⟨⟨by cbv, by decide, by decide⟩, ⟨by cbv, by decide, fun kept => ?_⟩,
    ⟨by cbv, by decide, fun kept => ?_⟩, ⟨by cbv, by decide, fun kept => ?_⟩⟩
  · exact (List.pairwise_cons.mp kept).1 _ List.mem_cons_self ⟨1, .inl rfl⟩ (by decide)
  · exact (List.pairwise_cons.mp kept).1 _ List.mem_cons_self ⟨1, .inr rfl⟩ (by decide)
  · exact (List.pairwise_cons.mp kept).1 _ List.mem_cons_self ⟨5, .inl rfl⟩ (by decide)

end InstructionSet
