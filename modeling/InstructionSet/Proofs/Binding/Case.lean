import InstructionSet.Proofs.Binding.Call

/-!
# The bindings of a case

A case numbers all parameters and binds the typed ones last. None of the bindings reads
what another binds, so their order does not matter.
-/

set_option autoImplicit false

namespace InstructionSet

namespace Interpreter

variable (config : Config)

def binding : Parameter × String → Binding
  | (.value name, subterm) => ⟨name, interpreted config subterm⟩
  | (.typed name tag, subterm) =>
      ⟨name, .apply (.identifier (config.accessor tag)) (interpreted config subterm)⟩

theorem binding_name (matched : Parameter × String) :
    (binding config matched).name = matched.1.name := by
  obtain ⟨parameter, subterm⟩ := matched
  cases parameter <;> rfl

/-- The bindings are those of all parameters in another order. -/
theorem parameterBindings_perm (parameters : List Parameter) :
    (parameterBindings config parameters).Perm
      ((parameters.zip (subterms parameters.length)).map (binding config)) := by
  unfold parameterBindings
  induction parameters.zip (subterms parameters.length) with
  | nil => exact .nil
  | cons first rest ih =>
      obtain ⟨parameter, subterm⟩ := first
      cases parameter with
      | value name => exact ih.cons _
      | typed name tag => exact List.perm_middle.trans (ih.cons _)

theorem parameterBindings_names (parameters : List Parameter) :
    ((parameterBindings config parameters).map Binding.name).Perm
      (parameters.map Parameter.name) := by
  have declared : ((parameters.zip (subterms parameters.length)).map (binding config)).map
      Binding.name = parameters.map Parameter.name := by
    have names : Binding.name ∘ binding config = Parameter.name ∘ Prod.fst :=
      funext (binding_name config)
    rw [List.map_map, names, ← List.map_map, List.map_fst_zip (by simp)]
  rw [← declared]
  exact (parameterBindings_perm config parameters).map _

variable {config} {record : Record}

/-- A line reads names of the configuration and its own subterm. -/
theorem mem_mentioned_or_eq_of_read {parameter : Parameter} (declared : parameter ∈ record.parameters)
    {term name : String} (read : name ∈ (binding config (parameter, term)).value.names) :
    name ∈ record.mentioned config ∨ name = term := by
  cases parameter with
  | value _ =>
      have names : name = config.interpret ∨ name = config.environment ∨ name = term := by
        simpa [binding, interpreted, Expression.names] using read
      rcases names with rfl | rfl | rfl
      · exact .inl (by simp [Record.mentioned])
      · exact .inl (by simp [Record.mentioned])
      · exact .inr rfl
  | typed _ tag =>
      have names : name = config.accessor tag ∨ name = config.interpret ∨
          name = config.environment ∨ name = term := by
        simpa [binding, interpreted, Expression.names] using read
      rcases names with rfl | rfl | rfl | rfl
      · exact .inl (Record.mentioned_of_mem_accessors (Record.mem_accessors config declared))
      · exact .inl (by simp [Record.mentioned])
      · exact .inl (by simp [Record.mentioned])
      · exact .inr rfl

theorem subterm_read (parameter : Parameter) (term : String) :
    term ∈ (binding config (parameter, term)).value.names := by
  cases parameter <;> simp [binding, interpreted, Expression.names]

theorem parameterBindings_independent (distinct : record.NamesDistinct config) :
    ∀ binding ∈ parameterBindings config record.parameters, ∀ name ∈ binding.value.names,
      name ∉ (parameterBindings config record.parameters).map Binding.name := by
  intro bound member name read again
  have parameterName : name ∈ record.parameterNames :=
    (parameterBindings_names config record.parameters).subset again
  have source := (parameterBindings_perm config record.parameters).subset member
  obtain ⟨⟨parameter, term⟩, matched, rfl⟩ := List.mem_map.mp source
  obtain ⟨declared, inSubterms⟩ := List.of_mem_zip matched
  obtain ⟨index, -, rfl⟩ := List.mem_map.mp inSubterms
  rcases mem_mentioned_or_eq_of_read declared read with mentioned | same
  · exact distinct.notMentioned name parameterName mentioned
  · exact distinct.notSubterm name parameterName index same

end Interpreter

namespace Call

variable {Value : Type} {machine : Machine Value} {config : Config} {rules : RuleTable}
variable {record : Record} (call : Call machine config rules record)

theorem length_trees : call.trees.length = record.arity :=
  call.interpreted.length_eq.trans call.oneEach

theorem map_fst_subtrees : ((Interpreter.subterms record.arity).zip call.trees).map Prod.fst =
    Interpreter.subterms record.arity :=
  List.map_fst_zip (by simp [call.length_trees])

theorem onTrees_of_visible {name : String} (visible : ∀ index, name ≠ Interpreter.subterm index) :
    call.onTrees name = call.template name := by
  apply Scope.capture_of_not_mem
  rw [map_fst_subtrees]
  intro member
  obtain ⟨index, -, same⟩ := List.mem_map.mp member
  exact visible index same.symm

theorem onTrees_subterm {index : Nat} (present : index < call.trees.length) :
    call.onTrees (Interpreter.subterm index) = some call.trees[index] := by
  apply Scope.capture_of_mem
  · rw [map_fst_subtrees]
    exact Interpreter.subterms_nodup record.arity
  · have inRange : index < record.arity := call.length_trees ▸ present
    have inZip : index < ((Interpreter.subterms record.arity).zip call.trees).length := by
      rw [List.length_zip, Interpreter.length_subterms]
      exact Nat.lt_min.mpr ⟨inRange, present⟩
    refine List.mem_iff_getElem.mpr ⟨index, inZip, ?_⟩
    simp [Interpreter.subterms]

theorem value?_interpreted (apart : record.NamesApart config) {index : Nat}
    (present : index < call.trees.length) :
    (Interpreter.interpreted config (Interpreter.subterm index)).value? machine call.onTrees =
      machine.interpret? config call.template call.trees[index] := by
  have interpret := call.onTrees_of_visible (apart.interpreterVisible _ List.mem_cons_self)
  have environment := call.onTrees_of_visible
    (apart.interpreterVisible _ (List.mem_cons_of_mem _ List.mem_cons_self))
  simp only [Interpreter.interpreted, Expression.value?, interpret, environment,
    call.onTrees_subterm present, Option.bind_some, Machine.interpret?]

theorem value?_binding (apart : record.NamesApart config) {parameter : Parameter}
    (declared : parameter ∈ record.parameters) {subterm : String} {cell : Value}
    (made : (Interpreter.interpreted config subterm).value? machine call.onTrees = some cell) :
    (Interpreter.binding config (parameter, subterm)).value.value? machine call.onTrees =
      machine.meaning? config call.template parameter cell := by
  cases parameter with
  | value name => exact made
  | typed name tag =>
      have accessor := call.onTrees_of_visible (apart.interpreterVisible _
        (List.mem_cons_of_mem _ (List.mem_cons_of_mem _ (Record.mem_accessors config declared))))
      simp only [Interpreter.binding, Expression.value?, made, accessor, Option.bind_some,
        Machine.meaning?]

/-- The case gives every parameter what it stands for. -/
theorem case_binds (apart : record.NamesApart config) :
    List.Forall₂
      (fun parameter cell =>
        Interpreter.scope machine config record call.onTrees parameter.name =
          machine.meaning? config call.template parameter cell)
      record.parameters call.cells := by
  refine List.forall₂_iff_get.mpr ⟨call.oneEach.symm, ?_⟩
  intro index inParameters inCells
  have inTrees : index < call.trees.length := call.interpreted.length_eq ▸ inCells
  have made := (call.value?_interpreted apart inTrees).trans (call.interpreted.get inTrees inCells)
  have matched : (record.parameters.get ⟨index, inParameters⟩, Interpreter.subterm index) ∈
      record.parameters.zip (Interpreter.subterms record.parameters.length) := by
    refine List.mem_iff_getElem.mpr ⟨index, by simpa using inParameters, ?_⟩
    simp [Interpreter.subterms]
  have declared := (List.of_mem_zip matched).1
  generalize record.parameters.get ⟨index, inParameters⟩ = parameter at matched declared ⊢
  have notReducer : parameter.name ≠ reducerName := fun same =>
    apart.notReducer (same ▸ List.mem_map_of_mem declared)
  have member := (Interpreter.parameterBindings_perm config record.parameters).symm.subset
    (List.mem_map_of_mem matched)
  have bound := Scope.bind_of_mem machine call.onTrees
    ((Interpreter.parameterBindings_names config record.parameters).nodup_iff.mpr apart.distinct)
    (Interpreter.parameterBindings_independent apart.toNamesDistinct) member
  rw [Interpreter.binding_name] at bound
  rw [Interpreter.scope, Interpreter.bindings, record.bind_reducer _ machine _ _ notReducer]
  exact bound.trans (call.value?_binding apart declared made)

end Call

theorem Interpreter.reducerName_mem_bound_iff {config : Config} {record : Record}
    (apart : record.NamesApart config) :
    reducerName ∈ bound config record ↔ record.needsReducef = true := by
  have notMatched : reducerName ∉ subterms record.arity := by
    intro member
    obtain ⟨index, -, same⟩ := List.mem_map.mp member
    exact ne_subterm (by decide) index same.symm
  have notBound : reducerName ∉ (parameterBindings config record.parameters).map Binding.name := by
    intro member
    exact apart.notReducer ((parameterBindings_names config record.parameters).subset member)
  rw [bound, List.mem_append, or_iff_right notMatched, bindings,
    record.reducerName_mem_iff _ notBound]

end InstructionSet
