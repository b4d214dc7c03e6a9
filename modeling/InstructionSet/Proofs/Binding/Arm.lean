import InstructionSet.Proofs.Binding.Match

/-!
# The bindings of an arm

An arm gives every parameter what it stands for: the pattern captures it, or a line converts it from
a temporary that the pattern binds.
-/

set_option autoImplicit false

namespace InstructionSet

namespace Dispatch

variable (config : Config) (rules : RuleTable)

theorem deferred_names_sublist (used : Nat) (parameters : List Parameter) :
    ((destructureFrom config rules used parameters).deferred.map Conversion.name).Sublist
      (parameters.map Parameter.name) := by
  rw [deferred_eq, map_name_conversions]
  exact unruled_names_sublist rules parameters

theorem cell_name (used : Nat) {parameters : List Parameter} {name : String}
    (member : name ∈ (destructureFrom config rules used parameters).cells.map Pattern.name) :
    name ∈ parameters.map Parameter.name ∨ ∃ index, used ≤ index ∧ name = temporary index := by
  rw [(cell_names_perm config rules used parameters).mem_iff, List.mem_append] at member
  rcases member with direct | number
  · exact .inl ((direct_names_sublist rules parameters).subset direct)
  · obtain ⟨index, inRange, rfl⟩ := List.mem_map.mp number
    exact .inr ⟨index, (List.mem_range'_1.mp inRange).1, rfl⟩

theorem cell_names_nodup (used : Nat) {parameters : List Parameter}
    (distinct : (parameters.map Parameter.name).Nodup)
    (notTemporary : ∀ name ∈ parameters.map Parameter.name, ∀ index, name ≠ temporary index) :
    ((destructureFrom config rules used parameters).cells.map Pattern.name).Nodup := by
  refine (cell_names_nodup_iff config rules used distinct).mpr fun name direct number => ?_
  obtain ⟨index, -, same⟩ := List.mem_map.mp number
  exact notTemporary name ((direct_names_sublist rules parameters).subset direct) index same.symm

/-- How an arm gets hold of a parameter: what its cell is matched with is captured under its
name already, or the cell is captured by a temporary that is converted. -/
inductive Delivers {Value : Type} (machine : Machine Value) (template : Scope Value)
    (parts : Destructured) (captured : List (String × Value)) : Parameter → Value → Prop where
  | matched {parameter : Parameter} {cell value : Value} :
      parameter.name ∉ parts.deferred.map Conversion.name →
      (parameter.name, value) ∈ captured →
      machine.meaning? config template parameter cell = some value →
      Delivers machine template parts captured parameter cell
  | converted {name tag temporary : String} {cell : Value} :
      ⟨name, config.accessor tag, temporary⟩ ∈ parts.deferred →
      (temporary, cell) ∈ captured →
      Delivers machine template parts captured (.typed name tag) cell

theorem Delivers.cons {config : Config} {Value : Type} {machine : Machine Value}
    {template : Scope Value} {parts : Destructured} {captured : List (String × Value)}
    {parameter : Parameter} {cell : Value}
    (delivered : Delivers config machine template parts captured parameter cell)
    (bound : String × Value) {longer : Destructured}
    (grown : ∀ conversion ∈ parts.deferred, conversion ∈ longer.deferred)
    (fresh : parameter.name ∉ parts.deferred.map Conversion.name →
      parameter.name ∉ longer.deferred.map Conversion.name) :
    Delivers config machine template longer (bound :: captured) parameter cell := by
  cases delivered with
  | matched direct member meant =>
      exact .matched (fresh direct) (List.mem_cons_of_mem _ member) meant
  | converted deferred member =>
      exact .converted (grown _ deferred) (List.mem_cons_of_mem _ member)

/-- A cell fits a parameter: a pattern that matches the parameter captures what the
parameter stands for. -/
def Fits {Value : Type} (machine : Machine Value) (template : Scope Value) (parameter : Parameter)
    (cell : Value) : Prop :=
  ∀ pattern, direct? rules parameter = some pattern → ∃ value,
    machine.capture? pattern cell = some (parameter.name, value) ∧
      machine.meaning? config template parameter cell = some value

/-- Patterns capture cells that fit, and every parameter is delivered. -/
theorem captures_destructureFrom {Value : Type} {machine : Machine Value}
    {template : Scope Value} (used : Nat) {parameters : List Parameter} {cells : List Value}
    (fits : List.Forall₂ (Fits config rules machine template) parameters cells)
    (distinct : (parameters.map Parameter.name).Nodup) :
    let parts := destructureFrom config rules used parameters
    ∃ captured, machine.Captures parts.cells cells captured ∧
      List.Forall₂ (Delivers config machine template parts captured) parameters cells := by
  induction fits generalizing used with
  | nil => exact ⟨[], .nil, .nil⟩
  | @cons parameter cell rest cells fitting restFits ih =>
      obtain ⟨fresh, restDistinct⟩ := List.nodup_cons.mp distinct
      cases direct : direct? rules parameter with
      | some pattern =>
          obtain ⟨captured, captures, delivered⟩ := ih used restDistinct
          obtain ⟨value, success, meant⟩ := fitting pattern direct
          rw [destructureFrom_direct config used rest direct]
          refine ⟨(parameter.name, value) :: captured, .cons success captures, .cons ?_ ?_⟩
          · refine .matched ?_ List.mem_cons_self meant
            intro member
            exact fresh ((deferred_names_sublist config rules used rest).subset member)
          · exact delivered.imp fun _ _ other => other.cons _ (fun _ member => member) id
      | none =>
          obtain ⟨captured, captures, delivered⟩ := ih (used + 1) restDistinct
          obtain ⟨name, tag, rfl, parts⟩ := destructureFrom_deferred config used rest direct
          rw [parts]
          refine ⟨(temporary used, cell) :: captured, .cons rfl captures, .cons ?_ ?_⟩
          · exact .converted List.mem_cons_self List.mem_cons_self
          · refine List.forall₂_iff_zip.mpr ⟨delivered.length_eq, fun {other _} member => ?_⟩
            have declared : other.name ∈ rest.map Parameter.name :=
              List.mem_map_of_mem (List.of_mem_zip member).1
            have different : other.name ≠ name := fun same => fresh (same ▸ declared)
            refine ((List.forall₂_iff_zip.mp delivered).2 member).cons _
              (fun _ => List.mem_cons_of_mem _) fun absent => ?_
            rw [List.map_cons, List.mem_cons, not_or]
            exact ⟨different, absent⟩

theorem mem_deferred (used : Nat) {parameters : List Parameter} {conversion : Conversion}
    (member : conversion ∈ (destructureFrom config rules used parameters).deferred) :
    (∃ name tag, .typed name tag ∈ parameters ∧ conversion.accessor = config.accessor tag) ∧
      ∃ index, conversion.temporary = temporary index := by
  rw [deferred_eq] at member
  obtain ⟨⟨⟨name, tag⟩, index⟩, typed, rfl⟩ := List.mem_map.mp member
  exact ⟨⟨name, tag, mem_of_mem_unruled (List.fst_mem_of_mem_zipIdx typed), rfl⟩, index, rfl⟩

variable {record : Record}

theorem conversion_names :
    ((destructure config rules record).deferred.map Conversion.binding).map Binding.name =
      (destructure config rules record).deferred.map Conversion.name := by
  rw [List.map_map]
  rfl

theorem conversion_names_nodup (distinct : record.NamesDistinct config) :
    (((destructure config rules record).deferred.map Conversion.binding).map
      Binding.name).Nodup := by
  rw [conversion_names]
  exact distinct.distinct.sublist (deferred_names_sublist config rules 0 record.parameters)

theorem conversions_independent (distinct : record.NamesDistinct config) :
    ∀ binding ∈ (destructure config rules record).deferred.map Conversion.binding,
      ∀ name ∈ binding.value.names, name ∉
        ((destructure config rules record).deferred.map Conversion.binding).map Binding.name := by
  intro binding member name read bound
  obtain ⟨conversion, deferred, rfl⟩ := List.mem_map.mp member
  obtain ⟨⟨_, tag, declared, accessor⟩, index, temporary⟩ := mem_deferred config rules 0 deferred
  rw [conversion_names] at bound
  have parameterName : name ∈ record.parameterNames :=
    (deferred_names_sublist config rules 0 record.parameters).subset bound
  have names : name = conversion.accessor ∨ name = conversion.temporary := by
    simpa [Conversion.binding, Expression.names] using read
  rcases names with rfl | rfl
  · rw [accessor] at parameterName
    exact distinct.notMentioned _ parameterName
      (Record.mentioned_of_mem_accessors (Record.mem_accessors config declared))
  · exact distinct.notTemporary _ parameterName index temporary

end Dispatch

namespace Call

variable {Value : Type} {machine : Machine Value} {config : Config} {rules : RuleTable}
variable {record : Record} (call : Call machine config rules record)

theorem fits : List.Forall₂ (Dispatch.Fits config rules machine call.template) record.parameters
    call.cells := by
  refine List.forall₂_iff_zip.mpr ⟨call.oneEach.symm, ?_⟩
  intro parameter cell member pattern direct
  cases parameter with
  | value name =>
      cases direct
      exact ⟨cell, rfl, rfl⟩
  | typed name tag =>
      obtain ⟨constructor, found, rfl⟩ := Option.map_eq_some_iff.mp direct
      obtain ⟨argument, rfl⟩ := call.carried name tag constructor cell member found
      refine ⟨argument, ?_, call.takenOff name tag constructor argument
        (List.of_mem_zip member).1 found⟩
      simp [Machine.capture?, machine.argument?_construct, Parameter.name]

theorem dispatch_scope? {captured : List (String × Value)}
    (captures : machine.Captures (Dispatch.destructure config rules record).cells call.cells
      captured) :
    Dispatch.scope? machine config rules record call.onStack =
      some ((call.onStack.capture (captured.reverse ++ [(config.stack, call.below)])).bind machine
        (Dispatch.bindings config rules record)) := by
  have stacked : call.onStack config.stack = some (machine.pushAll call.below call.cells) :=
    Function.update_self ..
  rw [Dispatch.scope?, Dispatch.matched?_eq stacked captures, Option.map_some]

section Matched

variable {captured : List (String × Value)} (apart : record.NamesApart config)
variable (captures : machine.Captures (Dispatch.destructure config rules record).cells call.cells
  captured)

include apart captures

theorem not_mem_captured {name : String} (mentioned : name ∈ record.mentioned config)
    (visible : ∀ index, name ≠ Dispatch.temporary index) : name ∉ captured.map Prod.fst := by
  intro member
  rw [captures.names] at member
  rcases Dispatch.cell_name config rules 0 member with declared | ⟨index, -, same⟩
  · exact apart.notMentioned name declared mentioned
  · exact visible index same

theorem matched_of_mem {name : String} {value : Value} (member : (name, value) ∈ captured) :
    call.onStack.capture (captured.reverse ++ [(config.stack, call.below)]) name = some value := by
  refine Scope.capture_matched_of_mem _ _ ?_ ?_ member
  · rw [captures.names]
    exact Dispatch.cell_names_nodup config rules 0 apart.distinct apart.notTemporary
  · exact call.not_mem_captured apart captures List.mem_cons_self apart.stackVisible

theorem matched_accessor {accessor : String} (member : accessor ∈ record.accessors config) :
    call.onStack.capture (captured.reverse ++ [(config.stack, call.below)]) accessor =
      call.template accessor := by
  obtain ⟨notStack, visible⟩ := apart.accessorsVisible accessor member
  have unbound := call.not_mem_captured apart captures
    (Record.mentioned_of_mem_accessors member) visible
  rw [Scope.capture_matched_of_not_mem _ _ notStack unbound, onStack,
    Function.update_of_ne notStack]

end Matched

/-- The arm gives every parameter what it stands for. -/
theorem arm_binds (apart : record.NamesApart config) :
    ∃ scope, Dispatch.scope? machine config rules record call.onStack = some scope ∧
      List.Forall₂
        (fun parameter cell =>
          scope parameter.name = machine.meaning? config call.template parameter cell)
        record.parameters call.cells := by
  obtain ⟨captured, captures, delivered⟩ :=
    Dispatch.captures_destructureFrom config rules 0 call.fits apart.distinct
  refine ⟨_, call.dispatch_scope? captures, ?_⟩
  refine List.forall₂_iff_zip.mpr ⟨delivered.length_eq, fun {parameter cell} member => ?_⟩
  have declared : parameter.name ∈ record.parameterNames :=
    List.mem_map_of_mem (List.of_mem_zip member).1
  have notReducer : parameter.name ≠ reducerName := fun same => apart.notReducer (same ▸ declared)
  rw [Dispatch.bindings, record.bind_reducer _ machine _ _ notReducer]
  cases List.forall₂_zip delivered member with
  | @matched _ _ value notDeferred found meant =>
      have absent : parameter.name ∉ ((Dispatch.destructure config rules record).deferred.map
          Dispatch.Conversion.binding).map Binding.name := by
        rw [Dispatch.conversion_names]
        exact notDeferred
      rw [Scope.bind_of_not_mem _ _ absent, call.matched_of_mem apart captures found, meant]
  | @converted name tag temporary _ deferred found =>
      have accessors := Record.mem_accessors config (List.of_mem_zip member).1
      have bound := Scope.bind_of_mem machine
        (call.onStack.capture (captured.reverse ++ [(config.stack, call.below)]))
        (Dispatch.conversion_names_nodup config rules apart.toNamesDistinct)
        (Dispatch.conversions_independent config rules apart.toNamesDistinct)
        (List.mem_map_of_mem deferred)
      refine bound.trans ?_
      simp only [Dispatch.Conversion.binding, Expression.value?,
        call.matched_accessor apart captures accessors, call.matched_of_mem apart captures found,
        Option.bind_some, Machine.meaning?]

end Call

theorem Dispatch.reducerName_mem_bound_iff {config : Config} (rules : RuleTable) {record : Record}
    (apart : record.NamesApart config) :
    reducerName ∈ bound config rules record ↔ record.needsReducef = true := by
  have notMatched : reducerName ∉ (destructure config rules record).cells.map Pattern.name := by
    intro member
    rcases cell_name config rules 0 member with declared | ⟨index, -, same⟩
    · exact apart.notReducer declared
    · exact ne_temporary (by decide) index same
  have notConverted : reducerName ∉ ((destructure config rules record).deferred.map
      Conversion.binding).map Binding.name := by
    rw [conversion_names]
    intro member
    exact apart.notReducer ((deferred_names_sublist config rules 0 record.parameters).subset member)
  rw [bound, List.mem_append, or_iff_right notMatched, bindings,
    record.reducerName_mem_iff _ notConverted]

end InstructionSet
