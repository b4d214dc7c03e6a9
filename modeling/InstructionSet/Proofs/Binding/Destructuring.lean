import InstructionSet.Proofs.ArtifactRows
import InstructionSet.Proofs.ParameterBinding

/-!
# Destructuring the stack

The pattern of an arm takes the cells of a stack apart that were pushed in declared order, and the
lines behind it convert what the pattern could only name. A parameter is followed through both by
what is declared in front of it and behind it (`Record.Unhidden.bound`): that tells its place in the
pattern, its temporary and the lines that come before its own.
-/

set_option autoImplicit false

namespace InstructionSet

namespace Dispatch

/-! ## The lines of an arm -/

/-- The lines that convert what the pattern could only name. -/
def conversionLines (config : Config) (rules : RuleTable) (record : Record) : List Binding :=
  (destructure config rules record).deferred.map Conversion.binding

section Lines

variable (config : Config) (rules : RuleTable) {record : Record}

theorem conversionLines_eq :
    conversionLines config rules record =
      (unruled rules record.parameters).zipIdx.map fun typed => (conversion config typed).binding := by
  rw [conversionLines, destructure, deferred_eq, List.map_map]
  rfl

theorem conversion_line_names (typed : List (String × String)) (used : Nat) :
    ((typed.zipIdx used).map fun typed => (conversion config typed).binding).map Binding.name =
      typed.map Prod.fst := by
  rw [← map_name_conversions config typed used, List.map_map, List.map_map]
  rfl

/-- The line of a typed parameter without a rule stands behind those of the parameters in front. -/
theorem conversionLines_split {before after : List Parameter} {name tag : String}
    (declared : record.parameters = before ++ .typed name tag :: after)
    (missing : rules.lookup tag = none) :
    ∃ first next,
      conversionLines config rules record = first ++
        (conversion config ((name, tag), (unruled rules before).length)).binding :: next ∧
      first.map Binding.name = (unruled rules before).map Prod.fst ∧
      next.map Binding.name = (unruled rules after).map Prod.fst := by
  have direct : direct? rules (.typed name tag) = none := Option.map_eq_none_iff.mpr missing
  obtain ⟨_, _, same, -, one, -⟩ := destructureFrom_unruled config 0 after direct
  cases same
  refine ⟨_, _, ?_, conversion_line_names config (unruled rules before) 0,
    conversion_line_names config (unruled rules after) ((unruled rules before).length + 1)⟩
  rw [conversionLines_eq, declared, unruled_append, one, List.zipIdx_append, List.zipIdx_cons,
    List.map_append, List.map_cons, Nat.zero_add]

/-- The lines read the temporaries one after another, if the accessors are named otherwise. -/
theorem temporaries_read {named : String → Prop} [DecidablePred named]
    (typed : List (String × String)) (used : Nat)
    (accessors : ∀ one ∈ typed, ¬ named (config.accessor one.2))
    (numbers : ∀ name ∈ numbered "_tmp" used typed.length, named name) :
    (((typed.zipIdx used).map fun typed => (conversion config typed).binding).flatMap
        fun line => line.value.names).filter named =
      numbered "_tmp" used typed.length := by
  induction typed generalizing used with
  | nil => rfl
  | cons one rest ih =>
      obtain ⟨accessor, others⟩ := List.forall_mem_cons.mp accessors
      rw [List.length_cons, numbered_succ] at numbers ⊢
      obtain ⟨number, more⟩ := List.forall_mem_cons.mp numbers
      have number : named (temporary used) := number
      have here : (conversion config (one, used)).binding.value.names.filter named =
          [temporary used] := by
        simp [conversion, Conversion.binding, Expression.names, accessor, number]
      rw [List.zipIdx_cons, List.map_cons, List.flatMap_cons, List.filter_append, here,
        ih (used + 1) others more]
      rfl

end Lines

theorem patternBehind_mem_zip {Value : Type} (config : Config) (rules : RuleTable) {record : Record}
    {before after : List Parameter} {parameter : Parameter}
    (declared : record.parameters = before ++ parameter :: after) {cells : List Value} {cell : Value}
    (place : cells[before.length]? = some cell) :
    (patternBehind rules before parameter, cell) ∈
      (destructure config rules record).cells.zip cells := by
  refine List.mem_iff_getElem?.mpr ⟨before.length, List.getElem?_zip_eq_some.mpr ⟨?_, place⟩⟩
  rw [destructure, declared]
  exact cells_behind config rules before parameter after

end Dispatch

/-! ## What the lines bind -/

namespace Record

variable (config : Config) (rules : RuleTable) (record : Record)

/-- Parameters have names of their own, apart from the temporaries of the arm and the stack. -/
structure OwnNames : Prop where
  distinct : record.parameterNames.Nodup
  notTemporary : ∀ name ∈ record.parameterNames, name ∉ Dispatch.temporaries rules record
  notStack : config.stack ∉ record.parameterNames

/-- The stack is no temporary, and no accessor is hidden where it is read: it is not the stack, the
pattern does not bind it, and no line in front does. -/
structure Unhidden : Prop where
  stack : config.stack ∉ Dispatch.temporaries rules record
  accessor : ∀ before name tag after,
    Dispatch.unruled rules record.parameters = before ++ (name, tag) :: after →
      config.accessor tag ≠ config.stack ∧
      config.accessor tag ∉ (Dispatch.destructure config rules record).cells.map Pattern.name ∧
      config.accessor tag ∉ before.map Prod.fst

end Record

namespace Dispatch

section Scopes

variable {Value : Type} (machine : Machine Value) (config : Config) (rules : RuleTable)

/-- The scope behind the conversions. -/
def converted? (record : Record) (outer : Scope Value) : Option (Scope Value) :=
  (matched? machine config rules record outer).map fun scope =>
    scope.bind machine (conversionLines config rules record)

/-- What a cell carries that is matched against the constructor of a rule. -/
def Carries : Parameter → Value → Prop
  | .value _, _ => True
  | .typed _ tag, cell =>
      ∀ constructor, rules.lookup tag = some constructor →
        (machine.argument? constructor cell).isSome

/-- What a parameter is bound to: its cell, the argument of its cell's constructor, or what its
accessor makes of the cell. -/
def held? (outer : Scope Value) : Parameter → Value → Option Value
  | .value _, cell => some cell
  | .typed _ tag, cell =>
      match rules.lookup tag with
      | some constructor => machine.argument? constructor cell
      | none => (outer (config.accessor tag)).bind fun accessor => machine.apply accessor cell

end Scopes

section Match

variable {Value : Type} {machine : Machine Value} {config : Config} {rules : RuleTable}

/-- A parameter that is matched directly is captured under its name. -/
theorem held?_of_direct (outer : Scope Value) {parameter : Parameter} {pattern : Pattern}
    {cell : Value} {bound : String × Value} (direct : direct? rules parameter = some pattern)
    (success : machine.capture? pattern cell = some bound) :
    bound.1 = parameter.name ∧
      held? machine config rules outer parameter cell = some bound.2 := by
  refine ⟨(Machine.capture?_name success).trans (direct?_name direct), ?_⟩
  cases parameter with
  | value name =>
      cases direct
      cases success
      rfl
  | typed name tag =>
      obtain ⟨constructor, found, rfl⟩ := Option.map_eq_some_iff.mp direct
      obtain ⟨argument, carried, rfl⟩ := Option.map_eq_some_iff.mp success
      simp only [held?, found, carried]

theorem carries_iff_of_direct {parameter : Parameter} {pattern : Pattern} (cell : Value)
    (direct : direct? rules parameter = some pattern) :
    Carries machine rules parameter cell ↔ (machine.capture? pattern cell).isSome := by
  cases parameter with
  | value name =>
      cases direct
      simp [Carries, Machine.capture?]
  | typed name tag =>
      obtain ⟨constructor, found, rfl⟩ := Option.map_eq_some_iff.mp direct
      simp [Carries, Machine.capture?, found]

/-- The patterns match the cells that carry the constructors of the rules. -/
theorem forall₂_capture?_iff (config : Config) (used : Nat) {parameters : List Parameter}
    {cells : List Value} :
    List.Forall₂ (fun pattern cell => (machine.capture? pattern cell).isSome)
        (destructureFrom config rules used parameters).cells cells ↔
      List.Forall₂ (Carries machine rules) parameters cells := by
  induction parameters generalizing used cells with
  | nil => simp [destructureFrom]
  | cons parameter rest ih =>
      cases cells with
      | nil =>
          have patterns := length_cells config rules used (parameter :: rest)
          refine iff_of_false (fun each => ?_) (fun each => ?_)
          · rw [each.length_eq] at patterns
            cases patterns
          · cases each
      | cons cell cells =>
          cases direct : direct? rules parameter with
          | some pattern =>
              rw [destructureFrom_direct config used rest direct, List.forall₂_cons,
                List.forall₂_cons, ih used, carries_iff_of_direct cell direct]
          | none =>
              obtain ⟨name, tag, rfl, missing, -, parts⟩ :=
                destructureFrom_unruled config used rest direct
              rw [parts, List.forall₂_cons, List.forall₂_cons, ih (used + 1)]
              simp [Carries, missing, Machine.capture?]

variable {record : Record} {outer : Scope Value} {cells : List Value} {below : Value}
variable (stacked : outer config.stack = some (machine.pushAll below cells))

include stacked

/-- An arm matches the stacks whose cells carry the constructors of the rules. -/
theorem isSome_matched?_iff (oneEach : cells.length = record.arity) :
    (matched? machine config rules record outer).isSome ↔
      List.Forall₂ (Carries machine rules) record.parameters cells := by
  rw [← forall₂_capture?_iff config 0, ← Machine.exists_captures_iff]
  constructor
  · intro matched
    have oneEach : (destructure config rules record).cells.length = cells.length :=
      (length_cells config rules 0 record.parameters).trans oneEach.symm
    unfold matched? at matched
    by_cases empty : (destructure config rules record).cells = []
    · have none : cells = [] := by
        rw [empty] at oneEach
        exact List.length_eq_zero_iff.mp oneEach.symm
      exact ⟨[], by rw [none]; exact empty ▸ .nil⟩
    · rw [if_neg (by simpa using empty), stacked, Option.bind_some, Option.isSome_map] at matched
      obtain ⟨result, popped⟩ := Option.isSome_iff_exists.mp matched
      exact Machine.exists_captures_of_popAll? oneEach popped
  · rintro ⟨captured, captures⟩
    rw [matched?_eq stacked captures]
    rfl

end Match

end Dispatch

section Bound

open Dispatch

variable {Value : Type} {machine : Machine Value} {config : Config} {rules : RuleTable}
variable {record : Record} {cells : List Value} {captured : List (String × Value)}
variable (own : record.OwnNames config rules) (unhidden : record.Unhidden config rules)
variable (captures : machine.Captures (destructure config rules record).cells cells captured)

include own captures

theorem Record.OwnNames.captured_nodup : (captured.map Prod.fst).Nodup := by
  rw [captures.names]
  refine (cell_names_nodup_iff config rules 0 own.distinct).mpr fun name direct => ?_
  exact own.notTemporary name ((direct_names_sublist rules record.parameters).subset direct)

include unhidden

theorem Record.Unhidden.stack_not_mem : config.stack ∉ captured.map Prod.fst := by
  rw [captures.names, destructure, (cell_names_perm config rules 0 record.parameters).mem_iff,
    List.mem_append, not_or]
  exact ⟨fun direct => own.notStack ((direct_names_sublist rules record.parameters).subset direct),
    unhidden.stack⟩

variable (outer : Scope Value) (below : Value)

/-- Each parameter is bound to what its cell holds for it, whatever stands in front of it and behind
it. -/
theorem Record.Unhidden.bound {before after : List Parameter} {parameter : Parameter} {cell : Value}
    (declared : record.parameters = before ++ parameter :: after)
    (member : (patternBehind rules before parameter, cell) ∈
      (destructure config rules record).cells.zip cells) :
    (outer.capture (captured.reverse ++ [(config.stack, below)])).bind machine
        (conversionLines config rules record) parameter.name =
      held? machine config rules outer parameter cell := by
  obtain ⟨bound, found, success⟩ := captures.exists_mem_of_zip member
  have nodup := own.captured_nodup captures
  have stackFresh := unhidden.stack_not_mem own captures
  have distinct := own.distinct
  rw [Record.parameterNames, declared, List.map_append, List.map_cons] at distinct
  obtain ⟨-, behind, apart⟩ := List.nodup_append'.mp distinct
  have freshBefore : parameter.name ∉ (unruled rules before).map Prod.fst := fun bound =>
    apart ((unruled_names_sublist rules before).subset bound) List.mem_cons_self
  have freshBehind : parameter.name ∉ (unruled rules after).map Prod.fst := fun bound =>
    (List.nodup_cons.mp behind).1 ((unruled_names_sublist rules after).subset bound)
  cases direct : direct? rules parameter with
  | some pattern =>
      rw [patternBehind, direct, Option.getD_some] at success
      obtain ⟨name, held⟩ := held?_of_direct outer direct success
      have unconverted : parameter.name ∉ (conversionLines config rules record).map Binding.name := by
        rw [conversionLines_eq, conversion_line_names, declared, unruled_append,
          unruled_cons_of_direct after direct, List.map_append, List.mem_append, not_or]
        exact ⟨freshBefore, freshBehind⟩
      rw [Scope.bind_of_not_mem _ _ unconverted, held, ← name]
      exact Scope.capture_matched_of_mem _ _ nodup stackFresh found
  | none =>
      obtain ⟨name, tag, rfl, missing, one, -⟩ := destructureFrom_unruled config 0 after direct
      rw [patternBehind, direct, Option.getD_none] at success
      cases success
      obtain ⟨first, next, lines, firstNames, nextNames⟩ :=
        conversionLines_split config rules declared missing
      have split : unruled rules record.parameters =
          unruled rules before ++ (name, tag) :: unruled rules after := by
        rw [declared, unruled_append, one]
      obtain ⟨notStack, unbound, notBefore⟩ := unhidden.accessor _ _ _ _ split
      rw [← captures.names] at unbound
      have isTemporary : temporary (unruled rules before).length ∈ temporaries rules record := by
        refine List.mem_map_of_mem (List.mem_range'_1.mpr ⟨Nat.zero_le _, ?_⟩)
        simp [split]
      have notConverted : temporary (unruled rules before).length ∉ first.map Binding.name := by
        rw [firstNames]
        intro bound
        have inFront := (unruled_names_sublist rules before).subset bound
        refine own.notTemporary _ ?_ isTemporary
        rw [Record.parameterNames, declared, List.map_append]
        exact List.mem_append_left _ inFront
      rw [lines]
      refine (Scope.bind_of_split machine _ (nextNames ▸ freshBehind) ?_).trans ?_
      · intro read member
        rcases List.mem_pair.mp member with rfl | rfl
        · rw [firstNames]
          exact notBefore
        · exact notConverted
      · have accessor := Scope.capture_matched_of_not_mem outer below notStack unbound
        have converted := Scope.capture_matched_of_mem outer below nodup stackFresh found
        simp only [conversion, Conversion.binding, Expression.value?, accessor, converted, held?,
          missing, Option.bind_some]

end Bound

/-- Behind the lines the stack is what is below the cells. -/
theorem Record.OwnNames.bound_stack {Value : Type} (machine : Machine Value) {config : Config}
    {rules : RuleTable} {record : Record} (own : record.OwnNames config rules) (outer : Scope Value)
    (captured : List (String × Value)) (below : Value) :
    (outer.capture (captured ++ [(config.stack, below)])).bind machine
        (Dispatch.conversionLines config rules record) config.stack = some below := by
  have unconverted : config.stack ∉
      (Dispatch.conversionLines config rules record).map Binding.name := by
    rw [Dispatch.conversionLines_eq, Dispatch.conversion_line_names]
    exact fun bound =>
      own.notStack ((Dispatch.unruled_names_sublist rules record.parameters).subset bound)
  rw [Scope.bind_of_not_mem _ _ unconverted, Scope.capture_matched_stack]

/-- Behind the lines of an arm that matches, every parameter is bound to what its own cell holds. -/
theorem Record.Unhidden.binds {Value : Type} {machine : Machine Value} {config : Config}
    {rules : RuleTable} {record : Record} (own : record.OwnNames config rules)
    (unhidden : record.Unhidden config rules) {outer scope : Scope Value} {cells : List Value}
    {below : Value} (stacked : outer config.stack = some (machine.pushAll below cells))
    (oneEach : cells.length = record.arity)
    (converted : Dispatch.converted? machine config rules record outer = some scope) :
    List.Forall₂ (fun parameter cell =>
        scope parameter.name = Dispatch.held? machine config rules outer parameter cell)
      record.parameters cells ∧
    scope config.stack = some below := by
  obtain ⟨matched, found, rfl⟩ := Option.map_eq_some_iff.mp converted
  have carries : List.Forall₂ (Dispatch.Carries machine rules) record.parameters cells :=
    (Dispatch.isSome_matched?_iff stacked oneEach).mp (found ▸ rfl)
  rw [← Dispatch.forall₂_capture?_iff config 0, ← Machine.exists_captures_iff] at carries
  obtain ⟨captured, captures⟩ := carries
  rw [Dispatch.matched?_eq stacked captures, Option.some.injEq] at found
  subst found
  refine ⟨List.forall₂_iff_get.mpr ⟨oneEach.symm, fun index inParameters inCells => ?_⟩,
    own.bound_stack machine outer _ below⟩
  have declared : record.parameters = record.parameters.take index ++
      record.parameters[index] :: record.parameters.drop (index + 1) := by
    simp
  have place : (record.parameters.take index).length = index :=
    List.length_take_of_le (Nat.le_of_lt inParameters)
  refine unhidden.bound own captures outer below declared ?_
  refine Dispatch.patternBehind_mem_zip config rules declared ?_
  rw [place, List.getElem?_eq_getElem inCells]
  rfl

/-- The lines of an arm read every temporary once, in declared order. -/
theorem Record.Unhidden.temporaries_read {config : Config} {rules : RuleTable} {record : Record}
    (unhidden : record.Unhidden config rules) :
    ((Dispatch.conversionLines config rules record).flatMap fun line => line.value.names).filter
        (· ∈ Dispatch.temporaries rules record) = Dispatch.temporaries rules record := by
  rw [Dispatch.conversionLines_eq]
  refine Dispatch.temporaries_read config _ 0 (fun typed member => ?_) fun _ => id
  obtain ⟨before, after, split⟩ := List.append_of_mem member
  obtain ⟨-, unbound, -⟩ := unhidden.accessor before typed.1 typed.2 after split
  intro temporary
  refine unbound (((Dispatch.cell_names_perm config rules 0 record.parameters).mem_iff).mpr ?_)
  exact List.mem_append_right _ temporary

theorem Dispatch.rows_arm (config : Config) (rules : RuleTable) (record : Record)
    {opcode code : String} (named : record.opcodeName = .ok opcode)
    (present : record.require .code = .ok code) :
    ∃ rest, ((arm config rules record).sheet 0).rows =
      [⟨1, headLine opcode record.fields⟩, ⟨3, "begin"⟩] ++
        (if record.parameters = [] then []
          else [⟨4, "match " ++ config.stack ++ " with"⟩,
            ⟨4, patternLine config (destructure config rules record).patterns⟩]) ++
        (conversionLines config rules record).map (fun line => ⟨6, line.line⟩) ++ rest := by
  have noPattern : (destructure config rules record).patterns.isEmpty ↔ record.parameters = [] := by
    rw [List.isEmpty_iff, Destructured.patterns, List.map_eq_nil_iff, ← List.length_eq_zero_iff,
      destructure, length_cells, List.length_eq_zero_iff]
  rw [sheet_arm config rules record named present]
  refine ⟨(record.reducer? (reduction config)).toList.map (fun binding => ⟨6, binding.line⟩) ++
    bodyRows config record code ++ [⟨0, ""⟩] ++
    mismatchRows config opcode (destructure config rules record).patterns ++
    [⟨3, "end"⟩, ⟨0, ""⟩], ?_⟩
  simp only [armRows, openingRows, noPattern, bindings, conversionLines, List.map_append,
    List.append_assoc]

/-- An arm takes the cells of a stack apart as they were pushed. Each parameter has its pattern at
its place, the cells that are matched directly carry the constructors of their rules, and behind the
lines each parameter is bound to what its own cell holds for it, provided that no name hides
another. -/
theorem stack_destructured (config : Config) (rules : RuleTable) (record : Record) {Value : Type}
    (machine : Machine Value) :
    ((Dispatch.destructure config rules record).cells.length = record.arity ∧
      ∀ before parameter after, record.parameters = before ++ parameter :: after →
        (Dispatch.destructure config rules record).cells[before.length]? =
          some (Dispatch.patternBehind rules before parameter)) ∧
    (∀ opcode code, record.opcodeName = .ok opcode → record.require .code = .ok code →
      ∃ rest, ((Dispatch.arm config rules record).sheet 0).rows =
        [⟨1, Dispatch.headLine opcode record.fields⟩, ⟨3, "begin"⟩] ++
          (if record.parameters = [] then []
            else [⟨4, "match " ++ config.stack ++ " with"⟩,
              ⟨4, Dispatch.patternLine config (Dispatch.destructure config rules record).patterns⟩]) ++
          (Dispatch.conversionLines config rules record).map (fun line => ⟨6, line.line⟩) ++ rest) ∧
    (∀ (outer : Scope Value) cells below, cells.length = record.arity →
      outer config.stack = some (machine.pushAll below cells) →
      ((Dispatch.converted? machine config rules record outer).isSome ↔
        List.Forall₂ (Dispatch.Carries machine rules) record.parameters cells) ∧
      (record.OwnNames config rules → record.Unhidden config rules →
        ∀ scope, Dispatch.converted? machine config rules record outer = some scope →
          List.Forall₂ (fun parameter cell =>
              scope parameter.name = Dispatch.held? machine config rules outer parameter cell)
            record.parameters cells ∧
          scope config.stack = some below)) ∧
    (record.Unhidden config rules →
      ((Dispatch.conversionLines config rules record).flatMap fun line => line.value.names).filter
        (· ∈ Dispatch.temporaries rules record) = Dispatch.temporaries rules record) := by
  refine ⟨⟨Dispatch.length_cells config rules 0 _, ?_⟩, ?_, ?_,
    fun unhidden => unhidden.temporaries_read⟩
  · intro before parameter after declared
    rw [Dispatch.destructure, declared]
    exact Dispatch.cells_behind config rules before parameter after
  · intro opcode code named present
    exact Dispatch.rows_arm config rules record named present
  · intro outer cells below oneEach stacked
    have matches_iff : (Dispatch.matched? machine config rules record outer).isSome ↔ _ :=
      Dispatch.isSome_matched?_iff stacked oneEach
    refine ⟨by rw [Dispatch.converted?, Option.isSome_map, matches_iff], ?_⟩
    exact fun own unhidden scope converted => unhidden.binds own stacked oneEach converted

namespace Term

/-- A scope in which a stack has been built of cells, and every other name stands for itself. -/
def stackedScope (config : Config) (cells : List Term) : Scope Term :=
  Function.update (fun name => some (.atom name)) config.stack
    (some (machine.pushAll (.atom "s") cells))

def mixedCells : List Term := [.atom "a", .constructed "IntegerConstant" (.atom "3"), .atom "c"]

theorem stack_destructured_mixed :
    mixedRecord.OwnNames {} .standard ∧ mixedRecord.Unhidden {} .standard ∧
      ∃ scope, Dispatch.converted? machine {} .standard mixedRecord (stackedScope {} mixedCells) =
          some scope ∧
        scope "x" = some (.atom "a") ∧ scope "n" = some (.atom "3") ∧
        scope "y" = some (.applied (.atom "get_ratio") (.atom "c")) ∧
        scope "stack" = some (.atom "s") ∧
        ∃ rest, ((Dispatch.arm {} .standard mixedRecord).sheet 0).rows =
          [⟨1, "| OpScale ->"⟩, ⟨3, "begin"⟩, ⟨4, "match stack with"⟩,
            ⟨4, "| _tmp0 :: IntegerConstant(n) :: x :: stack ->"⟩,
            ⟨6, "let y = get_ratio _tmp0 in"⟩] ++ rest := by
  have own : mixedRecord.OwnNames {} .standard := ⟨by decide, by decide, by decide⟩
  have unhidden : mixedRecord.Unhidden {} .standard := by
    refine ⟨by decide, fun before name tag after split => ?_⟩
    have only : [("y", "ratio")] = before ++ (name, tag) :: after := split
    obtain ⟨rfl, same⟩ : before = [] ∧ [("y", "ratio")] = (name, tag) :: after := by
      cases before with
      | nil => exact ⟨rfl, only⟩
      | cons first before => simp at only
    cases same
    decide
  obtain ⟨-, rows, binds, -⟩ := stack_destructured {} .standard mixedRecord machine
  obtain ⟨rest, rows⟩ := rows "OpScale" "x" rfl rfl
  obtain ⟨matches_iff, held⟩ := binds (stackedScope {} mixedCells) mixedCells (.atom "s") rfl rfl
  have carries : List.Forall₂ (Dispatch.Carries machine .standard) mixedRecord.parameters
      mixedCells := by
    refine .cons trivial (.cons ?_ (.cons ?_ .nil))
    · intro constructor found
      obtain rfl : "IntegerConstant" = constructor := Option.some.inj found
      rfl
    · intro constructor found
      cases found
  obtain ⟨scope, converted⟩ := Option.isSome_iff_exists.mp (matches_iff.mpr carries)
  obtain ⟨parameters, below⟩ := held own unhidden scope converted
  simp only [mixedRecord, mixedCells, List.forall₂_cons] at parameters
  obtain ⟨x, n, y, -⟩ := parameters
  exact ⟨own, unhidden, scope, converted, x, n, y, below, rest,
    rows.trans (congrArg (· ++ rest) (by decide))⟩

/-- An arm that matches does not bind a parameter to what its cell holds for it, though parameters
have names of their own. -/
structure Misbinds (config : Config) (parameters : List Parameter) (cells : List Term)
    (parameter : Parameter) (cell : Term) : Prop where
  own : ({ parameters } : Record).OwnNames config .standard
  oneEach : cells.length = parameters.length
  member : (parameter, cell) ∈ parameters.zip cells
  binds : ((Dispatch.converted? machine config .standard { parameters }
    (stackedScope config cells)).map fun scope => decide (scope parameter.name =
      Dispatch.held? machine config .standard (stackedScope config cells) parameter cell)) = some false

/-- It is not enough that parameters have names of their own: an accessor is hidden by a parameter
that the pattern binds, by one that a line in front binds, or by the stack, and a temporary by the
stack. -/
theorem names_hide_in_arm :
    Misbinds {} [.value "get_ratio", .typed "y" "ratio"] [.atom "a", .atom "b"]
      (.typed "y" "ratio") (.atom "b") ∧
    Misbinds {} [.typed "get_ratio" "font", .typed "y" "ratio"] [.atom "a", .atom "b"]
      (.typed "y" "ratio") (.atom "b") ∧
    Misbinds { stack := "get_ratio" } [.typed "y" "ratio"] [.atom "b"]
      (.typed "y" "ratio") (.atom "b") ∧
    Misbinds { stack := "_tmp0" } [.typed "y" "ratio"] [.atom "b"]
      (.typed "y" "ratio") (.atom "b") := by
  refine ⟨⟨⟨?_, ?_, ?_⟩, rfl, ?_, ?_⟩, ⟨⟨?_, ?_, ?_⟩, rfl, ?_, ?_⟩, ⟨⟨?_, ?_, ?_⟩, rfl, ?_, ?_⟩,
    ⟨⟨?_, ?_, ?_⟩, rfl, ?_, ?_⟩⟩ <;> decide

end Term

end InstructionSet
