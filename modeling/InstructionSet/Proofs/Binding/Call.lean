import Mathlib.Data.List.Forall2
import InstructionSet.Proofs.Evaluation
import InstructionSet.Proofs.Names

/-!
# Calls of primitives

What an arm of the machine and a case of the interpreter start from, and the scopes in
which they run the code of a record. Generated code is lexically scoped, so it matters
which names hide each other: those of parameters, those that are generated and those of
the configuration.
-/

set_option autoImplicit false

namespace InstructionSet

def Parameter.tag? : Parameter → Option String
  | .value _ => none
  | .typed _ tag => some tag

namespace Record

def parameterNames (record : Record) : List String := record.parameters.map Parameter.name

def accessors (config : Config) (record : Record) : List String :=
  (record.parameters.filterMap Parameter.tag?).map config.accessor

/-- The names from a configuration that the lines for a record mention. -/
def mentioned (config : Config) (record : Record) : List String :=
  [config.stack, config.environment, config.code, config.dump, config.vmExec, config.result,
    config.vmReducef, config.interpReducef, config.interpret, config.bugReporter] ++
    record.accessors config

/-- Parameters have names of their own. -/
structure NamesDistinct (config : Config) (record : Record) : Prop where
  distinct : record.parameterNames.Nodup
  notTemporary : ∀ name ∈ record.parameterNames, ∀ index, name ≠ Dispatch.temporary index
  notSubterm : ∀ name ∈ record.parameterNames, ∀ index, name ≠ Interpreter.subterm index
  notMentioned : ∀ name ∈ record.parameterNames, name ∉ record.mentioned config

/-- No generated name hides a name that is read behind it, and no parameter is named
like the reduction. -/
structure NamesApart (config : Config) (record : Record) : Prop
    extends NamesDistinct config record where
  notReducer : reducerName ∉ record.parameterNames
  stackVisible : ∀ index, config.stack ≠ Dispatch.temporary index
  accessorsVisible : ∀ accessor ∈ record.accessors config,
    accessor ≠ config.stack ∧ ∀ index, accessor ≠ Dispatch.temporary index
  interpreterVisible : ∀ name ∈ config.interpret :: config.environment :: record.accessors config,
    ∀ index, name ≠ Interpreter.subterm index

theorem namesDistinct_of_plain {config : Config} {record : Record}
    (distinct : record.parameterNames.Nodup)
    (plain : ∀ name ∈ record.parameterNames, name.toList.head? ≠ some '_')
    (notMentioned : ∀ name ∈ record.parameterNames, name ∉ record.mentioned config) :
    record.NamesDistinct config :=
  ⟨distinct, fun name member => Dispatch.ne_temporary (plain name member),
    fun name member => Interpreter.ne_subterm (plain name member), notMentioned⟩

end Record

namespace Dispatch

def bound (config : Config) (rules : RuleTable) (record : Record) : List String :=
  (destructure config rules record).cells.map Pattern.name ++
    (bindings config rules record).map Binding.name

section Arm

variable {Value : Type} (machine : Machine Value) (config : Config) (rules : RuleTable)

/-- The scope behind the match of an arm. There is none for a stack that does not match. -/
def matched? (record : Record) (outer : Scope Value) : Option (Scope Value) :=
  let cells := (destructure config rules record).cells
  if cells.isEmpty then some outer
  else
    (outer config.stack).bind fun stack =>
      (machine.popAll? cells.reverse stack).map fun (captured, below) =>
        outer.capture (captured ++ [(config.stack, below)])

/-- The scope of an arm's code, given the scope around the arm. -/
def scope? (record : Record) (outer : Scope Value) : Option (Scope Value) :=
  (matched? machine config rules record outer).map fun scope =>
    scope.bind machine (bindings config rules record)

end Arm

end Dispatch

namespace Interpreter

def bound (config : Config) (record : Record) : List String :=
  subterms record.arity ++ (bindings config record).map Binding.name

/-- The scope of a case's code, given the scope in which its subterms are bound. -/
def scope {Value : Type} (machine : Machine Value) (config : Config) (record : Record)
    (scope : Scope Value) : Scope Value :=
  scope.bind machine (bindings config record)

end Interpreter

section Call

variable {Value : Type} (machine : Machine Value) (config : Config) (template : Scope Value)

def Machine.interpret? (tree : Value) : Option Value :=
  (((template config.interpret).bind fun interpret =>
    (template config.environment).bind (machine.apply interpret))).bind fun interpreter =>
      machine.apply interpreter tree

/-- What a parameter stands for: the value on the stack, converted by the accessor of its
tag if it has one. -/
def Machine.meaning? : Parameter → Value → Option Value
  | .value _, cell => some cell
  | .typed _ tag, cell =>
      (template (config.accessor tag)).bind fun accessor => machine.apply accessor cell

/-- A call of a primitive: the trees it is applied to, and a stack on which what the
template's interpreter makes of them has been pushed in declared order. A cell for a
tag with a rule carries the rule's constructor, and the template's accessor of the
tag takes it off. -/
structure Call (rules : RuleTable) (record : Record) where
  template : Scope Value
  trees : List Value
  cells : List Value
  below : Value
  oneEach : cells.length = record.arity
  interpreted : List.Forall₂ (fun tree cell => machine.interpret? config template tree = some cell)
    trees cells
  carried : ∀ name tag constructor cell,
    (Parameter.typed name tag, cell) ∈ record.parameters.zip cells →
      rules.lookup tag = some constructor →
      ∃ argument, cell = machine.construct constructor argument
  takenOff : ∀ name tag constructor argument, Parameter.typed name tag ∈ record.parameters →
    rules.lookup tag = some constructor →
    machine.meaning? config template (.typed name tag) (machine.construct constructor argument) =
      some argument

end Call

namespace Call

variable {Value : Type} {machine : Machine Value} {config : Config} {rules : RuleTable}
variable {record : Record} (call : Call machine config rules record)

/-- The scope around the arm: the template's, with the stack. -/
def onStack : Scope Value :=
  Function.update call.template config.stack
    (some (machine.pushAll call.below call.cells))

/-- The scope of the case's pattern: the template's, with the trees. -/
def onTrees : Scope Value :=
  call.template.capture ((Interpreter.subterms record.arity).zip call.trees)

/-- Both the arm and the case give every parameter the same value. -/
def BoundAlike : Prop :=
  ∃ scope, Dispatch.scope? machine config rules record call.onStack = some scope ∧
    ∀ name ∈ record.parameterNames,
      scope name = Interpreter.scope machine config record call.onTrees name

end Call

namespace Record

theorem mentioned_of_mem_accessors {config : Config} {record : Record} {accessor : String}
    (member : accessor ∈ record.accessors config) : accessor ∈ record.mentioned config :=
  List.mem_append_right _ member

theorem mem_accessors (config : Config) {record : Record} {name tag : String}
    (declared : .typed name tag ∈ record.parameters) :
    config.accessor tag ∈ record.accessors config :=
  List.mem_map_of_mem (List.mem_filterMap.mpr ⟨_, declared, rfl⟩)

section Reducer

variable (record : Record) (reduction : Expression)

theorem name_of_mem_reducer? :
    ∀ binding ∈ record.reducer? reduction, binding.name = reducerName := by
  intro binding member
  unfold reducer? at member
  split at member
  · cases member
    rfl
  · cases member

theorem reducerName_mem_iff {bindings : List Binding}
    (other : reducerName ∉ bindings.map Binding.name) :
    reducerName ∈ (bindings ++ (record.reducer? reduction).toList).map Binding.name ↔
      record.needsReducef = true := by
  rw [List.map_append, List.mem_append, or_iff_right other, reducer?]
  cases record.needsReducef with
  | false => simp
  | true => simp

/-- The reduction is bound last and hides nothing else. -/
theorem bind_reducer {Value : Type} (machine : Machine Value) (scope : Scope Value)
    (bindings : List Binding) {name : String} (other : name ≠ reducerName) :
    scope.bind machine (bindings ++ (record.reducer? reduction).toList) name =
      scope.bind machine bindings name := by
  rw [Scope.bind_append]
  apply Scope.bind_of_not_mem
  intro bound
  obtain ⟨binding, member, rfl⟩ := List.mem_map.mp bound
  exact other (record.name_of_mem_reducer? reduction binding (Option.mem_toList.mp member))

end Reducer

end Record

end InstructionSet
