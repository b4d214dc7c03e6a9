import InstructionSet.Proofs.Binding.Arm
import InstructionSet.Proofs.Binding.Case
import InstructionSet.Proofs.Emission

/-!
# Binding of parameters

An arm of the machine takes its arguments from the stack, a case of the interpreter
interprets its subterms. Both give a parameter the same value as long as no generated
name hides another name (`Call.parameters_bound_alike`).
-/

set_option autoImplicit false

namespace InstructionSet

/-- The arm and the case of a record splice its code, but the case of a separated record
its own. -/
theorem Pass.writtenAlone_primitive {config : Config} (duplicates : DuplicatePolicy)
    (rules : RuleTable) {record : Record} {inst code body : String}
    (named : record.requireInst = .ok inst) (armCode : record.require .code = .ok code)
    (caseCode : record.require (if record.separated then .codeInterp else .code) = .ok body) :
    (Pass.mk (some .dispatch) config duplicates rules).writtenAlone record =
        .ok (Row.renderAll config.indent
          (Dispatch.armRows config rules record ("Op" ++ inst) code)) ∧
      (Pass.mk (some .interpreter) config duplicates rules).writtenAlone record =
        .ok (Row.renderAll config.indent (Interpreter.caseRows config record inst body)) := by
  have opcode := Record.opcodeName_of_requireInst named
  have caseBody : record.interpBody = .ok body := caseCode
  have armComplete : Artifact.dispatch.lacks? record = none :=
    Artifact.lacks?_of_present named rfl armCode
  have caseComplete : Artifact.interpreter.lacks? record = none :=
    Artifact.lacks?_of_present named rfl caseCode
  constructor
  · rw [(Pass.writtenAlone_of_complete rfl armComplete).1]
    simp only [Pass.text, Pass.layout, Dispatch.sheet_arm _ _ _ opcode armCode]
  · rw [(Pass.writtenAlone_of_complete rfl caseComplete).1]
    simp only [Pass.text, Pass.layout, Interpreter.sheet_case _ named caseBody]

/-- The arm of a call and its case bind the parameters to the same values, which are what the
parameters stand for. Both bind the reduction exactly when the record needs it, and both
go on with the code of the record, except that a separated record has another text for
the case. -/
theorem Call.parameters_bound_alike {Value : Type} {machine : Machine Value} {config : Config}
    {rules : RuleTable} {record : Record} (call : Call machine config rules record)
    (apart : record.NamesApart config) (duplicates : DuplicatePolicy) :
    call.BoundAlike ∧
    List.Forall₂
      (fun parameter cell =>
        Interpreter.scope machine config record call.onTrees parameter.name =
          machine.meaning? config call.template parameter cell)
      record.parameters call.cells ∧
    (reducerName ∈ Dispatch.bound config rules record ↔ record.needsReducef = true) ∧
    (reducerName ∈ Interpreter.bound config record ↔ record.needsReducef = true) ∧
    ∀ inst code body, record.requireInst = .ok inst → record.require .code = .ok code →
      record.require (if record.separated then .codeInterp else .code) = .ok body →
        (Pass.mk (some .dispatch) config duplicates rules).writtenAlone record =
            .ok (Row.renderAll config.indent
              (Dispatch.armRows config rules record ("Op" ++ inst) code)) ∧
          (Pass.mk (some .interpreter) config duplicates rules).writtenAlone record =
            .ok (Row.renderAll config.indent (Interpreter.caseRows config record inst body)) := by
  have caseBinds := call.case_binds apart
  refine ⟨?_, caseBinds, Dispatch.reducerName_mem_bound_iff rules apart,
    Interpreter.reducerName_mem_bound_iff apart, ?_⟩
  · obtain ⟨scope, matched, armBinds⟩ := call.arm_binds apart
    refine ⟨scope, matched, fun name declared => ?_⟩
    obtain ⟨parameter, member, rfl⟩ := List.mem_map.mp declared
    obtain ⟨index, inRange, rfl⟩ := List.mem_iff_getElem.mp member
    have inCells : index < call.cells.length := armBinds.length_eq ▸ inRange
    exact (armBinds.get inRange inCells).trans (caseBinds.get inRange inCells).symm
  · intro inst code body named armCode caseCode
    exact Pass.writtenAlone_primitive duplicates rules named armCode caseCode

namespace Term

/-- A template whose interpreter gives back the tree that it is given, and whose accessor of
whole numbers takes off their constructor. -/
def template (name : String) : Option Term :=
  if name = "interpret" then some .evaluator
  else if name = "get_int" then some (.selector "IntegerConstant")
  else some (.atom name)

def mixedRecord : Record where
  inst := some "Scale"
  parameters := [.value "x", .typed "n" "int", .typed "y" "ratio"]
  code := some "x"
  isPrimitive := true
  needsReducef := true

def mixedCall : Call machine {} .standard mixedRecord where
  template := template
  trees := [.atom "a", .constructed "IntegerConstant" (.atom "3"), .atom "c"]
  cells := [.atom "a", .constructed "IntegerConstant" (.atom "3"), .atom "c"]
  below := .atom "s"
  oneEach := rfl
  interpreted := by
    refine .cons ?_ (.cons ?_ (.cons ?_ .nil)) <;> rfl
  carried := by
    intro name tag constructor cell member found
    have either : (tag = "int" ∧ cell = .constructed "IntegerConstant" (.atom "3")) ∨
        tag = "ratio" := by
      simp [mixedRecord] at member
      tauto
    rcases either with ⟨rfl, rfl⟩ | rfl
    · obtain rfl : "IntegerConstant" = constructor := Option.some.inj found
      exact ⟨.atom "3", rfl⟩
    · cases found
  takenOff := by
    intro name tag constructor argument declared found
    have either : tag = "int" ∨ tag = "ratio" := by
      simp [mixedRecord] at declared
      tauto
    rcases either with rfl | rfl
    · obtain rfl : "IntegerConstant" = constructor := Option.some.inj found
      rfl
    · cases found

theorem mixedCall_bound_alike : mixedRecord.NamesApart {} ∧ mixedCall.BoundAlike := by
  have apart : mixedRecord.NamesApart {} :=
    { Record.namesDistinct_of_plain (by decide) (by decide) (by decide) with
      notReducer := by decide
      stackVisible := fun _ => Dispatch.ne_temporary (by decide) _
      accessorsVisible := fun accessor member =>
        ⟨(by decide : ∀ accessor ∈ mixedRecord.accessors {}, accessor ≠ "stack") accessor member,
          fun _ => Dispatch.ne_temporary ((by decide : ∀ accessor ∈ mixedRecord.accessors {},
            accessor.toList.head? ≠ some '_') accessor member) _⟩
      interpreterVisible := fun name member _ => Interpreter.ne_subterm
        ((by decide : ∀ name ∈ "interpret" :: "env" :: mixedRecord.accessors {},
          name.toList.head? ≠ some '_') name member) _ }
  exact ⟨apart, (mixedCall.parameters_bound_alike apart .warn).1⟩

/-- A record with a parameter that is named like the reduction, which hides it. -/
def hiddenRecord : Record where
  inst := some "Apply"
  parameters := [.value reducerName]
  code := some reducerName
  isPrimitive := true
  needsReducef := true

def hiddenCall : Call machine {} .standard hiddenRecord where
  template := template
  trees := [.atom "a"]
  cells := [.atom "a"]
  below := .atom "s"
  oneEach := rfl
  interpreted := .cons rfl .nil
  carried := by
    intro name tag constructor cell member
    simp [hiddenRecord] at member
  takenOff := by
    intro name tag constructor argument declared
    simp [hiddenRecord] at declared

/-- A configuration in which the accessor of a tag is named like a temporary, which hides
it. -/
def hidingConfig : Config := { accessorStem := "_tmp" }

def convertedRecord : Record where
  inst := some "Scale"
  parameters := [.typed "x" "0"]
  code := some "x"
  isPrimitive := true

def convertedCall : Call machine hidingConfig .standard convertedRecord where
  template := template
  trees := [.atom "a"]
  cells := [.atom "a"]
  below := .atom "s"
  oneEach := rfl
  interpreted := .cons rfl .nil
  carried := by
    intro name tag constructor cell member found
    obtain ⟨⟨rfl, rfl⟩, rfl⟩ : (name = "x" ∧ tag = "0") ∧ cell = .atom "a" := by
      simpa [convertedRecord] using member
    cases found
  takenOff := by
    intro name tag constructor argument declared found
    obtain ⟨rfl, rfl⟩ : name = "x" ∧ tag = "0" := by
      simpa [convertedRecord] using declared
    cases found

/-- It is not enough that parameters have names of their own: the reduction hides a parameter
of its name, and a temporary hides an accessor of its name. -/
theorem generated_names_hide :
    (Artifact.interpreter.selects hiddenRecord = true ∧ hiddenRecord.NamesDistinct {} ∧
      ¬ hiddenCall.BoundAlike) ∧
    (Artifact.interpreter.selects convertedRecord = true ∧
      convertedRecord.NamesDistinct hidingConfig ∧ ¬ convertedCall.BoundAlike) := by
  refine ⟨⟨rfl, Record.namesDistinct_of_plain (by decide) (by decide) (by decide), ?_⟩,
    rfl, Record.namesDistinct_of_plain (by decide) (by decide) (by decide), ?_⟩
  · rintro ⟨scope, matched, alike⟩
    have arm : (Dispatch.scope? machine {} .standard hiddenRecord hiddenCall.onStack).bind
        (fun scope => scope reducerName) =
          some (.applied (.atom "exec_application") (.atom "env")) := by
      decide
    have case : Interpreter.scope machine {} hiddenRecord hiddenCall.onTrees reducerName =
        some (.atom "reduce_beta_list") := by
      decide
    rw [matched, Option.bind_some, alike reducerName (by decide), case] at arm
    cases arm
  · rintro ⟨scope, matched, alike⟩
    have arm : (Dispatch.scope? machine hidingConfig .standard convertedRecord
        convertedCall.onStack).bind (fun scope => scope "x") =
          some (.applied (.atom "a") (.atom "a")) := by
      decide
    have case : Interpreter.scope machine hidingConfig convertedRecord convertedCall.onTrees "x" =
        some (.applied (.atom "_tmp0") (.atom "a")) := by
      decide
    rw [matched, Option.bind_some, alike "x" (by decide), case] at arm
    exact absurd arm (by decide)

end Term

end InstructionSet
