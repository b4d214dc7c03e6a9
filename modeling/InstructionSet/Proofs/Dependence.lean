import Mathlib.Data.Nat.Find
import InstructionSet.Proofs.Emission

/-!
# What an artifact depends on

An artifact reads some aspects of the records and some names of the configuration, and
nothing else. Two generations that agree on those write the same chunks and fail alike at the
same record, whatever the records and configurations hold besides. Only the places that a
failure cites may differ (`artifact_of_own_inputs`).
-/

set_option autoImplicit false

namespace InstructionSet

/-! ## What is read -/

inductive Aspect where
  | text (key : TextKey)
  | flag (flag : Flag)
  | parameters
  | arity
  | fields
  /-- The text that a case of the interpreter splices. -/
  | interpBody
deriving DecidableEq, Repr

def Record.Agrees (left right : Record) : Aspect → Prop
  | .text key => left.text? key = right.text? key
  | .flag flag => left.flag flag = right.flag flag
  | .parameters => left.parameters = right.parameters
  | .arity => left.arity = right.arity
  | .fields => left.fields = right.fields
  | .interpBody => left.text? left.interpKey = right.text? right.interpKey

instance (left right : Record) (aspect : Aspect) : Decidable (left.Agrees right aspect) :=
  match aspect with
  | .text _ | .flag _ | .parameters | .arity | .fields | .interpBody =>
      inferInstanceAs (Decidable (_ = _))

namespace Artifact

def aspects : Artifact → List Aspect
  | .dispatch =>
      [.text .inst, .parameters, .fields, .text .code, .flag .isPrimitive, .flag .needsReducef]
  | .opcodeType => [.text .inst, .fields, .flag .suppressPrinter, .text .customPrinter]
  | .interpreter =>
      [.text .inst, .parameters, .flag .isPrimitive, .flag .noInterp, .flag .needsReducef,
        .flag .separated, .interpBody]
  | .primitiveTable => [.text .inst, .text .name, .flag .isPrimitive, .text .type, .arity]
  | .nodeType | .lowering => [.text .inst, .flag .isPrimitive, .flag .noIrCode, .arity]

def configKeys : Artifact → List ConfigKey
  | .dispatch =>
      [.stack, .environment, .code, .dump, .vmExec, .result, .accessorStem, .vmReducef,
        .bugReporter, .indent]
  | .opcodeType => [.instructionType, .indent]
  | .interpreter => [.interpret, .environment, .accessorStem, .interpReducef, .indent]
  | .primitiveTable => [.indent]
  | .nodeType => [.astType, .indent]
  | .lowering => [.transformPrimitive, .environment, .indent]

/-- Two records are the same to an artifact. -/
def Alike (artifact : Artifact) (left right : Record) : Prop :=
  ∀ aspect ∈ artifact.aspects, left.Agrees right aspect

instance (artifact : Artifact) (left right : Record) : Decidable (artifact.Alike left right) :=
  inferInstanceAs (Decidable (∀ aspect ∈ artifact.aspects, left.Agrees right aspect))

/-- Two configurations are the same to an artifact. -/
def SameNames (artifact : Artifact) (config other : Config) : Prop :=
  ∀ key ∈ artifact.configKeys, config.get key = other.get key

instance (artifact : Artifact) (config other : Config) :
    Decidable (artifact.SameNames config other) :=
  inferInstanceAs (Decidable (∀ key ∈ artifact.configKeys, config.get key = other.get key))

end Artifact

/-! ## Failures without their places -/

/-- A failure without the places that it cites. -/
def Failure.unplaced : Failure → Failure
  | .diagnostic report =>
      let cause :=
        match report.cause with
        | .duplicate key value _ => .duplicate key value {}
        | cause => cause
      .diagnostic { report with cause, span := {} }
  | failure => failure

/-- Two results are the same, or they are failures that differ in their places alone. -/
def SameResult {α : Type} (first second : Except Failure α) : Prop :=
  (∃ value, first = .ok value ∧ second = .ok value) ∨
    ∃ failure other, first = .error failure ∧ second = .error other ∧
      other.unplaced = failure.unplaced

namespace Record

variable {left right : Record}

theorem requireInst_of_agrees (inst : left.inst = right.inst) :
    SameResult left.requireInst right.requireInst := by
  unfold requireInst
  rw [inst]
  cases right.inst with
  | none => exact .inr ⟨_, _, rfl, rfl, rfl⟩
  | some given =>
      by_cases empty : given.isEmpty = true
      · simp only [empty, if_true]
        exact .inr ⟨_, _, rfl, rfl, rfl⟩
      · simp only [empty, if_false, Bool.false_eq_true]
        exact .inl ⟨_, rfl, rfl⟩

theorem require_of_agrees {key : TextKey} (inst : left.inst = right.inst)
    (text : left.text? key = right.text? key) :
    SameResult (left.require key) (right.require key) := by
  unfold require
  rw [inst, text]
  cases right.text? key with
  | none => exact .inr ⟨_, _, rfl, rfl, rfl⟩
  | some text => exact .inl ⟨_, rfl, rfl⟩

end Record

namespace Artifact

variable {artifact : Artifact} {left right : Record} (alike : artifact.Alike left right)

include alike

theorem Alike.inst : left.inst = right.inst := by
  cases artifact <;> exact alike (.text .inst) List.mem_cons_self

theorem Alike.tracked? (key : TextKey) (unique : key ∈ artifact.uniqueKeys) :
    left.tracked? key = right.tracked? key := by
  have text : left.text? key = right.text? key := by
    cases artifact with
    | primitiveTable =>
        have either : key = .inst ∨ key = .name := by simpa [uniqueKeys] using unique
        rcases either with rfl | rfl
        · exact alike (.text .inst) (by decide)
        · exact alike (.text .name) (by decide)
    | dispatch | opcodeType | interpreter | nodeType | lowering =>
        obtain rfl : key = .inst := by simpa [uniqueKeys] using unique
        exact alike (.text .inst) (by decide)
  simp only [Record.tracked?, text]

theorem Alike.selects : artifact.selects left = artifact.selects right := by
  cases artifact with
  | dispatch | opcodeType => rfl
  | interpreter =>
      have primitive : left.isPrimitive = right.isPrimitive := alike (.flag .isPrimitive) (by decide)
      have hidden : left.noInterp = right.noInterp := alike (.flag .noInterp) (by decide)
      simp only [Artifact.selects, primitive, hidden]
  | primitiveTable =>
      have primitive : left.isPrimitive = right.isPrimitive := alike (.flag .isPrimitive) (by decide)
      simp only [Artifact.selects, primitive, alike.tracked? .name (by decide)]
  | nodeType | lowering =>
      have primitive : left.isPrimitive = right.isPrimitive := alike (.flag .isPrimitive) (by decide)
      have hidden : left.noIrCode = right.noIrCode := alike (.flag .noIrCode) (by decide)
      simp only [Artifact.selects, primitive, hidden]

theorem Alike.splicedKey? : artifact.splicedKey? left = artifact.splicedKey? right := by
  cases artifact with
  | interpreter =>
      have separated : left.separated = right.separated := alike (.flag .separated) (by decide)
      simp only [Artifact.splicedKey?, Record.interpKey, separated]
  | dispatch | opcodeType | primitiveTable | nodeType | lowering => rfl

theorem Alike.requireInst : SameResult left.requireInst right.requireInst :=
  Record.requireInst_of_agrees alike.inst

theorem Alike.require {key : TextKey} (spliced : artifact.splicedKey? left = some key) :
    SameResult (left.require key) (right.require key) := by
  refine Record.require_of_agrees alike.inst ?_
  cases artifact with
  | dispatch =>
      obtain rfl := Option.some.inj spliced
      exact alike (.text .code) (by decide)
  | interpreter =>
      obtain rfl := Option.some.inj spliced
      have key : some left.interpKey = some right.interpKey := alike.splicedKey?
      have body : left.text? left.interpKey = right.text? right.interpKey :=
        alike .interpBody (by decide)
      rw [body, Option.some.inj key]
  | primitiveTable =>
      obtain rfl := Option.some.inj spliced
      exact alike (.text .type) (by decide)
  | opcodeType | nodeType | lowering => cases spliced

theorem Alike.lacks? :
    (artifact.lacks? right).map Failure.unplaced = (artifact.lacks? left).map Failure.unplaced := by
  unfold Artifact.lacks?
  rw [← alike.splicedKey?]
  rcases alike.requireInst with ⟨inst, here, there⟩ | ⟨failure, other, here, there, same⟩
  · rw [here, there]
    cases spliced : artifact.splicedKey? left with
    | none => rfl
    | some key =>
        simp only
        rcases alike.require spliced with ⟨text, here, there⟩ | ⟨failure, other, here, there, same⟩
        · rw [here, there]
        · rw [here, there, Option.map_some, Option.map_some, same]
  · rw [here, there, Option.map_some, Option.map_some, same]

/-- What a record does not lack, one that is alike has too. -/
theorem Alike.present (complete : artifact.lacks? left = none) :
    (∃ inst, left.nodeName = .ok inst ∧ right.nodeName = .ok inst) ∧
      ∀ key, artifact.splicedKey? left = some key →
        ∃ text, left.require key = .ok text ∧ right.require key = .ok text := by
  obtain ⟨⟨inst, node, -⟩, spliced⟩ := Artifact.present_of_lacks? complete
  constructor
  · rcases alike.requireInst with named | ⟨failure, other, here, -, -⟩
    · exact named
    · cases here.symm.trans node
  · intro key found
    rcases alike.require found with present | ⟨failure, other, here, -, -⟩
    · exact present
    · obtain ⟨text, present⟩ := spliced key found
      cases here.symm.trans present

end Artifact

/-! ## Rows -/

section Rows

variable {config other : Config} {left right : Record}

theorem Dispatch.destructureFrom_congr (accessors : config.accessorStem = other.accessorStem)
    (rules : RuleTable) (used : Nat) (parameters : List Parameter) :
    destructureFrom config rules used parameters = destructureFrom other rules used parameters := by
  induction parameters generalizing used with
  | nil => rfl
  | cons parameter rest ih =>
      cases parameter with
      | value name => simp only [destructureFrom, ih]
      | typed name tag =>
          simp only [destructureFrom, ih, Config.accessor, accessors]

theorem Dispatch.armRows_congr (names : Artifact.dispatch.SameNames config other)
    (alike : Artifact.dispatch.Alike left right) (rules : RuleTable) (opcode code : String) :
    armRows config rules left opcode code = armRows other rules right opcode code := by
  simp only [Artifact.SameNames, Artifact.configKeys, List.forall_mem_cons, Config.get] at names
  simp only [Artifact.Alike, Artifact.aspects, List.forall_mem_cons, Record.Agrees,
    Record.flag] at alike
  have parts : destructure config rules left = destructure other rules right := by
    rw [destructure, destructure, alike.2.1]
    exact destructureFrom_congr (by simp only [names]) rules 0 _
  simp only [armRows, bindings, openingRows, patternLine, bodyRows, mismatchRows, reduction,
    Record.reducer?, parts, names, alike]

theorem OpcodeType.rows_congr (alike : Artifact.opcodeType.Alike left right) (opcode : String) :
    declaration opcode left.fields = declaration opcode right.fields ∧
      printerRows left opcode = printerRows right opcode := by
  simp only [Artifact.Alike, Artifact.aspects, List.forall_mem_cons, Record.Agrees,
    Record.flag, Record.text?] at alike
  simp only [printerRows, alike, and_self]

theorem Interpreter.parameterBindings_congr (names : Artifact.interpreter.SameNames config other)
    (parameters : List Parameter) :
    parameterBindings config parameters = parameterBindings other parameters := by
  simp only [Artifact.SameNames, Artifact.configKeys, List.forall_mem_cons, Config.get] at names
  have values : valueBinding? config = valueBinding? other := by
    funext matched
    unfold valueBinding?
    simp only [interpreted, names]
  have typed : typedBinding? config = typedBinding? other := by
    funext matched
    unfold typedBinding?
    simp only [interpreted, Config.accessor, names]
  simp only [parameterBindings, values, typed]

theorem Interpreter.caseRows_congr (names : Artifact.interpreter.SameNames config other)
    (alike : Artifact.interpreter.Alike left right) (node body : String) :
    caseRows config left node body = caseRows other right node body := by
  have parameterNames := parameterBindings_congr names right.parameters
  simp only [Artifact.SameNames, Artifact.configKeys, List.forall_mem_cons, Config.get] at names
  simp only [Artifact.Alike, Artifact.aspects, List.forall_mem_cons, Record.Agrees,
    Record.flag] at alike
  simp only [caseRows, bindings, reduction, Record.reducer?, Record.arity, parameterNames, names,
    alike]

theorem PrimitiveTable.entryRows_congr (alike : Artifact.primitiveTable.Alike left right)
    (node signature : String) :
    entryRows left node signature = entryRows right node signature := by
  simp only [Artifact.Alike, Artifact.aspects, List.forall_mem_cons, Record.Agrees,
    Record.text?] at alike
  simp only [entryRows, publicName, alike]

theorem NodeType.declaration_congr (names : Artifact.nodeType.SameNames config other)
    (alike : Artifact.nodeType.Alike left right) (node : String) :
    declaration config node left.arity = declaration other node right.arity := by
  have type : config.astType = other.astType := names .astType (by decide)
  have arity : left.arity = right.arity := alike .arity (by decide)
  simp only [declaration, type, arity]

theorem Lowering.rows_congr (names : Artifact.lowering.SameNames config other)
    (alike : Artifact.lowering.Alike left right) (opcode : String) :
    left.arity = right.arity ∧
      transformLine config opcode left.arity = transformLine other opcode right.arity := by
  have arity : left.arity = right.arity := alike .arity (by decide)
  simp only [Artifact.SameNames, Artifact.configKeys, List.forall_mem_cons, Config.get] at names
  simp only [transformLine, arity, names, and_self]

theorem Pass.text_of_alike {artifact : Artifact} (names : artifact.SameNames config other)
    (alike : artifact.Alike left right) (complete : artifact.lacks? left = none)
    (duplicates : DuplicatePolicy) (rules : RuleTable) :
    (Pass.mk (some artifact) other duplicates rules).text right =
      (Pass.mk (some artifact) config duplicates rules).text left := by
  have unit : config.indent = other.indent := by
    cases artifact <;> exact names .indent (by decide)
  obtain ⟨⟨inst, node, nodeAlso⟩, spliced⟩ := alike.present complete
  have opcode := Record.opcodeName_of_requireInst node
  have opcodeAlso := Record.opcodeName_of_requireInst nodeAlso
  unfold Pass.text
  rw [unit]
  refine congrArg (Row.renderAll other.indent) ?_
  cases artifact with
  | dispatch =>
      obtain ⟨code, present, presentAlso⟩ := spliced .code rfl
      simp only [Pass.layout, Dispatch.sheet_arm _ _ _ opcode present,
        Dispatch.sheet_arm _ _ _ opcodeAlso presentAlso, Dispatch.armRows_congr names alike]
  | opcodeType =>
      obtain ⟨declaration, printer⟩ := OpcodeType.rows_congr alike ("Op" ++ inst)
      simp only [Pass.layout, OpcodeType.sheet_variant opcode, OpcodeType.sheet_variant opcodeAlso,
        declaration, printer]
  | interpreter =>
      obtain ⟨body, present, presentAlso⟩ := spliced left.interpKey rfl
      have sameKey : some left.interpKey = some right.interpKey := alike.splicedKey?
      have caseBody : right.interpBody = .ok body := by
        rw [Record.interpBody, ← Option.some.inj sameKey]
        exact presentAlso
      simp only [Pass.layout, Interpreter.sheet_case _ node present,
        Interpreter.sheet_case _ nodeAlso caseBody, Interpreter.caseRows_congr names alike]
  | primitiveTable =>
      obtain ⟨signature, present, presentAlso⟩ := spliced .type rfl
      simp only [Pass.layout, PrimitiveTable.sheet_entry node present,
        PrimitiveTable.sheet_entry nodeAlso presentAlso, PrimitiveTable.entryRows_congr alike]
  | nodeType =>
      simp only [Pass.layout, NodeType.sheet_variant _ node, NodeType.sheet_variant _ nodeAlso,
        NodeType.declaration_congr names alike]
  | lowering =>
      obtain ⟨arity, line⟩ := Lowering.rows_congr names alike ("Op" ++ inst)
      simp only [Pass.layout, Lowering.sheet_case _ node opcode,
        Lowering.sheet_case _ nodeAlso opcodeAlso, ← line, arity]

end Rows

/-! ## Admission -/

theorem find?_isSome_of_forall₂ {α : Type} {same : α → α → Prop} {p : α → Bool}
    (alike : ∀ first second, same first second → p first = p second) {records others : List α}
    (related : List.Forall₂ same records others) :
    (others.find? p).isSome = (records.find? p).isSome := by
  induction related with
  | nil => rfl
  | @cons first second _ _ here _ ih =>
      simp only [List.find?_cons, alike first second here]
      cases p second <;> simp [ih]

section Admission

variable {artifact : Artifact} {earlier others : List Record} {left right : Record}
variable (before : List.Forall₂ artifact.Alike earlier others) (alike : artifact.Alike left right)

include before alike

theorem DuplicatePolicy.refusal?_of_alike (policy : DuplicatePolicy) (key : TextKey)
    (unique : key ∈ artifact.uniqueKeys) :
    (policy.refusal? key others right).map Failure.unplaced =
      (policy.refusal? key earlier left).map Failure.unplaced := by
  unfold DuplicatePolicy.refusal?
  rw [alike.tracked? key unique]
  split
  · cases right.tracked? key with
    | none => rfl
    | some value =>
        have found := find?_isSome_of_forall₂
          (p := fun first : Record => first.tracked? key == some value)
          (fun _ _ same => by rw [same.tracked? key unique]) before
        simp only [Option.bind_some, Option.map_map]
        cases here : earlier.find? fun first => first.tracked? key == some value <;>
          cases there : others.find? fun first => first.tracked? key == some value <;>
          rw [here, there] at found <;> first | cases found; done | rfl
  · rfl

theorem Artifact.stop?_of_alike (policy : DuplicatePolicy) :
    (artifact.stop? policy others right).map Failure.unplaced =
      (artifact.stop? policy earlier left).map Failure.unplaced := by
  have refused := Guard.map_ofKeys_congr fun key unique =>
    policy.refusal?_of_alike before alike key unique
  simp only [stop?, Guard.orElse, Option.map_or, refused, alike.lacks?]

end Admission

/-! ## Where a pass fails -/

namespace Pass

/-- The failure of a pass at one of the records: the pass over the records before it does not
fail, but with this one it does. -/
def failureAt? (pass : Pass) (records : List Record) (index : Nat) : Option Failure :=
  match (pass.emit (Record.inOrder (records.take index))).failure? with
  | some _ => none
  | none => (pass.emit (Record.inOrder (records.take (index + 1)))).failure?

variable {pass : Pass} {artifact : Artifact} (writes : pass.artifact = some artifact)

include writes

/-- A failure at some of the records ends the pass, whatever records follow. -/
theorem failure?_emit_of_take {records : List Record} {count : Nat} {failure : Failure}
    (failed : (pass.emit (Record.inOrder (records.take count))).failure? = some failure) :
    (pass.emit (Record.inOrder records)).failure? = some failure := by
  rw [failure?_emit_inOrder writes] at failed ⊢
  rw [← List.take_append_drop count records, List.filter_append,
    Guard.accept_append_of_stopped _ _ failed]
  exact failed

/-- A pass that fails does so at one of the records. -/
theorem failure?_emit_iff_failureAt? (records : List Record) (failure : Failure) :
    (pass.emit (Record.inOrder records)).failure? = some failure ↔
      ∃ index, pass.failureAt? records index = some failure := by
  constructor
  · intro failed
    have fails : ∃ count, (pass.emit (Record.inOrder (records.take count))).failure? ≠ none := by
      refine ⟨records.length, ?_⟩
      rw [List.take_length, failed]
      exact Option.some_ne_none failure
    -- The least number of records with which the pass fails ends with the record it fails at.
    cases least : Nat.find fails with
    | zero =>
        have failsAtOnce := Nat.find_spec fails
        rw [least, failure?_emit_inOrder writes] at failsAtOnce
        exact absurd rfl failsAtOnce
    | succ index =>
        have before : index < Nat.find fails := by
          rw [least]
          exact Nat.lt_succ_self index
        have fine := not_not.mp (Nat.find_min fails before)
        obtain ⟨found, ends⟩ := Option.ne_none_iff_exists'.mp (least ▸ Nat.find_spec fails)
        refine ⟨index, ?_⟩
        have same := (failure?_emit_of_take writes ends).symm.trans failed
        simp only [failureAt?, fine, ends, same]
  · rintro ⟨index, failed⟩
    unfold failureAt? at failed
    split at failed
    · cases failed
    · exact failure?_emit_of_take writes failed

end Pass

section Generations

variable {artifact : Artifact} {config other : Config} (names : artifact.SameNames config other)
variable (duplicates : DuplicatePolicy) (rules : RuleTable)

include names

theorem Pass.chunkAlone_congr (layout : Layout) :
    (Pass.mk (some artifact) other duplicates rules).chunkAlone layout =
      (Pass.mk (some artifact) config duplicates rules).chunkAlone layout := by
  have unit : config.indent = other.indent := by
    cases artifact <;> exact names .indent (by decide)
  have printer : (Pass.mk (some artifact) other duplicates rules).printer =
      (Pass.mk (some artifact) config duplicates rules).printer := by
    simp only [Pass.printer, unit]
  unfold chunkAlone
  rw [printer]

theorem Pass.front_congr :
    (Pass.mk (some artifact) other duplicates rules).front =
      (Pass.mk (some artifact) config duplicates rules).front := by
  rw [front, chunkAlone_congr names, front]
  refine congrArg _ ?_
  cases artifact with
  | opcodeType =>
      have type : config.instructionType = other.instructionType :=
        names .instructionType (by decide)
      simp only [prologue, OpcodeType.head, type]
  | dispatch | interpreter | primitiveTable | nodeType | lowering => rfl

theorem Pass.back_congr :
    (Pass.mk (some artifact) other duplicates rules).back =
      (Pass.mk (some artifact) config duplicates rules).back := by
  rw [back, chunkAlone_congr names, back]
  cases artifact <;> rfl

variable {records others : List Record} (alike : List.Forall₂ artifact.Alike records others)

include alike

theorem Pass.map_text_of_alike (complete : ∀ record ∈ records, artifact.lacks? record = none) :
    others.map (Pass.mk (some artifact) other duplicates rules).text =
      records.map (Pass.mk (some artifact) config duplicates rules).text := by
  induction alike with
  | nil => rfl
  | @cons left right _ _ here _ ih =>
      obtain ⟨completeHere, completeBehind⟩ := List.forall_mem_cons.mp complete
      rw [List.map_cons, List.map_cons, text_of_alike names here completeHere, ih completeBehind]

theorem Pass.emit_of_alike :
    let pass : Pass := { artifact := some artifact, config, duplicates, rules }
    let otherPass : Pass := { artifact := some artifact, config := other, duplicates, rules }
    (otherPass.emit (Record.inOrder others)).items = (pass.emit (Record.inOrder records)).items ∧
    (otherPass.emit (Record.inOrder others)).failure?.map Failure.unplaced =
      (pass.emit (Record.inOrder records)).failure?.map Failure.unplaced := by
  intro pass otherPass
  have selected : List.Forall₂ artifact.Alike (records.filter artifact.selects)
      (others.filter artifact.selects) :=
    List.rel_filter (fun _ _ same => iff_of_eq (congrArg (· = true) same.selects)) alike
  have stops {earlier before : List Record} {left right : Record}
      (front : List.Forall₂ artifact.Alike earlier before) (same : artifact.Alike left right) :
      (artifact.stop? duplicates before right).map Failure.unplaced =
        (artifact.stop? duplicates earlier left).map Failure.unplaced :=
    Artifact.stop?_of_alike front same duplicates
  obtain ⟨accepted, ends⟩ := Guard.accept_forall₂ stops (Eq.refl (Option.map _ none)) .nil selected
  have failure : (pass.emit (Record.inOrder records)).failure? = _ :=
    failure?_emit_inOrder rfl records
  have otherFailure : (otherPass.emit (Record.inOrder others)).failure? = _ :=
    failure?_emit_inOrder rfl others
  have sameFailure : (otherPass.emit (Record.inOrder others)).failure?.map Failure.unplaced =
      (pass.emit (Record.inOrder records)).failure?.map Failure.unplaced := by
    rw [failure, otherFailure]
    exact ends
  refine ⟨?_, sameFailure⟩
  have items : (pass.emit (Record.inOrder records)).items = _ := items_emit rfl _
  have otherItems : (otherPass.emit (Record.inOrder others)).items = _ := items_emit rfl _
  rw [(Record.content_inOrder _).1, (Record.content_inOrder _).2] at items otherItems
  have front : otherPass.front = pass.front := front_congr names duplicates rules
  have texts := map_text_of_alike names duplicates rules accepted
    fun _ member => Artifact.complete_of_mem_accept member
  have closing : otherPass.closing (otherPass.emit (Record.inOrder others)).failure? =
      pass.closing (pass.emit (Record.inOrder records)).failure? := by
    cases here : (pass.emit (Record.inOrder records)).failure? with
    | none =>
        rw [here, Option.map_none, Option.map_eq_none_iff] at sameFailure
        rw [sameFailure]
        exact back_congr names duplicates rules
    | some found =>
        rw [here] at sameFailure
        obtain ⟨otherFound, there, -⟩ := Option.map_eq_some_iff.mp sameFailure
        rw [there]
        rfl
  rw [items, otherItems, front, closing]
  exact congrArg (fun texts => pass.front ++ texts ++ _) texts

end Generations

/-- Generations of an artifact that agree on the aspects of the records and the names of the
configuration that it reads write the same chunks. If they fail, they do so at the same record,
and the failures are the same except for the places that they cite. -/
theorem artifact_of_own_inputs (artifact : Artifact) (duplicates : DuplicatePolicy)
    (rules : RuleTable) {config other : Config} (names : artifact.SameNames config other)
    {records others : List Record} (alike : List.Forall₂ artifact.Alike records others) :
    let pass : Pass := { artifact := some artifact, config, duplicates, rules }
    let otherPass : Pass := { artifact := some artifact, config := other, duplicates, rules }
    (otherPass.emit (Record.inOrder others)).items = (pass.emit (Record.inOrder records)).items ∧
    (otherPass.emit (Record.inOrder others)).failure?.map Failure.unplaced =
      (pass.emit (Record.inOrder records)).failure?.map Failure.unplaced ∧
    (∀ failure, (pass.emit (Record.inOrder records)).failure? = some failure ↔
      ∃ index, pass.failureAt? records index = some failure) ∧
    ∀ index, (otherPass.failureAt? others index).map Failure.unplaced =
      (pass.failureAt? records index).map Failure.unplaced := by
  intro pass otherPass
  obtain ⟨items, failure⟩ := Pass.emit_of_alike names duplicates rules alike
  refine ⟨items, failure, Pass.failure?_emit_iff_failureAt? rfl records, fun index => ?_⟩
  have upTo (count : Nat) :
      (otherPass.emit (Record.inOrder (others.take count))).failure?.map Failure.unplaced =
        (pass.emit (Record.inOrder (records.take count))).failure?.map Failure.unplaced :=
    (Pass.emit_of_alike names duplicates rules (List.forall₂_take count alike)).2
  have before := upTo index
  unfold Pass.failureAt?
  cases here : (pass.emit (Record.inOrder (records.take index))).failure? with
  | none =>
      rw [here, Option.map_none, Option.map_eq_none_iff] at before
      simp only [before]
      exact upTo (index + 1)
  | some found =>
      rw [here] at before
      obtain ⟨otherFound, there, -⟩ := Option.map_eq_some_iff.mp before
      simp only [there]

/-! ## Two tables of primitives -/

def doubledRecords : List Record :=
  [{ inst := some "Add", name := some "+", parameters := [.value "x", .value "y"]
     type := some "int", isPrimitive := true, span := { file := "a" } },
    { inst := some "Add", name := some "plus", type := some "int", isPrimitive := true
      span := { file := "b" } }]

/-- The same to a table of primitives: parameters of other names and other places, code that no
entry shows. -/
def rewordedRecords : List Record :=
  [{ inst := some "Add", name := some "+", parameters := [.typed "n" "int", .value "z"]
     type := some "int", code := some "n + z", isPrimitive := true, noInterp := true
     span := { file := "c" } },
    { inst := some "Add", name := some "plus", type := some "int", isPrimitive := true
      separated := true, span := { file := "d" } }]

theorem artifact_of_own_inputs_doubled :
    let other : Config := { stack := "s", astType := "tree" }
    let pass : Pass := { artifact := some .primitiveTable, duplicates := .reject }
    let otherPass : Pass :=
      { artifact := some .primitiveTable, config := other, duplicates := .reject }
    Artifact.primitiveTable.SameNames {} other ∧
    List.Forall₂ Artifact.primitiveTable.Alike doubledRecords rewordedRecords ∧
    (otherPass.emit (Record.inOrder rewordedRecords)).items =
      ["        (\x22+\x22,\n          begin\n            int\n          end,\n" ++
        "          lambda2 (fun _v1 _v2 -> Add(_v1, _v2))\n        );\n"] ∧
    (pass.failureAt? doubledRecords 1) =
      some (.ofCause { file := "b" } (.duplicate "inst" "Add" { file := "a" })) ∧
    (otherPass.failureAt? rewordedRecords 1).map Failure.unplaced =
      some (.ofCause {} (.duplicate "inst" "Add" {})) := by
  intro other pass otherPass
  have names : Artifact.primitiveTable.SameNames {} other := by decide
  have alike : List.Forall₂ Artifact.primitiveTable.Alike doubledRecords rewordedRecords :=
    .cons (by decide) (.cons (by decide) .nil)
  obtain ⟨items, -, -, failure⟩ :=
    artifact_of_own_inputs .primitiveTable .reject .standard names alike
  have failed : pass.failureAt? doubledRecords 1 =
      some (.ofCause { file := "b" } (.duplicate "inst" "Add" { file := "a" })) := by
    decide +kernel
  refine ⟨names, alike, items.trans (by decide +kernel), failed, (failure 1).trans ?_⟩
  exact congrArg (Option.map Failure.unplaced) failed

end InstructionSet
