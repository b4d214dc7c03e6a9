import InstructionSet.Proofs.Record.Repetitions

/-!
# Obstacles

What can keep an artifact from being generated, in the order in which it is noticed at a record:
identifiers that repeat those of earlier records, a missing identifier, a missing fragment. A
generation fails exactly if a record that concerns the artifact has such an obstacle, and then with
the first obstacle of the first such record (`generate_eq_error_iff`).
-/

set_option autoImplicit false

namespace InstructionSet

inductive Obstacle where
  | repeatedInst
  | repeatedName
  | noInst
  | noFragment
deriving DecidableEq, Repr

def Obstacle.inOrder : List Obstacle := [repeatedInst, repeatedName, noInst, noFragment]

theorem Record.untracked_iff (record : Record) (key : TextKey) :
    record.tracked? key = none ↔ record.text? key = none ∨ record.text? key = some "" := by
  cases said : record.text? key with
  | none => simp [tracked?, said]
  | some text => simp [tracked?, said, Option.filter_eq_none_iff]

theorem Record.requireInst_eq (record : Record) :
    record.requireInst = match record.tracked? .inst with
      | none => .error (.ofCause record.span .missingInst)
      | some inst => .ok inst := by
  unfold requireInst tracked?
  cases said : record.inst with
  | none => simp [text?, said]
  | some inst => by_cases empty : inst = "" <;> simp [text?, said, empty, Option.filter_some]

namespace Artifact

/-- What is in the way of generating an artifact at a record that comes after others, and what is
reported of it. A fragment that is empty is not missing. -/
inductive Obstructs (artifact : Artifact) (duplicates : DuplicatePolicy) (before : List Record)
    (record : Record) : Obstacle → Cause → Prop where
  | repeatedInst {value : String} {first : Record} : duplicates = .reject →
      Record.Repeats .inst before record value first →
      Obstructs artifact duplicates before record .repeatedInst (.duplicate "inst" value first.span)
  | repeatedName {value : String} {first : Record} : duplicates = .reject →
      artifact = .primitiveTable → Record.Repeats .name before record value first →
      Obstructs artifact duplicates before record .repeatedName (.duplicate "name" value first.span)
  | noInst : record.inst = none ∨ record.inst = some "" →
      Obstructs artifact duplicates before record .noInst .missingInst
  | noFragment {key : TextKey} : artifact.splicedKey? record = some key →
      record.text? key = none →
      Obstructs artifact duplicates before record .noFragment
        (.missingField key.spelling (record.inst.getD ""))

variable (artifact : Artifact) (duplicates : DuplicatePolicy) (before : List Record)
variable (record : Record)

/-- What is reported of an obstacle if it is there. -/
def obstruction? : Obstacle → Option Cause
  | .repeatedInst =>
      if duplicates = .reject then
        (record.repeated? .inst before).map fun cited => .duplicate "inst" cited.1 cited.2.span
      else none
  | .repeatedName =>
      if duplicates = .reject ∧ artifact = .primitiveTable then
        (record.repeated? .name before).map fun cited => .duplicate "name" cited.1 cited.2.span
      else none
  | .noInst => if record.tracked? .inst = none then some .missingInst else none
  | .noFragment =>
      (artifact.splicedKey? record).bind fun key =>
        if record.text? key = none then
          some (.missingField key.spelling (record.inst.getD ""))
        else none

theorem obstruction?_eq_some_iff (obstacle : Obstacle) (cause : Cause) :
    artifact.obstruction? duplicates before record obstacle = some cause ↔
      artifact.Obstructs duplicates before record obstacle cause := by
  cases obstacle with
  | repeatedInst =>
      simp only [obstruction?, Option.ite_none_right_eq_some, Option.map_eq_some_iff, Prod.exists,
        Record.repeated?_eq_some_iff]
      constructor
      · rintro ⟨refuses, value, first, repeats, rfl⟩
        exact .repeatedInst refuses repeats
      · intro obstructs
        cases obstructs with
        | repeatedInst refuses repeats => exact ⟨refuses, _, _, repeats, rfl⟩
  | repeatedName =>
      simp only [obstruction?, Option.ite_none_right_eq_some, Option.map_eq_some_iff, Prod.exists,
        Record.repeated?_eq_some_iff]
      constructor
      · rintro ⟨⟨refuses, tables⟩, value, first, repeats, rfl⟩
        exact .repeatedName refuses tables repeats
      · intro obstructs
        cases obstructs with
        | repeatedName refuses tables repeats => exact ⟨⟨refuses, tables⟩, _, _, repeats, rfl⟩
  | noInst =>
      simp only [obstruction?, Option.ite_none_right_eq_some, Option.some.injEq,
        Record.untracked_iff]
      constructor
      · rintro ⟨missing, rfl⟩
        exact .noInst missing
      · intro obstructs
        cases obstructs with
        | noInst missing => exact ⟨missing, rfl⟩
  | noFragment =>
      simp only [obstruction?, Option.bind_eq_some_iff, Option.ite_none_right_eq_some,
        Option.some.injEq]
      constructor
      · rintro ⟨key, spliced, missing, rfl⟩
        exact .noFragment spliced missing
      · intro obstructs
        cases obstructs with
        | noFragment spliced missing => exact ⟨_, spliced, missing, rfl⟩

theorem refusal?_eq_obstruction? :
    Guard.ofKeys duplicates.refusal? artifact.uniqueKeys before record =
      ((artifact.obstruction? duplicates before record .repeatedInst).or
        (artifact.obstruction? duplicates before record .repeatedName)).map
          (Failure.ofCause record.span) := by
  by_cases refuses : duplicates = .reject
  · subst refuses
    cases artifact <;>
      simp [uniqueKeys, Guard.ofKeys, findSome?_cons_eq_or, obstruction?, Option.map_or,
        Function.comp_def, DuplicatePolicy.refusal?_reject, TextKey.property]
  · rw [DuplicatePolicy.ofKeys_refusal?_of_kept refuses]
    simp [obstruction?, refuses, Guard.open_]

theorem lacks?_eq_obstruction? :
    artifact.lacks? record =
      ((artifact.obstruction? duplicates before record .noInst).or
        (artifact.obstruction? duplicates before record .noFragment)).map
          (Failure.ofCause record.span) := by
  rw [lacks?, Record.requireInst_eq]
  cases identified : record.tracked? .inst with
  | none => simp [obstruction?, identified]
  | some inst =>
      simp only [obstruction?, identified, reduceCtorEq, if_false, Option.none_or]
      cases artifact.splicedKey? record with
      | none => rfl
      | some key => cases said : record.text? key <;> simp [Record.require, said]

/-- A generation is stopped at a record by the first obstacle that is there. -/
theorem stop?_eq_findSome? :
    artifact.stop? duplicates before record =
      (Obstacle.inOrder.findSome? (artifact.obstruction? duplicates before record)).map
        (Failure.ofCause record.span) := by
  simp only [stop?, Guard.orElse, refusal?_eq_obstruction?,
    lacks?_eq_obstruction? artifact duplicates before, ← Option.map_or, Obstacle.inOrder,
    findSome?_cons_eq_or, List.findSome?_nil, Option.or_none, Option.or_assoc]

variable {artifact} {duplicates} {before} {record}

theorem stop?_eq_some_iff (failure : Failure) :
    artifact.stop? duplicates before record = some failure ↔
      ∃ obstacle cause, Foremost (artifact.Obstructs duplicates before record) Obstacle.inOrder
        obstacle cause ∧ failure = .ofCause record.span cause := by
  have finds := artifact.obstruction?_eq_some_iff duplicates before record
  rw [stop?_eq_findSome?, Option.map_eq_some_iff]
  simp only [findSome?_eq_some_iff_foremost finds]
  constructor
  · rintro ⟨cause, ⟨obstacle, foremost⟩, rfl⟩
    exact ⟨obstacle, cause, foremost, rfl⟩
  · rintro ⟨obstacle, cause, foremost, rfl⟩
    exact ⟨cause, ⟨obstacle, foremost⟩, rfl⟩

theorem stop?_eq_none_iff :
    artifact.stop? duplicates before record = none ↔
      ∀ obstacle cause, ¬artifact.Obstructs duplicates before record obstacle cause := by
  have finds := artifact.obstruction?_eq_some_iff duplicates before record
  rw [stop?_eq_findSome?, Option.map_eq_none_iff, findSome?_eq_none_iff_unrelated finds]
  refine ⟨fun unobstructed obstacle => unobstructed obstacle ?_, fun unobstructed obstacle _ =>
    unobstructed obstacle⟩
  cases obstacle <;> decide

end Artifact

theorem Record.filter_inOrder (p : Record → Bool) (records : List Record) :
    (inOrder records).filter p = inOrder (records.filter p) := by
  induction records with
  | nil => rfl
  | cons record records ih =>
      have next : inOrder (record :: records) = .item record (inOrder records) := rfl
      by_cases kept : p record = true
      · rw [next, Trace.filter, if_pos kept, List.filter_cons_of_pos kept, ih]
        rfl
      · rw [next, Trace.filter, if_neg kept, List.filter_cons_of_neg kept, ih]

/-- Records that do not concern an artifact make no difference to a pass. -/
theorem Pass.emit_filter {pass : Pass} {artifact : Artifact} (writes : pass.artifact = some artifact)
    (records : List Record) :
    pass.emit (Record.inOrder (records.filter artifact.selects)) =
      pass.emit (Record.inOrder records) := by
  have checked : pass.checked (Record.inOrder (records.filter artifact.selects)) =
      pass.checked (Record.inOrder records) := by
    rw [Pass.checked, Pass.checked, selects_eq writes, Record.filter_inOrder, Record.filter_inOrder,
      List.filter_filter]
    simp only [Bool.and_self]
  unfold emit emitWith
  rw [checked]

theorem generate_eq_error_iff_failure? (pass : Pass) (records : Trace Record) (failure : Failure) :
    generate pass records = .error failure ↔ (pass.emit records).failure? = some failure := by
  unfold generate
  cases ended : (pass.emit records).failure? <;> simp [ended]

/-- A generation fails exactly if a record that concerns the artifact has an obstacle. The failure
is the first obstacle of the first such record, at the place of the record. Other records do not
matter, whatever they lack. -/
theorem generate_eq_error_iff (artifact : Artifact) (config : Config) (duplicates : DuplicatePolicy)
    (rules : RuleTable) (records : List Record) :
    let pass : Pass := { artifact := some artifact, config, duplicates, rules }
    let selected := records.filter artifact.selects
    ((∃ failure, generate pass (Record.inOrder records) = .error failure) ↔
      ∃ before record after obstacle cause, selected = before ++ record :: after ∧
        artifact.Obstructs duplicates before record obstacle cause) ∧
    (∀ failure, generate pass (Record.inOrder records) = .error failure ↔
      ∃ before record after obstacle cause, selected = before ++ record :: after ∧
        (∀ front other behind, before = front ++ other :: behind →
          ∀ obstacle cause, ¬artifact.Obstructs duplicates front other obstacle cause) ∧
        Foremost (artifact.Obstructs duplicates before record) Obstacle.inOrder obstacle cause ∧
        failure = .ofCause record.span cause) ∧
    pass.emit (Record.inOrder selected) = pass.emit (Record.inOrder records) := by
  intro pass selected
  have fails (failure : Failure) : generate pass (Record.inOrder records) = .error failure ↔
      ((artifact.stop? duplicates).accept none [] selected).2 = some failure := by
    have ends : (pass.emit (Record.inOrder records)).failure? = _ :=
      Pass.failure?_emit_inOrder rfl records
    rw [generate_eq_error_iff_failure?, ends]
  have unselected : pass.emit (Record.inOrder selected) = pass.emit (Record.inOrder records) :=
    Pass.emit_filter rfl records
  refine ⟨?_, fun failure => ?_, unselected⟩
  · simp only [fails, ← Option.ne_none_iff_exists', ne_eq, Guard.accept_eq_none_iff,
      List.nil_append, Artifact.stop?_eq_none_iff]
    push Not
    simp only [exists_and_left]
  · simp only [fails, Guard.accept_eq_some_iff, List.nil_append, Artifact.stop?_eq_none_iff,
      Artifact.stop?_eq_some_iff]
    constructor
    · rintro ⟨before, record, after, split, unobstructed, obstacle, cause, foremost, rfl⟩
      exact ⟨before, record, after, obstacle, cause, split, unobstructed, foremost, rfl⟩
    · rintro ⟨before, record, after, obstacle, cause, split, unobstructed, foremost, rfl⟩
      exact ⟨before, record, after, split, unobstructed, obstacle, cause, foremost, rfl⟩

end InstructionSet
