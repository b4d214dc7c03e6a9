import InstructionSet.Proofs.Emission

/-!
# Places of records

A record says where it stands, and only failures and notes tell of it. Streams of records that
differ in their places alone are written alike.
-/

set_option autoImplicit false

namespace InstructionSet

namespace Record

/-- A record without the place where it stands. -/
def unplaced (record : Record) : Record := { record with span := {} }

theorem text?_unplaced (record : Record) (key : TextKey) :
    record.unplaced.text? key = record.text? key := by
  cases key <;> rfl

theorem tracked?_unplaced (record : Record) (key : TextKey) :
    record.unplaced.tracked? key = record.tracked? key := by
  rw [tracked?, tracked?, text?_unplaced]

theorem requireInst_unplaced {record : Record} {inst : String} :
    record.unplaced.requireInst = .ok inst ↔ record.requireInst = .ok inst := by
  unfold requireInst unplaced
  cases record.inst with
  | none => simp
  | some given =>
      by_cases empty : given = ""
      · simp [empty]
      · simp [empty]

theorem require_unplaced {record : Record} {key : TextKey} {text : String} :
    record.unplaced.require key = .ok text ↔ record.require key = .ok text := by
  unfold require
  rw [text?_unplaced]
  cases record.text? key <;> simp

end Record

namespace Artifact

variable (artifact : Artifact)

theorem selects_unplaced (record : Record) :
    artifact.selects record.unplaced = artifact.selects record := by
  cases artifact with
  | dispatch | opcodeType => rfl
  | primitiveTable =>
      simp only [selects, Record.tracked?_unplaced]
      rfl
  | interpreter | nodeType | lowering => rfl

theorem splicedKey?_unplaced (record : Record) :
    artifact.splicedKey? record.unplaced = artifact.splicedKey? record := by
  cases artifact <;> rfl

theorem lacks?_eq_none_iff (record : Record) :
    artifact.lacks? record = none ↔
      (∃ inst, record.requireInst = .ok inst) ∧
        ∀ key, artifact.splicedKey? record = some key → ∃ text, record.require key = .ok text := by
  constructor
  · intro complete
    obtain ⟨⟨inst, node, -⟩, spliced⟩ := present_of_lacks? complete
    exact ⟨⟨inst, node⟩, spliced⟩
  · rintro ⟨⟨inst, named⟩, spliced⟩
    cases key : artifact.splicedKey? record with
    | none => exact lacks?_of_named named key
    | some spelled =>
        obtain ⟨text, present⟩ := spliced spelled key
        exact lacks?_of_present named key present

theorem lacks?_unplaced_eq_none_iff (record : Record) :
    artifact.lacks? record.unplaced = none ↔ artifact.lacks? record = none := by
  simp only [lacks?_eq_none_iff, splicedKey?_unplaced, Record.requireInst_unplaced,
    Record.require_unplaced]

end Artifact

theorem Pass.text_unplaced {pass : Pass} {artifact : Artifact}
    (writes : pass.artifact = some artifact) {record : Record} (complete : artifact.lacks? record = none) :
    pass.text record.unplaced = pass.text record := by
  obtain ⟨⟨inst, node, opcode⟩, spliced⟩ := Artifact.present_of_lacks? complete
  have nodeAlso : record.unplaced.nodeName = .ok inst := Record.requireInst_unplaced.mpr node
  have opcodeAlso := Record.opcodeName_of_requireInst nodeAlso
  unfold Pass.text
  cases artifact with
  | dispatch =>
      obtain ⟨code, present⟩ := spliced .code rfl
      simp only [Pass.layout, writes, Dispatch.sheet_arm _ _ _ opcode present,
        Dispatch.sheet_arm _ _ _ opcodeAlso (Record.require_unplaced.mpr present)]
      rfl
  | opcodeType =>
      simp only [Pass.layout, writes, OpcodeType.sheet_variant opcode,
        OpcodeType.sheet_variant opcodeAlso]
      rfl
  | interpreter =>
      obtain ⟨body, present⟩ := spliced record.interpKey rfl
      have presentAlso : record.unplaced.interpBody = .ok body := Record.require_unplaced.mpr present
      simp only [Pass.layout, writes, Interpreter.sheet_case _ node present,
        Interpreter.sheet_case _ nodeAlso presentAlso]
      rfl
  | primitiveTable =>
      obtain ⟨signature, present⟩ := spliced .type rfl
      simp only [Pass.layout, writes, PrimitiveTable.sheet_entry node present,
        PrimitiveTable.sheet_entry nodeAlso (Record.require_unplaced.mpr present)]
      rfl
  | nodeType =>
      simp only [Pass.layout, writes, NodeType.sheet_variant _ node,
        NodeType.sheet_variant _ nodeAlso]
      rfl
  | lowering =>
      simp only [Pass.layout, writes, Lowering.sheet_case _ node opcode,
        Lowering.sheet_case _ nodeAlso opcodeAlso]
      rfl

/-! ## Admission without places -/

theorem forall₂_unplaced_iff {records others : List Record} :
    List.Forall₂ (fun record other => other = record.unplaced) records others ↔
      others = records.map Record.unplaced := by
  constructor
  · intro related
    have mapped : List.Forall₂ (· = ·) others (records.map Record.unplaced) :=
      List.forall₂_map_right_iff.mpr related.flip
    rwa [List.forall₂_eq_eq_eq] at mapped
  · rintro rfl
    exact List.forall₂_map_right_iff.mpr (List.forall₂_same.mpr fun _ _ => rfl)

theorem Guard.accept_unplaced {κ : Type} {guard : Guard} {code : Failure → κ}
    (alike : ∀ earlier record, (guard (earlier.map Record.unplaced) record.unplaced).map code =
      (guard earlier record).map code)
    {ending other : Option Failure} (ends : other.map code = ending.map code)
    (earlier records : List Record) :
    (guard.accept other (earlier.map Record.unplaced) (records.map Record.unplaced)).1 =
        (guard.accept ending earlier records).1.map Record.unplaced ∧
      (guard.accept other (earlier.map Record.unplaced) (records.map Record.unplaced)).2.map code =
        (guard.accept ending earlier records).2.map code := by
  have alikeRelated {before others : List Record} {record other : Record}
      (front : List.Forall₂ (fun record other => other = record.unplaced) before others)
      (same : other = record.unplaced) :
      (guard others other).map code = (guard before record).map code := by
    rw [forall₂_unplaced_iff.mp front, same, alike]
  obtain ⟨passed, ended⟩ := accept_forall₂ alikeRelated ends (forall₂_unplaced_iff.mpr rfl)
    (forall₂_unplaced_iff.mpr rfl)
  exact ⟨forall₂_unplaced_iff.mp passed, ended⟩

/-- A failure of a record: it has a cause at the record's place, and the cause is no fault of
usage. -/
def AtRecord (failure : Failure) : Prop :=
  ∃ span cause, failure = .ofCause span cause ∧ ∀ problem, cause ≠ .usage problem

theorem Record.atRecord_of_requireInst {record : Record} {failure : Failure}
    (missing : record.requireInst = .error failure) : AtRecord failure := by
  refine ⟨record.span, .missingInst, ?_, by simp⟩
  unfold requireInst at missing
  split at missing
  · exact (Except.error.inj missing).symm
  · split at missing
    · exact (Except.error.inj missing).symm
    · cases missing

theorem Record.atRecord_of_require {record : Record} {key : TextKey} {failure : Failure}
    (missing : record.require key = .error failure) : AtRecord failure := by
  refine ⟨record.span, .missingField key.spelling (record.inst.getD ""), ?_, by simp⟩
  unfold require at missing
  split at missing
  · cases missing
  · exact (Except.error.inj missing).symm

namespace Artifact

variable {artifact : Artifact} {duplicates : DuplicatePolicy} {earlier : List Record}
variable {record : Record} {failure : Failure}

theorem atRecord_of_lacks? (lacking : artifact.lacks? record = some failure) : AtRecord failure := by
  unfold lacks? at lacking
  split at lacking
  · rename_i missing
    exact Option.some.inj lacking ▸ Record.atRecord_of_requireInst missing
  · split at lacking
    · cases lacking
    · split at lacking
      · rename_i missing
        exact Option.some.inj lacking ▸ Record.atRecord_of_require missing
      · cases lacking

theorem atRecord_of_stop? (stopped : artifact.stop? duplicates earlier record = some failure) :
    AtRecord failure := by
  rcases Option.or_eq_some_iff.mp stopped with refused | ⟨-, lacking⟩
  · obtain ⟨key, -, refusedFor⟩ := List.exists_of_findSome?_eq_some refused
    unfold DuplicatePolicy.refusal? at refusedFor
    split at refusedFor
    · simp only [Option.bind_eq_some_iff, Option.map_eq_some_iff] at refusedFor
      obtain ⟨value, -, first, -, rfl⟩ := refusedFor
      exact ⟨_, _, rfl, by simp⟩
    · cases refusedFor
  · exact atRecord_of_lacks? lacking

theorem stop?_unplaced_eq_none_iff :
    artifact.stop? duplicates (earlier.map Record.unplaced) record.unplaced = none ↔
      artifact.stop? duplicates earlier record = none := by
  have refusal (key : TextKey) :
      duplicates.refusal? key (earlier.map Record.unplaced) record.unplaced = none ↔
        duplicates.refusal? key earlier record = none := by
    unfold DuplicatePolicy.refusal?
    rw [Record.tracked?_unplaced]
    cases record.tracked? key <;> simp [Record.tracked?_unplaced]
  simp only [stop?, Guard.orElse, Option.or_eq_none_iff, Guard.ofKeys, List.findSome?_eq_none_iff,
    refusal, lacks?_unplaced_eq_none_iff]

/-- Where all failures of records count as one, a record is stopped alike without its place. -/
theorem map_stop?_unplaced {κ : Type} {code : Failure → κ} {common : κ}
    (uniform : ∀ failure, AtRecord failure → code failure = common) :
    (artifact.stop? duplicates (earlier.map Record.unplaced) record.unplaced).map code =
      (artifact.stop? duplicates earlier record).map code := by
  cases stopped : artifact.stop? duplicates earlier record with
  | none => rw [stop?_unplaced_eq_none_iff.mpr stopped]
  | some failure =>
      cases placeless : artifact.stop? duplicates (earlier.map Record.unplaced) record.unplaced with
      | none =>
          rw [stop?_unplaced_eq_none_iff.mp placeless] at stopped
          cases stopped
      | some other =>
          rw [Option.map_some, Option.map_some, uniform _ (atRecord_of_stop? stopped),
            uniform _ (atRecord_of_stop? placeless)]

end Artifact

namespace Pass

variable {pass : Pass} {artifact : Artifact} (writes : pass.artifact = some artifact)

theorem closing_congr {first second : Option Failure} (alike : first.isSome = second.isSome) :
    pass.closing first = pass.closing second := by
  cases first <;> cases second <;> first | rfl | cases alike

include writes

theorem map_text_of_unplaced {duplicates : DuplicatePolicy} {ending other : Option Failure}
    {records others : List Record}
    (same : ((artifact.stop? duplicates).accept other [] others).1.map Record.unplaced =
      ((artifact.stop? duplicates).accept ending [] records).1.map Record.unplaced) :
    ((artifact.stop? duplicates).accept other [] others).1.map pass.text =
      ((artifact.stop? duplicates).accept ending [] records).1.map pass.text := by
  have placeless (ending : Option Failure) (records : List Record) :
      ((artifact.stop? duplicates).accept ending [] records).1.map pass.text =
        (((artifact.stop? duplicates).accept ending [] records).1.map Record.unplaced).map
          pass.text := by
    rw [List.map_map]
    refine List.map_congr_left fun record member => ?_
    exact (text_unplaced writes (Artifact.complete_of_mem_accept member)).symm
  rw [placeless, placeless, same]

/-- Streams that differ in the places of their records alone, and end alike, are written alike. -/
theorem emit_of_unplaced {κ : Type} {code : Failure → κ} {common : κ}
    (uniform : ∀ failure, AtRecord failure → code failure = common)
    {records others : Trace Record}
    (same : others.items.map Record.unplaced = records.items.map Record.unplaced)
    (ends : others.failure?.map code = records.failure?.map code) :
    (pass.emit others).items = (pass.emit records).items ∧
      (pass.emit others).failure?.map code = (pass.emit records).failure?.map code := by
  have selected (records : List Record) :
      (records.filter artifact.selects).map Record.unplaced =
        (records.map Record.unplaced).filter artifact.selects := by
    rw [List.filter_map]
    refine congrArg _ (List.filter_congr fun record _ => ?_)
    exact (artifact.selects_unplaced record).symm
  have alike (earlier : List Record) (record : Record) :
      (artifact.stop? pass.duplicates (earlier.map Record.unplaced) record.unplaced).map code =
        (artifact.stop? pass.duplicates earlier record).map code :=
    Artifact.map_stop?_unplaced uniform
  -- Both streams are compared with the records without their places.
  have here := Guard.accept_unplaced alike (Eq.refl (records.failure?.map code)) []
    (records.items.filter artifact.selects)
  have there := Guard.accept_unplaced alike ends.symm [] (others.items.filter artifact.selects)
  rw [selected, same, ← selected] at there
  have sameFailure :
      (pass.emit others).failure?.map code = (pass.emit records).failure?.map code := by
    rw [failure?_emit writes, failure?_emit writes]
    exact there.2.symm.trans here.2
  have sameEnd : (pass.emit others).failure?.isSome = (pass.emit records).failure?.isSome := by
    simpa using congrArg Option.isSome sameFailure
  refine ⟨?_, sameFailure⟩
  rw [items_emit writes, items_emit writes, closing_congr sameEnd,
    map_text_of_unplaced writes (there.1.symm.trans here.1)]

end Pass

end InstructionSet
