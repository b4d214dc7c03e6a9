import InstructionSet.Proofs.Results
import InstructionSet.Proofs.Streams

/-!
# Repetitions

What checks for several keys make of a list of records, as a trace: each record is refused, or
stands behind a warning for each key under which it repeats a text (`Record.screened`). So the
policies differ only where a record repeats something, and each of them tells of the first record
that has the text (`Record.checkAll_exact`).
-/

set_option autoImplicit false

namespace InstructionSet

namespace Record

theorem tracked?_eq_some_iff (record : Record) (key : TextKey) (value : String) :
    record.tracked? key = some value ↔ record.text? key = some value ∧ value ≠ "" := by
  simp [tracked?, Option.filter_eq_some_iff]

/-- Behind other records, a record repeats a text under a key. The first record that has the text is
cited. -/
structure Repeats (key : TextKey) (before : List Record) (record : Record) (value : String)
    (first : Record) : Prop where
  said : record.text? key = some value
  written : value ≠ ""
  cited : ∃ front behind, before = front ++ first :: behind ∧ first.text? key = some value ∧
    ∀ other ∈ front, other.text? key ≠ some value

theorem repeated?_eq_some_iff (key : TextKey) (before : List Record) (record : Record)
    (value : String) (first : Record) :
    record.repeated? key before = some (value, first) ↔ Repeats key before record value first := by
  simp only [repeated?, Option.bind_eq_some_iff, Option.map_eq_some_iff, Prod.mk.injEq,
    tracked?_eq_some_iff]
  constructor
  · rintro ⟨text, ⟨said, written⟩, cited, found, rfl, rfl⟩
    obtain ⟨same, front, behind, split, others⟩ := List.find?_eq_some_iff_append.mp found
    rw [beq_iff_eq, tracked?_eq_some_iff] at same
    refine ⟨said, written, front, behind, split, same.1, fun other member => ?_⟩
    have differs := others other member
    simp only [Bool.not_eq_true', beq_eq_false_iff_ne, ne_eq, tracked?_eq_some_iff] at differs
    exact fun also => differs ⟨also, written⟩
  · rintro ⟨said, written, front, behind, split, same, others⟩
    refine ⟨value, ⟨said, written⟩, first, List.find?_eq_some_iff_append.mpr ⟨?_, front, behind,
      split, fun other member => ?_⟩, rfl, rfl⟩
    · rw [beq_iff_eq, tracked?_eq_some_iff]
      exact ⟨same, written⟩
    · simp only [Bool.not_eq_true', beq_eq_false_iff_ne, ne_eq, tracked?_eq_some_iff]
      exact fun also => others other member also.1

/-- No record of a list repeats a text under one of the keys. -/
def Unrepeated (keys : List TextKey) (records : List Record) : Prop :=
  ∀ before record after, records = before ++ record :: after →
    ∀ key ∈ keys, ∀ value first, ¬Repeats key before record value first

/-- The first record of a list that repeats a text under one of the keys, with the first such key. -/
structure EarliestRepeat (keys : List TextKey) (records before : List Record) (record : Record)
    (key : TextKey) (value : String) (first : Record) : Prop where
  reached : ∃ after, records = before ++ record :: after
  unrepeated : Unrepeated keys before
  foremost : Foremost (fun key cited => Repeats key before record cited.1 cited.2) keys key
    (value, first)

variable {policy : DuplicatePolicy} {keys : List TextKey}

/-- What checks for several keys make of records that come after others. -/
def screened (policy : DuplicatePolicy) (keys : List TextKey) :
    List Record → List Record → Trace Record
  | _, [] => .done
  | before, record :: rest =>
      match Guard.ofKeys policy.refusal? keys before record with
      | some failure => .failed failure
      | none =>
          (Trace.item record (screened policy keys (before ++ [record]) rest)).withNotes
            (warnings policy keys before record)

theorem checkAllFrom_inOrder {states : List (TextKey × List (String × Span))}
    {before : List Record} (recalls : policy ≠ .allow → AllRecall states before)
    (records : List Record) :
    checkAllFrom policy states (inOrder records) =
      screened policy (states.map Prod.fst) before records := by
  induction records generalizing states before with
  | nil =>
      clear recalls
      induction states with
      | nil => rfl
      | cons state states ih => exact ih
  | cons record rest ih =>
      have next : inOrder (record :: rest) = .item record (inOrder rest) := rfl
      rw [next, screened]
      obtain ⟨failure, refused, stops⟩ | ⟨passed, statesNow, sameKeys, recallsNow, passes⟩ :=
        checkAllFrom_item recalls record
      · rw [stops, refused]
      · rw [passes, passed, ih recallsNow, sameKeys]

theorem checkAll_inOrder (policy : DuplicatePolicy) (keys : List TextKey) (records : List Record) :
    checkAll keys policy (inOrder records) = screened policy keys [] records := by
  have fresh : AllRecall (keys.map fun key => (key, [])) [] := by
    intro state member
    obtain ⟨key, -, rfl⟩ := List.mem_map.mp member
    exact fun value => by simp
  rw [checkAll_eq, checkAllFrom_inOrder fun _ => fresh, List.map_map]
  exact congrArg (fun keys => screened policy keys [] records) (List.map_id keys)

/-- Records pass behind their warnings as long as none is refused. -/
theorem screened_cons_of_kept (kept : policy ≠ .reject) (before : List Record) (record : Record)
    (rest : List Record) :
    screened policy keys before (record :: rest) =
      (Trace.item record (screened policy keys (before ++ [record]) rest)).withNotes
        (warnings policy keys before record) := by
  rw [screened, DuplicatePolicy.ofKeys_refusal?_of_kept kept]
  rfl

theorem screened_allow (before records : List Record) :
    screened .allow keys before records = inOrder records := by
  induction records generalizing before with
  | nil => rfl
  | cons record rest ih =>
      rw [screened_cons_of_kept (by decide), warnings_eq_nil (by decide), ih]
      rfl

/-- The warnings of records that come after others, record by record. -/
def warningsFrom (keys : List TextKey) : List Record → List Record → List Note
  | _, [] => []
  | before, record :: rest =>
      warnings .warn keys before record ++ warningsFrom keys (before ++ [record]) rest

theorem screened_warn (keys : List TextKey) (before records : List Record) :
    (screened .warn keys before records).content = (records, none) ∧
      (screened .warn keys before records).notes = warningsFrom keys before records := by
  induction records generalizing before with
  | nil => exact ⟨rfl, rfl⟩
  | cons record rest ih =>
      obtain ⟨content, notes⟩ := ih (before ++ [record])
      rw [screened_cons_of_kept (by decide), Trace.content_withNotes, Trace.content_item, content,
        Trace.notes_withNotes, warningsFrom, ← notes]
      exact ⟨rfl, rfl⟩

/-- The warnings by position: those of a record are for the records in front of it. -/
theorem warningsFrom_eq (before records : List Record) :
    warningsFrom keys before records =
      (records.mapIdx fun index record =>
        warnings .warn keys (before ++ records.take index) record).flatten := by
  induction records generalizing before with
  | nil => rfl
  | cons record rest ih =>
      rw [warningsFrom, ih, List.mapIdx_cons, List.flatten_cons]
      simp

section Step

variable {before : List Record} {record : Record}

theorem unrepeated_iff (key : TextKey) :
    record.repeated? key before = none ↔ ∀ value first, ¬Repeats key before record value first := by
  simp only [Option.eq_none_iff_forall_ne_some, ne_eq, Prod.forall, repeated?_eq_some_iff]

/-- A record is refused for the first key under which it repeats a text. -/
theorem refused_iff (failure : Failure) :
    Guard.ofKeys DuplicatePolicy.reject.refusal? keys before record = some failure ↔
      ∃ key value first, Foremost (fun key (cited : String × Record) =>
          Repeats key before record cited.1 cited.2) keys key (value, first) ∧
        failure = .ofCause record.span (.duplicate key.property value first.span) := by
  let refusal (key : TextKey) (cited : String × Record) : Failure :=
    .ofCause record.span (.duplicate key.property cited.1 cited.2.span)
  have refuses (key : TextKey) (failure : Failure) :
      DuplicatePolicy.reject.refusal? key before record = some failure ↔
        ∃ cited, Repeats key before record cited.1 cited.2 ∧ failure = refusal key cited := by
    simp only [DuplicatePolicy.refusal?_reject, Option.map_eq_some_iff, ← repeated?_eq_some_iff,
      eq_comm (a := failure), refusal]
  rw [Guard.ofKeys, findSome?_eq_some_iff_foremost refuses,
    exists_congr fun key => foremost_image_iff refusal keys key failure]
  simp only [Prod.exists, refusal]

theorem unrefused_iff :
    Guard.ofKeys DuplicatePolicy.reject.refusal? keys before record = none ↔
      ∀ key ∈ keys, ∀ value first, ¬Repeats key before record value first := by
  simp only [Guard.ofKeys, List.findSome?_eq_none_iff, DuplicatePolicy.refusal?_reject,
    Option.map_eq_none_iff, unrepeated_iff]

/-- A record that repeats nothing passes without a warning, whatever the policy. -/
theorem screened_cons_of_unrepeated
    (unrepeated : ∀ key ∈ keys, ∀ value first, ¬Repeats key before record value first)
    (policy : DuplicatePolicy) (rest : List Record) :
    screened policy keys before (record :: rest) =
      .item record (screened policy keys (before ++ [record]) rest) := by
  have unwarned : warnings policy keys before record = [] := by
    refine List.filterMap_eq_nil_iff.mpr fun key member => ?_
    simp [DuplicatePolicy.warning?, (unrepeated_iff key).mpr (unrepeated key member)]
  by_cases refuses : policy = .reject
  · subst refuses
    rw [screened, unrefused_iff.mpr unrepeated, unwarned]
    rfl
  · rw [screened_cons_of_kept refuses, unwarned]
    rfl

/-- The first warning of a record is for the first key under which it repeats a text. -/
theorem warnings_of_foremost {key : TextKey} {value : String} {first : Record}
    (foremost : Foremost (fun key (cited : String × Record) =>
      Repeats key before record cited.1 cited.2) keys key (value, first)) :
    ∃ more, warnings .warn keys before record = duplicateNote key record value first.span :: more := by
  obtain ⟨⟨sooner, later, rfl, unrepeated⟩, repeats⟩ := foremost
  have unwarned : sooner.filterMap (fun key => DuplicatePolicy.warn.warning? key before record) = [] := by
    refine List.filterMap_eq_nil_iff.mpr fun key member => ?_
    have none := (unrepeated_iff key).mpr fun value first => unrepeated key member (value, first)
    simp [DuplicatePolicy.warning?, none]
  have warned : DuplicatePolicy.warn.warning? key before record =
      some (duplicateNote key record value first.span) := by
    simp [DuplicatePolicy.warning?, (repeated?_eq_some_iff ..).mpr repeats]
  rw [warnings, List.filterMap_append, unwarned, List.filterMap_cons, warned]
  exact ⟨_, rfl⟩

end Step

/-- Records that repeat nothing pass as they are, and the checks go on behind them. -/
theorem screened_append (before : List Record) {passed : List Record}
    (unrepeated : ∀ front record behind, passed = front ++ record :: behind →
      ∀ key ∈ keys, ∀ value first, ¬Repeats key (before ++ front) record value first)
    (policy : DuplicatePolicy) (rest : List Record) :
    screened policy keys before (passed ++ rest) =
      (screened policy keys (before ++ passed) rest).withItems passed := by
  induction passed generalizing before with
  | nil => simp [Trace.withItems]
  | cons record passed ih =>
      have here := unrepeated [] record passed rfl
      rw [List.append_nil] at here
      have behind := ih (before ++ [record]) fun front other after split => by
        simpa using unrepeated (record :: front) other after (congrArg (record :: ·) split)
      rw [List.cons_append, screened_cons_of_unrepeated here, behind, List.append_assoc]
      rfl

/-- Either no record of a list repeats anything, or there is a first one that does. -/
theorem unrepeated_or_earliest (keys : List TextKey) (records : List Record) :
    Unrepeated keys records ∨
      ∃ before record key value first, EarliestRepeat keys records before record key value first := by
  cases ended : ((Guard.ofKeys DuplicatePolicy.reject.refusal? keys).accept none [] records).2 with
  | none =>
      refine .inl fun before record after split => unrefused_iff.mp ?_
      exact (Guard.accept_eq_none_iff _ _ _).mp ended before record after split
  | some failure =>
      obtain ⟨before, record, after, split, passed, refused⟩ :=
        (Guard.accept_eq_some_iff _ _ _ _).mp ended
      obtain ⟨key, value, first, foremost, -⟩ := (refused_iff failure).mp refused
      refine .inr ⟨before, record, key, value, first, ⟨after, split⟩, ?_, foremost⟩
      exact fun front other behind same => unrefused_iff.mp (passed front other behind same)

/-- Where nothing is repeated, the records pass as they are, whatever the policy. -/
theorem checkAll_of_unrepeated {records : List Record} (unrepeated : Unrepeated keys records)
    (policy : DuplicatePolicy) : checkAll keys policy (inOrder records) = inOrder records := by
  have passed := screened_append [] unrepeated policy []
  rw [List.append_nil, List.nil_append] at passed
  exact (checkAll_inOrder policy keys records).trans passed

/-- A check that refuses and one that warns tell of the same repeat first. -/
theorem checkAll_of_earliest {records before : List Record} {record first : Record} {key : TextKey}
    {value : String} (earliest : EarliestRepeat keys records before record key value first) :
    checkAll keys .reject (inOrder records) =
        (Trace.failed (.ofCause record.span (.duplicate key.property value first.span))).withItems
          before ∧
      ∃ rest, checkAll keys .warn (inOrder records) =
        (Trace.note (duplicateNote key record value first.span) rest).withItems before := by
  obtain ⟨⟨after, rfl⟩, unrepeated, foremost⟩ := earliest
  have passes (policy : DuplicatePolicy) :
      checkAll keys policy (inOrder (before ++ record :: after)) =
        (screened policy keys before (record :: after)).withItems before :=
    (checkAll_inOrder ..).trans (screened_append [] unrepeated policy (record :: after))
  constructor
  · rw [passes, screened, (refused_iff _).mpr ⟨key, value, first, foremost, rfl⟩]
  · obtain ⟨more, warned⟩ := warnings_of_foremost foremost
    rw [passes, screened_cons_of_kept (by decide), warned]
    exact ⟨_, rfl⟩

/-- Checks for repeated texts under several keys, one behind another, are exact. Repeats that are
allowed change nothing. A check that warns passes every record on and has one warning for each
record and each key under which it repeats a text, in the order of the records and then of the keys.
A check that refuses passes the records before the first that repeats anything, and fails there for
the first key under which it does, which is what the first warning is about. -/
theorem checkAll_exact (keys : List TextKey) (records : List Record) :
    let checked (policy : DuplicatePolicy) : Trace Record := checkAll keys policy (inOrder records)
    (∀ key before record value first, record.repeated? key before = some (value, first) ↔
      Repeats key before record value first) ∧
    checked .allow = inOrder records ∧
    (checked .warn).items = records ∧ (checked .warn).failure? = none ∧
    (checked .warn).notes = (records.mapIdx fun index record => keys.filterMap fun key =>
      (record.repeated? key (records.take index)).map fun cited =>
        duplicateNote key record cited.1 cited.2.span).flatten ∧
    (Unrepeated keys records ∧ checked .reject = inOrder records ∧ checked .warn = inOrder records ∨
      ∃ before record key value first, EarliestRepeat keys records before record key value first ∧
        checked .reject = (Trace.failed (.ofCause record.span
          (.duplicate key.property value first.span))).withItems before ∧
        ∃ rest, checked .warn =
          (Trace.note (duplicateNote key record value first.span) rest).withItems before) ∧
    ((checked .reject).failure? ≠ none ↔ (checked .warn).notes ≠ []) := by
  intro checked
  have screening (policy : DuplicatePolicy) : checked policy = screened policy keys [] records :=
    checkAll_inOrder policy keys records
  obtain ⟨content, notes⟩ := screened_warn keys [] records
  rw [← screening] at content notes
  rw [warningsFrom_eq] at notes
  refine ⟨repeated?_eq_some_iff, (screening .allow).trans (screened_allow [] records),
    congrArg Prod.fst content, congrArg Prod.snd content, notes, ?_⟩
  obtain unrepeated | ⟨before, record, key, value, first, earliest⟩ :=
    unrepeated_or_earliest keys records
  · have passes (policy : DuplicatePolicy) : checked policy = inOrder records :=
      checkAll_of_unrepeated unrepeated policy
    refine ⟨.inl ⟨unrepeated, passes .reject, passes .warn⟩, ?_⟩
    rw [passes, passes, (content_inOrder records).2, inOrder, Trace.notes_withItems]
    exact iff_of_false (absurd rfl) (absurd rfl)
  · have refused : checked .reject = _ := (checkAll_of_earliest earliest).1
    obtain ⟨rest, told⟩ : ∃ rest, checked .warn = _ := (checkAll_of_earliest earliest).2
    refine ⟨.inr ⟨before, record, key, value, first, earliest, refused, rest, told⟩, ?_⟩
    rw [refused, told, Trace.failure?_withItems, Trace.notes_withItems]
    exact iff_of_true (Option.some_ne_none _) (List.cons_ne_nil _ _)

end Record

end InstructionSet
