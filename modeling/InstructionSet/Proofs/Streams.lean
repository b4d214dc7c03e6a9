import InstructionSet.Proofs.Emission

/-!
# Streams in a row

A pass over two streams in a row first does all that it does for the one, and then goes
on with the next where it stands: a check recalls what it has seen, and the printer is
idle. So what has been written does not depend on what follows.
-/

set_option autoImplicit false

namespace InstructionSet

namespace Trace

variable {α β : Type}

theorem filter_append (p : α → Bool) (first next : Trace α) :
    (first ++ next).filter p = first.filter p ++ next.filter p := by
  induction first with
  | done | failed => rfl
  | note entry rest ih => exact congrArg (note entry) ih
  | item value rest ih =>
      change (if p value then item value ((rest ++ next).filter p) else (rest ++ next).filter p) = _
      rw [ih]
      by_cases passes : p value = true
      · simp only [filter, passes, if_true]
        rfl
      · simp only [filter, passes, if_false, Bool.false_eq_true]

theorem flatMap_append (f : α → Trace β) (first next : Trace α) :
    (first ++ next).flatMap f = first.flatMap f ++ next.flatMap f := by
  induction first with
  | done | failed => rfl
  | note entry rest ih => exact congrArg (note entry) ih
  | item value rest ih =>
      have behind : f value ++ (rest ++ next).flatMap f =
          f value ++ rest.flatMap f ++ next.flatMap f := by
        rw [ih, append_assoc]
      exact behind

theorem items_prefix_append (first next : Trace α) : first.items <+: (first ++ next).items := by
  cases complete : first.failure? with
  | none => exact ⟨next.items, (items_append_of_failure?_eq_none next complete).symm⟩
  | some failure =>
      have ended : first.failure?.isSome = true := by rw [complete]; rfl
      exact ⟨[], by rw [append_of_failure?_isSome next ended, List.append_nil]⟩

/-- A trace goes on behind the items in front of one that is kept. -/
theorem exists_append_of_filter {p : α → Bool} {trace : Trace α} {before after : List α} {value : α}
    (held : trace.items.filter p = before ++ value :: after) :
    ∃ first rest, trace = first ++ item value rest ∧ first.items.filter p = before ∧
      first.failure? = none ∧ p value = true := by
  induction trace generalizing before with
  | done | failed => simp [items] at held
  | note entry rest ih =>
      obtain ⟨first, later, rfl, facts⟩ := ih held
      exact ⟨note entry first, later, rfl, facts⟩
  | item head rest ih =>
      by_cases kept : p head = true
      · rw [items, List.filter_cons_of_pos kept] at held
        cases before with
        | nil =>
            obtain ⟨rfl, -⟩ := List.cons.inj held
            exact ⟨done, rest, rfl, rfl, rfl, kept⟩
        | cons first before =>
            obtain ⟨rfl, behind⟩ := List.cons.inj held
            obtain ⟨first, later, rfl, same, facts⟩ := ih behind
            refine ⟨item head first, later, rfl, ?_, facts⟩
            rw [items, List.filter_cons_of_pos kept, same]
      · rw [items, List.filter_cons_of_neg kept] at held
        obtain ⟨first, later, rfl, same, facts⟩ := ih held
        refine ⟨item head first, later, rfl, ?_, facts⟩
        rw [items, List.filter_cons_of_neg kept, same]

theorem complete_of_flatMap {f : α → Trace β} {trace : Trace α}
    (complete : (trace.flatMap f).failure? = none) : trace.failure? = none := by
  induction trace with
  | done => rfl
  | failed failure => cases complete
  | note entry rest ih => exact ih complete
  | item value rest ih =>
      have behind : (f value ++ rest.flatMap f).failure? = none := complete
      rw [failure?_append, Option.or_eq_none_iff] at behind
      exact ih behind.2

theorem flatMap_withNotes (f : α → Trace β) (entries : List Note) (rest : Trace α) :
    (rest.withNotes entries).flatMap f = (rest.flatMap f).withNotes entries := by
  induction entries with
  | nil => rfl
  | cons entry entries ih => exact congrArg (note entry) ih

theorem notes_withNotes (entries : List Note) (rest : Trace α) :
    (rest.withNotes entries).notes = entries ++ rest.notes := by
  induction entries with
  | nil => rfl
  | cons entry entries ih => exact congrArg (entry :: ·) ih

theorem failure?_withNotes (entries : List Note) (rest : Trace α) :
    (rest.withNotes entries).failure? = rest.failure? :=
  congrArg Prod.snd (content_withNotes entries rest)

theorem withNotes_append (entries : List Note) (first next : Trace α) :
    first.withNotes entries ++ next = (first ++ next).withNotes entries := by
  induction entries with
  | nil => rfl
  | cons entry entries ih => exact congrArg (note entry) ih

end Trace

namespace Record

variable {policy : DuplicatePolicy} {earlier : List Record}

/-- A check goes on behind a stream with what it has seen of it. -/
theorem checkDuplicatesFrom_append {key : TextKey} {seen : List (String × Span)}
    (recalls : policy ≠ .allow → Recalls key seen earlier) (first : Trace Record) :
    ∃ seenNow,
      ((checkDuplicatesFrom key policy seen first).failure? = none → policy ≠ .allow →
        Recalls key seenNow (earlier ++ first.items)) ∧
      ∀ next, checkDuplicatesFrom key policy seen (first ++ next) =
        checkDuplicatesFrom key policy seen first ++
          checkDuplicatesFrom key policy seenNow next := by
  induction first generalizing seen earlier with
  | done =>
      refine ⟨seen, fun _ tracking => ?_, fun _ => rfl⟩
      simpa [Trace.items] using recalls tracking
  | failed failure =>
      refine ⟨seen, fun complete => ?_, fun _ => rfl⟩
      cases complete
  | note entry rest ih =>
      obtain ⟨seenNow, recallsNow, goesOn⟩ := ih recalls
      exact ⟨seenNow, recallsNow, fun next => congrArg (Trace.note entry) (goesOn next)⟩
  | item record rest ih =>
      have together (next : Trace Record) :
          Trace.item record rest ++ next = .item record (rest ++ next) := rfl
      obtain ⟨failure, -, stops⟩ | ⟨-, seenHere, recallsHere, passes⟩ :=
        checkDuplicatesFrom_item policy recalls record
      · refine ⟨seen, fun complete => ?_, fun next => ?_⟩
        · rw [stops] at complete
          cases complete
        · rw [together, stops, stops]
          rfl
      · obtain ⟨seenNow, recallsNow, goesOn⟩ := ih recallsHere
        refine ⟨seenNow, fun complete tracking => ?_, fun next => ?_⟩
        · rw [passes, Trace.failure?_withNotes] at complete
          simpa [Trace.items] using recallsNow complete tracking
        · rw [together, passes, passes, goesOn, Trace.withNotes_append]
          rfl

/-- Checks for several keys, each with what it has seen. -/
def checkAllFrom (policy : DuplicatePolicy) (states : List (TextKey × List (String × Span)))
    (records : Trace Record) : Trace Record :=
  states.foldl (fun records state => checkDuplicatesFrom state.1 policy state.2 records) records

theorem checkAll_eq (keys : List TextKey) (policy : DuplicatePolicy) (records : Trace Record) :
    checkAll keys policy records = checkAllFrom policy (keys.map fun key => (key, [])) records := by
  rw [checkAllFrom, List.foldl_map]
  rfl

def AllRecall (states : List (TextKey × List (String × Span))) (earlier : List Record) : Prop :=
  ∀ state ∈ states, Recalls state.1 state.2 earlier

theorem items_checkDuplicatesFrom {key : TextKey} {seen : List (String × Span)}
    (recalls : policy ≠ .allow → Recalls key seen earlier) {records : Trace Record}
    (complete : (checkDuplicatesFrom key policy seen records).failure? = none) :
    (checkDuplicatesFrom key policy seen records).items = records.items := by
  have content := content_checkDuplicatesFrom policy records recalls
  have items : (checkDuplicatesFrom key policy seen records).items = _ := congrArg Prod.fst content
  have failure : (checkDuplicatesFrom key policy seen records).failure? = _ :=
    congrArg Prod.snd content
  rw [failure] at complete
  rw [items, (Guard.ending_of_accept_eq_none complete).2]

theorem complete_of_checkDuplicatesFrom {key : TextKey} {seen : List (String × Span)}
    {records : Trace Record}
    (complete : (checkDuplicatesFrom key policy seen records).failure? = none) :
    records.failure? = none := by
  induction records generalizing seen with
  | done => rfl
  | failed failure => cases complete
  | note entry rest ih => exact ih complete
  | item record rest ih =>
      unfold checkDuplicatesFrom at complete
      split at complete
      · exact ih complete
      · exact ih complete
      · split at complete
        · exact ih complete
        · split at complete
          · cases complete
          · exact ih complete

theorem complete_of_checkAllFrom {states : List (TextKey × List (String × Span))}
    {records : Trace Record} (complete : (checkAllFrom policy states records).failure? = none) :
    records.failure? = none := by
  induction states generalizing records with
  | nil => exact complete
  | cons state states ih => exact complete_of_checkDuplicatesFrom (ih complete)

theorem checkAllFrom_append {states : List (TextKey × List (String × Span))}
    (recalls : policy ≠ .allow → AllRecall states earlier) (first : Trace Record) :
    ∃ statesNow, statesNow.map Prod.fst = states.map Prod.fst ∧
      ((checkAllFrom policy states first).failure? = none → policy ≠ .allow →
        AllRecall statesNow (earlier ++ first.items)) ∧
      ∀ next, checkAllFrom policy states (first ++ next) =
        checkAllFrom policy states first ++ checkAllFrom policy statesNow next := by
  induction states generalizing first with
  | nil =>
      refine ⟨[], rfl, fun _ _ _ member => ?_, fun _ => rfl⟩
      cases member
  | cons state states ih =>
      obtain ⟨key, seen⟩ := state
      have recallsHere (tracking : policy ≠ .allow) : Recalls key seen earlier :=
        recalls tracking (key, seen) List.mem_cons_self
      obtain ⟨seenNow, recallsNow, goesOn⟩ := checkDuplicatesFrom_append recallsHere first
      obtain ⟨statesNow, keys, allRecall, goOn⟩ :=
        ih (fun tracking state member => recalls tracking state (List.mem_cons_of_mem _ member))
          (checkDuplicatesFrom key policy seen first)
      refine ⟨(key, seenNow) :: statesNow, ?_, fun complete tracking => ?_, fun next => ?_⟩
      · rw [List.map_cons, List.map_cons, keys]
      · -- The other checks see what the first one passes on, and that is all if none of them fails.
        have behind : (checkAllFrom policy states
            (checkDuplicatesFrom key policy seen first)).failure? = none := complete
        have completeHere := complete_of_checkAllFrom behind
        have items := items_checkDuplicatesFrom recallsHere completeHere
        have recallAll := allRecall complete tracking
        rw [items] at recallAll
        exact List.forall_mem_cons.mpr ⟨recallsNow completeHere tracking, recallAll⟩
      · rw [checkAllFrom, List.foldl_cons, goesOn]
        exact goOn _

theorem checkAllFrom_failed (states : List (TextKey × List (String × Span))) (failure : Failure) :
    checkAllFrom policy states (.failed failure) = .failed failure := by
  induction states with
  | nil => rfl
  | cons state states ih => exact ih

theorem checkAllFrom_note (states : List (TextKey × List (String × Span))) (entry : Note)
    (rest : Trace Record) :
    checkAllFrom policy states (.note entry rest) =
      .note entry (checkAllFrom policy states rest) := by
  induction states generalizing rest with
  | nil => rfl
  | cons state states ih => exact ih _

theorem checkAllFrom_withNotes (states : List (TextKey × List (String × Span)))
    (entries : List Note) (rest : Trace Record) :
    checkAllFrom policy states (rest.withNotes entries) =
      (checkAllFrom policy states rest).withNotes entries := by
  induction entries with
  | nil => rfl
  | cons entry entries ih =>
      exact (checkAllFrom_note states entry _).trans (congrArg (Trace.note entry) ih)

/-- The warnings of a record that comes after others, one for each key under which it repeats a
text. -/
def warnings (policy : DuplicatePolicy) (keys : List TextKey) (earlier : List Record)
    (record : Record) : List Note :=
  keys.filterMap fun key => policy.warning? key earlier record

theorem warnings_cons (key : TextKey) (keys : List TextKey) (earlier : List Record)
    (record : Record) :
    warnings policy (key :: keys) earlier record =
      (policy.warning? key earlier record).toList ++ warnings policy keys earlier record := by
  rw [warnings, List.filterMap_cons]
  cases policy.warning? key earlier record <;> rfl

theorem warnings_eq_nil (quiet : policy ≠ .warn) (keys : List TextKey) (earlier : List Record)
    (record : Record) : warnings policy keys earlier record = [] := by
  simp [warnings, DuplicatePolicy.warning?, quiet]

/-- What checks for several keys do with a record that comes after others: the first key for which
it is refused ends the stream, or it is passed on behind its warnings in the order of the keys. -/
theorem checkAllFrom_item {states : List (TextKey × List (String × Span))}
    (recalls : policy ≠ .allow → AllRecall states earlier) (record : Record) :
    (∃ failure, Guard.ofKeys policy.refusal? (states.map Prod.fst) earlier record = some failure ∧
      ∀ rest, checkAllFrom policy states (.item record rest) = .failed failure) ∨
    (Guard.ofKeys policy.refusal? (states.map Prod.fst) earlier record = none ∧
      ∃ statesNow, statesNow.map Prod.fst = states.map Prod.fst ∧
        (policy ≠ .allow → AllRecall statesNow (earlier ++ [record])) ∧
        ∀ rest, checkAllFrom policy states (.item record rest) =
          (Trace.item record (checkAllFrom policy statesNow rest)).withNotes
            (warnings policy (states.map Prod.fst) earlier record)) := by
  induction states with
  | nil =>
      refine .inr ⟨rfl, [], rfl, fun _ _ member => ?_, fun _ => rfl⟩
      cases member
  | cons state states ih =>
      obtain ⟨key, seen⟩ := state
      have behind := ih fun tracking state member =>
        recalls tracking state (List.mem_cons_of_mem _ member)
      simp only [List.map_cons, Guard.ofKeys_cons, Guard.orElse, warnings_cons]
      obtain ⟨failure, refused, stops⟩ | ⟨passed, seenNow, recallsNow, passes⟩ :=
        checkDuplicatesFrom_item policy
          (fun tracking => recalls tracking (key, seen) List.mem_cons_self) record
      · refine .inl ⟨failure, by rw [refused, Option.some_or], fun rest => ?_⟩
        rw [checkAllFrom, List.foldl_cons, stops]
        exact checkAllFrom_failed states failure
      have onward (rest : Trace Record) :
          checkAllFrom policy ((key, seen) :: states) (.item record rest) =
            (checkAllFrom policy states
              (.item record (checkDuplicatesFrom key policy seenNow rest))).withNotes
                (policy.warning? key earlier record).toList := by
        rw [checkAllFrom, List.foldl_cons, passes]
        exact checkAllFrom_withNotes states _ _
      rw [passed, Option.none_or]
      obtain ⟨failure, refused, stops⟩ | ⟨passedBehind, statesNow, keys, recallNow, passOn⟩ :=
        behind
      · refine .inl ⟨failure, refused, fun rest => ?_⟩
        -- A policy that refuses has warned of nothing.
        have refuses : policy = .reject := by
          by_contra kept
          rw [DuplicatePolicy.ofKeys_refusal?_of_kept kept] at refused
          cases refused
        rw [onward, stops, refuses]
        rfl
      · refine .inr ⟨passedBehind, (key, seenNow) :: statesNow, by rw [List.map_cons, keys], ?_,
          fun rest => ?_⟩
        · exact fun tracking => List.forall_mem_cons.mpr ⟨recallsNow tracking, recallNow tracking⟩
        · rw [onward, passOn, Trace.withNotes, Trace.withNotes, Trace.withNotes, List.foldr_append]
          rfl

end Record

namespace Pass

variable (pass : Pass)

/-- What a pass has written when it has read records and more may follow. -/
def begun (records : Trace Record) : Trace String :=
  chunk (Row.renderAll pass.config.indent (pass.prologue.sheet 0).rows)
    ((pass.checked records).flatMap pass.written)

variable {pass}

theorem chunk_append (text : String) (rest next : Trace String) :
    chunk text rest ++ next = chunk text (rest ++ next) := by
  unfold chunk
  split <;> rfl

theorem emit_eq (records : Trace Record) :
    pass.emit records = pass.begun records ++ pass.finish (pass.checked records).items.length := by
  obtain ⟨-, text, idle⟩ := pass.idle_printer.run_flush pass.prologue
  have fresh : pass.printer.flush.2 = pass.printer := rfl
  have rest := emitRecords_eq 0 (pass.checked records) idle
  rw [Nat.zero_add] at rest
  simp only [emit, emitWith, fresh, rest, text, begun, chunk_append]

theorem failure?_begun (records : Trace Record) :
    (pass.begun records).failure? = (pass.emit records).failure? := by
  rw [emit_eq, Trace.failure?_append, failure?_finish, Option.or_none]

theorem items_begun {artifact : Artifact} (writes : pass.artifact = some artifact)
    (records : Trace Record) :
    (pass.begun records).items =
      pass.front ++
        ((artifact.stop? pass.duplicates).accept records.failure? []
          (records.items.filter artifact.selects)).1.map pass.text := by
  have emitted := items_emit writes records
  rw [← failure?_begun, emit_eq] at emitted
  cases failure : (pass.begun records).failure? with
  | none =>
      rw [Trace.items_append_of_failure?_eq_none _ failure, items_finish, failure] at emitted
      exact List.append_cancel_right emitted
  | some failed =>
      rw [Trace.append_of_failure?_isSome _ (by rw [failure]; rfl), failure] at emitted
      exact emitted.trans (List.append_nil _)

/-- The checks of a pass go on behind a stream with what they have seen of it. -/
theorem begun_append (pass : Pass) (first : Trace Record) :
    ∃ states, states.map Prod.fst = pass.uniqueKeys ∧
      ((pass.checked first).failure? = none → pass.duplicates ≠ .allow →
        Record.AllRecall states (first.items.filter pass.selects)) ∧
      ∀ next, pass.begun (first ++ next) = pass.begun first ++
        (Record.checkAllFrom pass.duplicates states (next.filter pass.selects)).flatMap
          pass.written := by
  have fresh : pass.duplicates ≠ .allow →
      Record.AllRecall (pass.uniqueKeys.map fun key => (key, [])) [] := by
    intro _ state member
    obtain ⟨key, -, rfl⟩ := List.mem_map.mp member
    exact fun value => by simp
  obtain ⟨states, keys, recalls, goesOn⟩ :=
    Record.checkAllFrom_append fresh (first.filter pass.selects)
  refine ⟨states, ?_, fun complete tracking => ?_, fun next => ?_⟩
  · rw [keys, List.map_map]
    exact List.map_id _
  · rw [checked, Record.checkAll_eq] at complete
    simpa using recalls complete tracking
  · rw [begun, begun, checked, checked, Record.checkAll_eq, Record.checkAll_eq,
      Trace.filter_append, goesOn, Trace.flatMap_append, chunk_append]

/-- A pass goes on behind a stream. What it writes of the stream is written before anything is
asked of the next. -/
theorem emit_append (pass : Pass) (first : Trace Record) :
    ∃ resumed : Trace Record → Trace String,
      (∀ next, pass.emit (first ++ next) = pass.begun first ++ resumed next) ∧
      (∀ failure, resumed (.failed failure) = .failed failure) ∧
      ∀ entry rest, ∃ more, resumed (.note entry rest) = .note entry more := by
  obtain ⟨states, -, -, goesOn⟩ := pass.begun_append first
  refine ⟨fun next =>
    (Record.checkAllFrom pass.duplicates states (next.filter pass.selects)).flatMap pass.written ++
      pass.finish (pass.checked (first ++ next)).items.length, ?_, ?_, ?_⟩
  · intro next
    rw [emit_eq, goesOn, Trace.append_assoc]
  · intro failure
    simp only [Trace.filter, Record.checkAllFrom_failed]
    rfl
  · intro entry rest
    simp only [Trace.filter, Record.checkAllFrom_note]
    exact ⟨_, rfl⟩

/-- A record that a pass comes to repeats the text of an earlier one under a key. -/
structure Repeats (pass : Pass) (artifact : Artifact) (records : Trace Record)
    (before : List Record) (record first : Record) (key : TextKey) (value : String) : Prop where
  reached : ∃ after, records.items.filter artifact.selects = before ++ record :: after
  unstopped : ((artifact.stop? pass.duplicates).accept none [] before).2 = none
  unique : key ∈ artifact.uniqueKeys
  tracked : record.tracked? key = some value
  found : (before.find? fun first => first.tracked? key == some value) = some first

section Repeated

variable {artifact : Artifact} {records : Trace Record} {before : List Record}
variable {record first : Record} {key : TextKey} {value : String}
variable (repeats : Repeats pass artifact records before record first key value)

include repeats

/-- While repeated texts are refused, a record that repeats one is stopped. The first key that is
repeated is reported. -/
theorem stop?_of_repeats (refuses : pass.duplicates = .reject) :
    ∃ key value first, Repeats pass artifact records before record first key value ∧
      artifact.stop? pass.duplicates before record =
        some (.ofCause record.span (.duplicate key.property value first.span)) := by
  obtain ⟨reached, unstopped, unique, tracked, found⟩ := repeats
  have refused : DuplicatePolicy.refusal? pass.duplicates key before record =
      some (.ofCause record.span (.duplicate key.property value first.span)) := by
    simp [DuplicatePolicy.refusal?, refuses, tracked, found]
  cases refusal : Guard.ofKeys pass.duplicates.refusal? artifact.uniqueKeys before record with
  | none =>
      have unrefused := List.findSome?_eq_none_iff.mp refusal key unique
      rw [refused] at unrefused
      cases unrefused
  | some failure =>
      obtain ⟨other, member, refusedFor⟩ := List.exists_of_findSome?_eq_some refusal
      simp only [DuplicatePolicy.refusal?, refuses, if_true, Option.bind_eq_some_iff,
        Option.map_eq_some_iff] at refusedFor
      obtain ⟨text, trackedFor, cited, foundFor, rfl⟩ := refusedFor
      refine ⟨other, text, cited, ⟨reached, unstopped, member, trackedFor, foundFor⟩, ?_⟩
      simp [Artifact.stop?, Guard.orElse, refusal]

variable (writes : pass.artifact = some artifact)

include writes

/-- While repeated texts are warned of, the warning comes when the records in front of the one that
repeats a text have been written, wherever the first record with the text comes from. -/
theorem exists_warning_of_repeats (warns : pass.duplicates = .warn) :
    ∃ (written later : Trace String) (warnings : List Note),
      pass.emit records = written ++ later.withNotes warnings ∧
      written.content = (pass.front ++ before.map pass.text, none) ∧
      Record.duplicateNote key record value first.span ∈ warnings := by
  obtain ⟨⟨after, reached⟩, unstopped, unique, tracked, found⟩ := repeats
  obtain ⟨front, rest, rfl, same, complete, selected⟩ := Trace.exists_append_of_filter reached
  obtain ⟨states, stateKeys, recalls, goesOn⟩ := pass.begun_append front
  have begunWhole : (pass.begun front).failure? = none := by
    rw [failure?_begun, failure?_emit writes, complete, same, unstopped]
  have checkedWhole : (pass.checked front).failure? = none := by
    rw [begun, failure?_chunk] at begunWhole
    exact Trace.complete_of_flatMap begunWhole
  have recalled := recalls checkedWhole (by rw [warns]; decide)
  rw [selects_eq writes, same] at recalled
  have warning : Record.duplicateNote key record value first.span ∈
      Record.warnings pass.duplicates (states.map Prod.fst) before record := by
    rw [stateKeys, uniqueKeys_eq writes]
    refine List.mem_filterMap.mpr ⟨key, unique, ?_⟩
    simp [DuplicatePolicy.warning?, warns, Record.repeated?, tracked, found]
  have recalling : pass.duplicates ≠ .allow → Record.AllRecall states before := fun _ => recalled
  obtain ⟨failure, refused, -⟩ | ⟨-, statesNow, -, -, passes⟩ :=
    Record.checkAllFrom_item recalling record
  · rw [DuplicatePolicy.ofKeys_refusal?_of_kept (by rw [warns]; decide)] at refused
    cases refused
  have content : (pass.begun front).content = (pass.front ++ before.map pass.text, none) := by
    rw [Trace.content, begunWhole, items_begun writes, complete, same,
      (Guard.ending_of_accept_eq_none unstopped).2]
  have emitted : pass.emit (front ++ Trace.item record rest) = _ := emit_eq _
  rw [goesOn, selects_eq writes, Trace.filter, if_pos selected, passes, Trace.flatMap_withNotes,
    Trace.append_assoc, Trace.withNotes_append] at emitted
  exact ⟨_, _, _, emitted, content, warning⟩

/-- While repeated texts are refused, a record that repeats one ends the pass when those in front of
it have been written. -/
theorem content_emit_of_repeats (refuses : pass.duplicates = .reject) :
    ∃ key value first, Repeats pass artifact records before record first key value ∧
      (pass.emit records).content = (pass.front ++ before.map pass.text,
        some (.ofCause record.span (.duplicate key.property value first.span))) := by
  obtain ⟨key, value, first, repeats, stopped⟩ := stop?_of_repeats repeats refuses
  obtain ⟨after, reached⟩ := repeats.reached
  refine ⟨key, value, first, repeats, ?_⟩
  rw [content_emit writes, reached, Guard.accept_of_stopped _ _ repeats.unstopped stopped]
  simp only [closing, List.append_nil]

end Repeated

end Pass

end InstructionSet
