import InstructionSet.Proofs.Streams

/-!
# Policies for repeated identifiers

Passes that keep repeated identifiers write the same, whether or not they warn of them. A pass that
refuses them does what they do up to the first record that repeats an identifier, and stops there
(`Pass.content_emit_refusing_of_firstRepeat`). It differs in nothing where no such record is
reached.
-/

set_option autoImplicit false

namespace InstructionSet

/-- A guard that is asked first makes no difference if it would stop none of the records that the
other lets a stream come to. -/
theorem Guard.accept_orElse_of_unstopped {first second : Guard} (ending : Option Failure)
    {earlier records : List Record}
    (unstopped : ∀ before record after, records = before ++ record :: after →
      (second.accept none earlier before).2 = none → first (earlier ++ before) record = none) :
    (first.orElse second).accept ending earlier records = second.accept ending earlier records := by
  induction records generalizing earlier with
  | nil => rfl
  | cons record rest ih =>
      have passed : first earlier record = none := by
        simpa using unstopped [] record rest rfl rfl
      simp only [accept, orElse, passed, Option.none_or]
      cases stopped : second earlier record with
      | some failure => rfl
      | none =>
          refine congrArg (fun more => (record :: more.1, more.2)) (ih ?_)
          intro before next after split whole
          have reached : (second.accept none earlier (record :: before)).2 = none := by
            simpa only [accept, stopped] using whole
          simpa using unstopped (record :: before) next after (congrArg (record :: ·) split) reached

/-- A record is refused for the keys under which it has the text of an earlier one. -/
theorem Artifact.refusal?_eq_none_iff (artifact : Artifact) (before : List Record)
    (record : Record) :
    Guard.ofKeys DuplicatePolicy.reject.refusal? artifact.uniqueKeys before record = none ↔
      ∀ key ∈ artifact.uniqueKeys, ∀ value, record.tracked? key = some value →
        (before.find? fun first => first.tracked? key == some value) = none := by
  simp [Guard.ofKeys, DuplicatePolicy.refusal?]

namespace Pass

/-- The pass that does the same with another policy for repeated identifiers. -/
def withPolicy (pass : Pass) (duplicates : DuplicatePolicy) : Pass := { pass with duplicates }

/-- A record is the first of those that a pass comes to and that repeat an identifier. -/
structure FirstRepeat (pass : Pass) (artifact : Artifact) (records : Trace Record)
    (before : List Record) (record : Record) : Prop where
  repeats : ∃ first key value, pass.Repeats artifact records before record first key value
  earliest : ∀ sooner other first key value,
    pass.Repeats artifact records sooner other first key value → before.length ≤ sooner.length

variable {pass : Pass} {artifact : Artifact} {records : Trace Record}

theorem exists_firstRepeat {before : List Record} {record first : Record} {key : TextKey}
    {value : String} (repeats : pass.Repeats artifact records before record first key value) :
    ∃ before record, FirstRepeat pass artifact records before record := by
  induction count : before.length using Nat.strong_induction_on
    generalizing before record first key value with
  | _ count ih =>
      by_cases sooner : ∃ before' record' first' key' value',
          pass.Repeats artifact records before' record' first' key' value' ∧
            before'.length < before.length
      · obtain ⟨before', record', first', key', value', repeats', fewer⟩ := sooner
        exact ih before'.length (count ▸ fewer) repeats' rfl
      · refine ⟨before, record, ⟨first, key, value, repeats⟩, ?_⟩
        intro before' record' first' key' value' repeats'
        by_contra more
        exact sooner ⟨before', record', first', key', value', repeats', Nat.lt_of_not_le more⟩

/-- What stands in front of the first repeat stands in front of every one. -/
theorem FirstRepeat.prefix_of_repeats {before sooner : List Record} {record other first : Record}
    {key : TextKey} {value : String} (earliest : FirstRepeat pass artifact records before record)
    (repeats : pass.Repeats artifact records sooner other first key value) : before <+: sooner := by
  obtain ⟨_, _, _, repeatsFirst⟩ := earliest.repeats
  obtain ⟨after, reached⟩ := repeatsFirst.reached
  obtain ⟨behind, reachedAlso⟩ := repeats.reached
  exact List.prefix_of_prefix_length_le ⟨_, reached.symm⟩ ⟨_, reachedAlso.symm⟩
    (earliest.earliest _ _ _ _ _ repeats)

/-- A pass that refuses repeated identifiers accepts the same where none is reached. -/
theorem accept_reject_of_unrepeated (kept : pass.duplicates ≠ .reject) (ending : Option Failure)
    {reached : List Record}
    (unrepeated : ∀ before record after, reached = before ++ record :: after →
      ((artifact.stop? pass.duplicates).accept none [] before).2 = none →
      ∀ key ∈ artifact.uniqueKeys, ∀ value, record.tracked? key = some value →
        (before.find? fun first => first.tracked? key == some value) = none) :
    (artifact.stop? .reject).accept ending [] reached =
      (artifact.stop? pass.duplicates).accept ending [] reached := by
  have lenient : artifact.stop? pass.duplicates = fun _ record => artifact.lacks? record := by
    funext earlier record
    exact artifact.stop?_of_kept kept earlier record
  rw [lenient] at unrepeated ⊢
  refine Guard.accept_orElse_of_unstopped ending fun before record after split whole => ?_
  rw [List.nil_append, Artifact.refusal?_eq_none_iff]
  exact unrepeated before record after split whole

/-- A pass that refuses repeated identifiers comes to the first record that repeats one. -/
theorem FirstRepeat.repeats_refusing (kept : pass.duplicates ≠ .reject) {before : List Record}
    {record : Record} (earliest : FirstRepeat pass artifact records before record) :
    ∃ first key value,
      (pass.withPolicy .reject).Repeats artifact records before record first key value := by
  obtain ⟨⟨first, key, value, ⟨after, reached⟩, unstopped, unique, tracked, found⟩, sooner⟩ :=
    earliest
  refine ⟨first, key, value, ⟨after, reached⟩, ?_, unique, tracked, found⟩
  -- What repeats an identifier in front of the record would be an earlier repeat.
  refine (congrArg Prod.snd (accept_reject_of_unrepeated kept none ?_)).trans unstopped
  intro front other behind split whole key' unique' value' tracked'
  cases found' : front.find? fun first => first.tracked? key' == some value' with
  | none => rfl
  | some first' =>
      have repeats : pass.Repeats artifact records front other first' key' value' :=
        ⟨⟨behind ++ record :: after, by simp [reached, split]⟩, whole, unique', tracked', found'⟩
      have fewer := sooner _ _ _ _ _ repeats
      simp only [split, List.length_append, List.length_cons] at fewer
      omega

section Kept

variable (writes : pass.artifact = some artifact)

include writes

theorem content_emit_withPolicy (policy : DuplicatePolicy) (records : Trace Record) :
    let accepted := (artifact.stop? policy).accept records.failure? []
      (records.items.filter artifact.selects)
    ((pass.withPolicy policy).emit records).content =
      (pass.front ++ accepted.1.map pass.text ++ pass.closing accepted.2, accepted.2) := by
  have writesAlso : (pass.withPolicy policy).artifact = some artifact := writes
  exact content_emit writesAlso records

/-- A pass writes the records in front of a repeated identifier before it comes to it. -/
theorem Repeats.exists_items {before : List Record} {record first : Record} {key : TextKey}
    {value : String} (repeats : pass.Repeats artifact records before record first key value) :
    ∃ more, (pass.emit records).items = pass.front ++ before.map pass.text ++ more := by
  obtain ⟨after, reached⟩ := repeats.reached
  rw [items_emit writes, reached, Guard.accept_append _ _ _ _ _ repeats.unstopped, List.map_append]
  simp only [List.append_assoc]
  exact ⟨_, rfl⟩

variable (kept : pass.duplicates ≠ .reject)

include kept

/-- Repeated identifiers that are kept do not matter. -/
theorem content_emit_of_kept {policy : DuplicatePolicy} (alsoKept : policy ≠ .reject)
    (records : Trace Record) :
    ((pass.withPolicy policy).emit records).content = (pass.emit records).content := by
  have same : artifact.stop? policy = artifact.stop? pass.duplicates := by
    funext earlier record
    rw [artifact.stop?_of_kept alsoKept, artifact.stop?_of_kept kept]
  rw [content_emit_withPolicy writes, content_emit writes, same]

theorem content_emit_refusing_of_unrepeated
    (unrepeated : ∀ before record first key value,
      ¬ pass.Repeats artifact records before record first key value) :
    ((pass.withPolicy .reject).emit records).content = (pass.emit records).content := by
  rw [content_emit_withPolicy writes, content_emit writes,
    accept_reject_of_unrepeated kept]
  intro before record after split whole key unique value tracked
  cases found : before.find? fun first => first.tracked? key == some value with
  | none => rfl
  | some first =>
      exact absurd ⟨⟨after, split⟩, whole, unique, tracked, found⟩
        (unrepeated before record first key value)

/-- A pass that refuses repeated identifiers writes the records before the first that repeats one,
and ends in a failure that tells of a text that is repeated there. -/
theorem content_emit_refusing_of_firstRepeat {before : List Record} {record : Record}
    (earliest : FirstRepeat pass artifact records before record) :
    ∃ first key value, pass.Repeats artifact records before record first key value ∧
      ((pass.withPolicy .reject).emit records).content =
        (pass.front ++ before.map pass.text,
          some (.ofCause record.span (.duplicate key.property value first.span))) := by
  obtain ⟨_, _, _, refused⟩ := earliest.repeats_refusing kept
  obtain ⟨⟨_, _, _, lenient⟩, -⟩ := earliest
  have writesAlso : (pass.withPolicy .reject).artifact = some artifact := writes
  obtain ⟨key, value, first, repeats, content⟩ := content_emit_of_repeats refused writesAlso rfl
  exact ⟨first, key, value,
    ⟨repeats.reached, lenient.unstopped, repeats.unique, repeats.tracked, repeats.found⟩, content⟩

/-- Where the first record that repeats an identifier cannot be written, a pass that keeps repeated
identifiers stops there as well. -/
theorem content_emit_of_firstRepeat {before : List Record} {record : Record}
    (earliest : FirstRepeat pass artifact records before record) {failure : Failure}
    (lacking : artifact.lacks? record = some failure) :
    (pass.emit records).content = (pass.front ++ before.map pass.text, some failure) := by
  obtain ⟨⟨_, _, _, repeats⟩, -⟩ := earliest
  obtain ⟨after, reached⟩ := repeats.reached
  have stopped : artifact.stop? pass.duplicates before record = some failure :=
    (artifact.stop?_of_kept kept before record).trans lacking
  rw [content_emit writes, reached, Guard.accept_of_stopped _ _ repeats.unstopped stopped]
  simp only [closing, List.append_nil]

end Kept

end Pass

end InstructionSet
