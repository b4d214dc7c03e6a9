import Mathlib.Data.List.Forall2
import InstructionSet.Record.Duplicates

/-!
# Admission

A guard looks at a record and at those that came before it, and stops the stream at
the first record that it has a reason to stop. What several guards in a row let
through is what one guard lets through that asks them in turn
(`Guard.accept_accept`). The checks for repeated identifiers are such guards
(`Record.content_checkAll`).
-/

set_option autoImplicit false

namespace InstructionSet

/-- Why a stream is stopped at a record that comes after others. -/
abbrev Guard := List Record → Record → Option Failure

namespace Guard

/-- The records that a guard lets through behind those of `earlier`, and how the stream
ends: in the failure that stops it, or in its own way. -/
def accept (guard : Guard) (ending : Option Failure) :
    List Record → List Record → List Record × Option Failure
  | _, [] => ([], ending)
  | earlier, record :: rest =>
      match guard earlier record with
      | some failure => ([], some failure)
      | none =>
          let more := guard.accept ending (earlier ++ [record]) rest
          (record :: more.1, more.2)

/-- Guards that are asked one after the other. -/
def orElse (first second : Guard) : Guard :=
  fun earlier record => (first earlier record).or (second earlier record)

def open_ : Guard := fun _ _ => none

def ofKeys (guards : TextKey → Guard) (keys : List TextKey) : Guard :=
  fun earlier record => keys.findSome? fun key => guards key earlier record

theorem ofKeys_cons (guards : TextKey → Guard) (key : TextKey) (keys : List TextKey) :
    ofKeys guards (key :: keys) = (guards key).orElse (ofKeys guards keys) := by
  funext earlier record
  simp only [ofKeys, orElse, List.findSome?_cons]
  cases guards key earlier record <;> rfl

/-- Guards of several keys answer alike if the guards of each key do. -/
theorem map_ofKeys_congr {κ : Type} {code : Failure → κ} {guards : TextKey → Guard}
    {keys : List TextKey} {earlier others : List Record} {record other : Record}
    (alike : ∀ key ∈ keys, (guards key others other).map code = (guards key earlier record).map code) :
    (ofKeys guards keys others other).map code = (ofKeys guards keys earlier record).map code := by
  induction keys with
  | nil => rfl
  | cons key keys ih =>
      obtain ⟨here, behind⟩ := List.forall_mem_cons.mp alike
      simp only [ofKeys_cons, orElse, Option.map_or, here, ih behind]

variable (guard : Guard) (ending : Option Failure)

theorem accept_open (earlier records : List Record) :
    open_.accept ending earlier records = (records, ending) := by
  induction records generalizing earlier with
  | nil => rfl
  | cons record rest ih => simp [accept, open_, ih]

theorem accept_accept (first second : Guard) (earlier records : List Record) :
    second.accept (first.accept ending earlier records).2 earlier
        (first.accept ending earlier records).1 =
      (first.orElse second).accept ending earlier records := by
  induction records generalizing earlier with
  | nil => rfl
  | cons record rest ih =>
      cases stopped : first earlier record with
      | some failure => simp [accept, orElse, stopped]
      | none =>
          simp only [accept, orElse, stopped, Option.none_or]
          cases second earlier record with
          | some failure => rfl
          | none => simp only [ih]

/-- The records that a guard lets through are a front part of the stream: it stops none
of them, and it stops the next one if there is one. -/
theorem exists_split (earlier records : List Record) :
    ∃ rest, records = (guard.accept ending earlier records).1 ++ rest ∧
      (∀ before record after, (guard.accept ending earlier records).1 = before ++ record :: after →
        guard (earlier ++ before) record = none) ∧
      match rest with
      | [] => (guard.accept ending earlier records).2 = ending
      | record :: _ =>
          guard (earlier ++ (guard.accept ending earlier records).1) record =
              (guard.accept ending earlier records).2 ∧
            (guard.accept ending earlier records).2 ≠ none := by
  induction records generalizing earlier with
  | nil => exact ⟨[], rfl, by simp [accept], rfl⟩
  | cons record rest ih =>
      cases stopped : guard earlier record with
      | some failure => exact ⟨record :: rest, by simp [accept, stopped]⟩
      | none =>
          obtain ⟨left, split, passed, next⟩ := ih (earlier ++ [record])
          refine ⟨left, ?_, ?_, ?_⟩
          · simpa [accept, stopped] using split
          · intro before stoppedRecord after decomposition
            simp only [accept, stopped] at decomposition
            cases before with
            | nil =>
                obtain ⟨rfl, -⟩ := List.cons.inj decomposition
                rw [List.append_nil]
                exact stopped
            | cons head before =>
                obtain ⟨rfl, inside⟩ := List.cons.inj decomposition
                simpa using passed before stoppedRecord after inside
          · simpa [accept, stopped] using next

theorem accept_isPrefix (earlier records : List Record) :
    (guard.accept ending earlier records).1 <+: records := by
  obtain ⟨rest, split, -⟩ := guard.exists_split ending earlier records
  exact ⟨rest, split.symm⟩

theorem ending_of_accept_eq_none {guard : Guard} {ending : Option Failure}
    {earlier records : List Record} (whole : (guard.accept ending earlier records).2 = none) :
    ending = none ∧ (guard.accept ending earlier records).1 = records := by
  obtain ⟨rest, split, -, next⟩ := guard.exists_split ending earlier records
  cases rest with
  | nil =>
      rw [List.append_nil] at split
      exact ⟨next.symm.trans whole, split.symm⟩
  | cons record rest => exact absurd whole next.2

/-- A stream comes through whole if the guard stops none of its records. -/
theorem accept_eq_none_iff (earlier records : List Record) :
    (guard.accept none earlier records).2 = none ↔
      ∀ before record after, records = before ++ record :: after →
        guard (earlier ++ before) record = none := by
  obtain ⟨rest, split, passed, next⟩ := guard.exists_split none earlier records
  constructor
  · intro whole before record after decomposition
    exact passed before record after ((ending_of_accept_eq_none whole).2.trans decomposition)
  · intro unstopped
    cases rest with
    | nil => exact next
    | cons record rest => exact absurd (next.1.symm.trans (unstopped _ record rest split)) next.2

/-- A guard that does not ask what came before lets the same records through anywhere. -/
theorem accept_of_forgetful {guard : Guard} (ending : Option Failure)
    (forgetful : ∀ earlier record, guard earlier record = guard [] record)
    (earlier records : List Record) :
    guard.accept ending earlier records = guard.accept ending [] records := by
  induction records generalizing earlier with
  | nil => rfl
  | cons record rest ih =>
      simp only [accept, forgetful earlier record, ih (earlier ++ [record]), ih ([] ++ [record])]

/-- Two guards that answer alike to records that are alike let the same front parts of their
streams through, and the streams end alike. -/
theorem accept_forall₂ {κ : Type} {code : Failure → κ} {same : Record → Record → Prop}
    {first second : Guard}
    (alike : ∀ {earlier others : List Record} {record other : Record},
      List.Forall₂ same earlier others → same record other →
      (second others other).map code = (first earlier record).map code)
    {ending otherEnding : Option Failure} (ends : otherEnding.map code = ending.map code)
    {earlier others : List Record} (before : List.Forall₂ same earlier others)
    {records rest : List Record} (related : List.Forall₂ same records rest) :
    List.Forall₂ same (first.accept ending earlier records).1
        (second.accept otherEnding others rest).1 ∧
      (second.accept otherEnding others rest).2.map code =
        (first.accept ending earlier records).2.map code := by
  induction related generalizing earlier others with
  | nil => exact ⟨.nil, ends⟩
  | @cons record other records rest here _ ih =>
      have answers := alike before here
      simp only [accept]
      cases stopped : first earlier record with
      | some failure =>
          rw [stopped] at answers
          obtain ⟨otherFailure, stoppedAlso, sameCode⟩ := Option.map_eq_some_iff.mp answers
          simp only [stoppedAlso]
          exact ⟨.nil, congrArg some sameCode⟩
      | none =>
          rw [stopped, Option.map_none, Option.map_eq_none_iff] at answers
          obtain ⟨passed, ended⟩ := ih (List.rel_append before (.cons here .nil))
          simp only [answers]
          exact ⟨.cons here passed, ended⟩

/-- A stream that comes through whole is followed by what comes through of the next. -/
theorem accept_append (earlier records more : List Record)
    (whole : (guard.accept none earlier records).2 = none) :
    guard.accept ending earlier (records ++ more) =
      (records ++ (guard.accept ending (earlier ++ records) more).1,
        (guard.accept ending (earlier ++ records) more).2) := by
  induction records generalizing earlier with
  | nil => simp
  | cons record rest ih =>
      cases stopped : guard earlier record with
      | some failure => simp [accept, stopped] at whole
      | none =>
          simp only [accept, stopped] at whole
          simp [accept, stopped, ih (earlier ++ [record]) whole]

/-- A stream is stopped behind records that come through. -/
theorem accept_of_stopped {earlier before : List Record} {record : Record} {failure : Failure}
    (whole : (guard.accept none earlier before).2 = none)
    (stopped : guard (earlier ++ before) record = some failure) (after : List Record) :
    guard.accept ending earlier (before ++ record :: after) = (before, some failure) := by
  rw [accept_append guard ending earlier before _ whole]
  simp only [accept, stopped, List.append_nil]

/-- A stream is stopped at the first of its records that the guard stops. -/
theorem accept_eq_some_iff (earlier records : List Record) (failure : Failure) :
    (guard.accept none earlier records).2 = some failure ↔
      ∃ before record after, records = before ++ record :: after ∧
        (∀ front other behind, before = front ++ other :: behind →
          guard (earlier ++ front) other = none) ∧
        guard (earlier ++ before) record = some failure := by
  constructor
  · intro stopped
    obtain ⟨rest, split, passed, next⟩ := guard.exists_split none earlier records
    cases rest with
    | nil => exact absurd (next.symm.trans stopped) (by simp)
    | cons record rest => exact ⟨_, record, rest, split, passed, next.1.trans stopped⟩
  · rintro ⟨before, record, after, rfl, unstopped, stopped⟩
    have whole := (guard.accept_eq_none_iff earlier before).mpr unstopped
    rw [accept_of_stopped guard none whole stopped]

/-- What stops a stream stops it whatever follows. -/
theorem accept_append_of_stopped {earlier records : List Record} {failure : Failure}
    (stopped : (guard.accept none earlier records).2 = some failure) (more : List Record) :
    guard.accept ending earlier (records ++ more) = guard.accept none earlier records := by
  induction records generalizing earlier with
  | nil => cases stopped
  | cons record rest ih =>
      cases answer : guard earlier record with
      | some refused => simp only [List.cons_append, accept, answer]
      | none =>
          simp only [accept, answer] at stopped
          simp only [List.cons_append, accept, answer, ih stopped]

end Guard

namespace Trace

variable {α : Type}

/-- What a trace holds besides its notes. -/
def content (trace : Trace α) : List α × Option Failure := (trace.items, trace.failure?)

theorem content_withNotes (entries : List Note) (rest : Trace α) :
    (rest.withNotes entries).content = rest.content := by
  induction entries with
  | nil => rfl
  | cons entry entries ih => exact ih

theorem content_item (value : α) (rest : Trace α) :
    (item value rest).content = (value :: rest.content.1, rest.content.2) := rfl

theorem failure?_filter (p : α → Bool) (trace : Trace α) :
    (trace.filter p).failure? = trace.failure? := by
  induction trace with
  | done | failed => rfl
  | note entry rest ih => exact ih
  | item value rest ih =>
      unfold filter
      split
      · exact ih
      · exact ih

end Trace

/-- The trace of a list of records. -/
def Record.inOrder (records : List Record) : Trace Record := Trace.withItems records .done

theorem Record.content_inOrder (records : List Record) :
    (inOrder records).items = records ∧ (inOrder records).failure? = none :=
  ⟨(Trace.items_withItems _ _).trans (List.append_nil _), Trace.failure?_withItems records _⟩

/-- The refusal of a record that repeats the text of an earlier one under a key, if
repeated texts are refused. The first record with the text is cited. -/
def DuplicatePolicy.refusal? (policy : DuplicatePolicy) (key : TextKey) : Guard :=
  fun earlier record =>
    if policy = .reject then
      (record.tracked? key).bind fun value =>
        (earlier.find? fun first => first.tracked? key == some value).map fun first =>
          .ofCause record.span (.duplicate key.property value first.span)
    else none

/-- The text of a record under a key, and the first of earlier records that has it, too. -/
def Record.repeated? (key : TextKey) (earlier : List Record) (record : Record) :
    Option (String × Record) :=
  (record.tracked? key).bind fun value =>
    (earlier.find? fun first => first.tracked? key == some value).map fun first => (value, first)

theorem DuplicatePolicy.refusal?_reject (key : TextKey) (earlier : List Record) (record : Record) :
    reject.refusal? key earlier record = (record.repeated? key earlier).map fun cited =>
      .ofCause record.span (.duplicate key.property cited.1 cited.2.span) := by
  simp only [refusal?, if_true, Record.repeated?, Option.map_bind, Function.comp_def,
    Option.map_map]

theorem DuplicatePolicy.refusal?_of_kept {policy : DuplicatePolicy} (kept : policy ≠ .reject)
    (key : TextKey) : policy.refusal? key = Guard.open_ := by
  funext earlier record
  simp [refusal?, kept, Guard.open_]

theorem DuplicatePolicy.ofKeys_refusal?_of_kept {policy : DuplicatePolicy}
    (kept : policy ≠ .reject) (keys : List TextKey) :
    Guard.ofKeys policy.refusal? keys = Guard.open_ := by
  funext earlier record
  simp [Guard.ofKeys, refusal?_of_kept kept, Guard.open_]

/-- The warning of a record that repeats the text of an earlier one under a key, if repeated
texts are warned of. -/
def DuplicatePolicy.warning? (policy : DuplicatePolicy) (key : TextKey) (earlier : List Record)
    (record : Record) : Option Note :=
  if policy = .warn then
    (record.repeated? key earlier).map fun cited =>
      Record.duplicateNote key record cited.1 cited.2.span
  else none

namespace Record

/-- The texts that a check has seen are those of the records before, each with the span
of its first record. -/
def Recalls (key : TextKey) (seen : List (String × Span)) (earlier : List Record) : Prop :=
  ∀ value, seen.lookup value =
    (earlier.find? fun first => first.tracked? key == some value).map Record.span

variable {key : TextKey} {seen : List (String × Span)} {earlier : List Record}

theorem Recalls.untracked (recalls : Recalls key seen earlier) {record : Record}
    (untracked : record.tracked? key = none) : Recalls key seen (earlier ++ [record]) := by
  intro value
  rw [recalls value, List.find?_append]
  simp [untracked]

theorem Recalls.repeated (recalls : Recalls key seen earlier) {record : Record} {value : String}
    {first : Span} (tracked : record.tracked? key = some value)
    (known : seen.lookup value = some first) : Recalls key seen (earlier ++ [record]) := by
  intro other
  rw [recalls other, List.find?_append]
  cases found : earlier.find? fun first => first.tracked? key == some other with
  | some cited => rfl
  | none =>
      have differs : value ≠ other := by
        intro same
        rw [same, recalls other, found] at known
        cases known
      simp [tracked, differs]

theorem Recalls.fresh (recalls : Recalls key seen earlier) {record : Record} {value : String}
    (tracked : record.tracked? key = some value) (unknown : seen.lookup value = none) :
    Recalls key ((value, record.span) :: seen) (earlier ++ [record]) := by
  intro other
  rw [List.lookup_cons, List.find?_append]
  by_cases same : other = value
  · subst same
    have absent := (recalls other).symm.trans unknown
    rw [Option.map_eq_none_iff] at absent
    simp [tracked, absent]
  · have differs : (value == other) = false :=
      beq_eq_false_iff_ne.mpr fun equal => same equal.symm
    simp [tracked, beq_eq_false_iff_ne.mpr same, differs, recalls other]

/-- What a check does with a record that comes after others: it refuses the record, or it
passes the record on behind its warning, and recalls it from then on. -/
theorem checkDuplicatesFrom_item (policy : DuplicatePolicy)
    (recalls : policy ≠ .allow → Recalls key seen earlier) (record : Record) :
    (∃ failure, policy.refusal? key earlier record = some failure ∧
      ∀ rest, checkDuplicatesFrom key policy seen (.item record rest) = .failed failure) ∨
    (policy.refusal? key earlier record = none ∧
      ∃ seenNow, (policy ≠ .allow → Recalls key seenNow (earlier ++ [record])) ∧
        ∀ rest, checkDuplicatesFrom key policy seen (.item record rest) =
          (Trace.item record (checkDuplicatesFrom key policy seenNow rest)).withNotes
            (policy.warning? key earlier record).toList) := by
  cases tracked : record.tracked? key with
  | none =>
      have unrepeated : record.repeated? key earlier = none := by simp [repeated?, tracked]
      refine .inr ⟨by simp [DuplicatePolicy.refusal?, tracked], seen, ?_, fun rest => ?_⟩
      · exact fun tracking => (recalls tracking).untracked tracked
      · cases policy <;>
          simp [checkDuplicatesFrom, tracked, DuplicatePolicy.warning?, unrepeated,
            Trace.withNotes]
  | some value =>
      by_cases allowed : policy = .allow
      · subst allowed
        refine .inr ⟨rfl, seen, fun tracking => absurd rfl tracking, fun rest => ?_⟩
        simp [checkDuplicatesFrom, DuplicatePolicy.warning?, Trace.withNotes]
      · have cited := recalls allowed value
        have repeatedText : record.repeated? key earlier =
            (earlier.find? fun first => first.tracked? key == some value).map fun first =>
              (value, first) := by simp [repeated?, tracked]
        cases found : earlier.find? fun first => first.tracked? key == some value with
        | none =>
            rw [found, Option.map_none] at cited repeatedText
            refine .inr ⟨by simp [DuplicatePolicy.refusal?, tracked, found],
              (value, record.span) :: seen, ?_, fun rest => ?_⟩
            · exact fun tracking => (recalls tracking).fresh tracked cited
            · cases policy with
              | allow => exact absurd rfl allowed
              | warn | reject =>
                  simp [checkDuplicatesFrom, tracked, cited, DuplicatePolicy.warning?, repeatedText,
                    Trace.withNotes]
        | some first =>
            rw [found, Option.map_some] at cited repeatedText
            cases policy with
            | allow => exact absurd rfl allowed
            | warn =>
                refine .inr ⟨rfl, seen, ?_, fun rest => ?_⟩
                · exact fun tracking => (recalls tracking).repeated tracked cited
                · simp [checkDuplicatesFrom, tracked, cited, DuplicatePolicy.warning?, repeatedText,
                    Trace.withNotes]
            | reject =>
                refine .inl ⟨_, by simp [DuplicatePolicy.refusal?, tracked, found]; rfl,
                  fun rest => ?_⟩
                simp [checkDuplicatesFrom, tracked, cited]

/-- A check that recalls the records before lets through what its refusals do. -/
theorem content_checkDuplicatesFrom (policy : DuplicatePolicy) (records : Trace Record)
    (recalls : policy ≠ .allow → Recalls key seen earlier) :
    (checkDuplicatesFrom key policy seen records).content =
      (policy.refusal? key).accept records.failure? earlier records.items := by
  induction records generalizing seen earlier with
  | done => rfl
  | failed failure => rfl
  | note entry rest ih => exact ih recalls
  | item record rest ih =>
      obtain ⟨failure, refused, stops⟩ | ⟨passed, seenNow, recallsNow, goesOn⟩ :=
        checkDuplicatesFrom_item policy recalls record
      · rw [stops]
        simp only [Trace.items, Guard.accept, refused]
        rfl
      · rw [goesOn, Trace.content_withNotes, Trace.content_item, ih recallsNow]
        simp only [Trace.items, Trace.failure?, Guard.accept, passed]

theorem content_checkDuplicates (key : TextKey) (policy : DuplicatePolicy)
    (records : Trace Record) :
    (checkDuplicates key policy records).content =
      (policy.refusal? key).accept records.failure? [] records.items :=
  content_checkDuplicatesFrom policy records fun _ value => by simp

/-- Checks for several keys let through what the refusals of all keys do, asked in the
order of the keys. -/
theorem content_checkAll (keys : List TextKey) (policy : DuplicatePolicy)
    (records : Trace Record) :
    (checkAll keys policy records).content =
      (Guard.ofKeys policy.refusal? keys).accept records.failure? [] records.items := by
  unfold checkAll
  induction keys generalizing records with
  | nil => exact (Guard.accept_open _ _ _).symm
  | cons key keys ih =>
      have first := content_checkDuplicates key policy records
      have items : (checkDuplicates key policy records).items = _ := congrArg Prod.fst first
      have failure : (checkDuplicates key policy records).failure? = _ := congrArg Prod.snd first
      rw [List.foldl_cons, ih, items, failure, Guard.accept_accept, Guard.ofKeys_cons]

end Record

end InstructionSet
