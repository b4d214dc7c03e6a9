import Mathlib.Data.List.DropRight
import Mathlib.Data.List.Forall2
import InstructionSet.Proofs.Admission
import InstructionSet.Proofs.ArtifactRows

/-!
# Emission

A pass writes its chunks one record at a time. Between two records its printer holds
no text and stands at the left margin, however the last record left it, so what a
record contributes is what it contributes alone.
-/

set_option autoImplicit false

namespace InstructionSet

/-- A printer between two records. Blocks that are still open do not matter. -/
structure Printer.Idle (unit : String) (printer : Printer) : Prop where
  sameUnit : printer.unit = unit
  nothingPending : printer.pending = ""
  atMargin : printer.level = 0

namespace Printer

variable {unit : String} {printer : Printer}

/-- An idle printer writes the rows of a layout at the left margin, whatever was written
before, and is idle again after a flush. -/
theorem Idle.run_flush (idle : printer.Idle unit) (layout : Layout) :
    (printer.run layout).2 = layout.failure? ∧
      (printer.run layout).1.flush.1 = Row.renderAll unit (layout.sheet 0).rows ∧
      (printer.run layout).1.flush.2.Idle unit := by
  obtain ⟨sameUnit, nothingPending, atMargin⟩ := idle
  rw [run_eq]
  refine ⟨?_, ?_, ?_⟩
  · exact Layout.sheet_failure? layout _
  · simp [flush, after, sameUnit, nothingPending, atMargin]
  · exact ⟨sameUnit, rfl, rfl⟩

end Printer

namespace Pass

variable (pass : Pass)

theorem idle_printer : pass.printer.Idle pass.config.indent := ⟨rfl, rfl, rfl⟩

/-- What a record contributes when it is written alone, with a printer of its own. -/
def writtenAlone (record : Record) : Except Failure String :=
  match pass.printer.run (pass.layout record) with
  | (printer, none) => .ok printer.flush.1
  | (_, some failure) => .error failure

/-- The chunk of a layout written alone, unless it is empty. -/
def chunkAlone (layout : Layout) : List String :=
  let text := (pass.printer.run layout).1.flush.1
  if text.isEmpty then [] else [text]

def front : List String := pass.chunkAlone pass.prologue

def back : List String := pass.chunkAlone pass.epilogue

/-- The chunks behind the records, which a failure leaves out. -/
def closing : Option Failure → List String
  | none => pass.back
  | some _ => []

def recordChunks (records : Trace Record) : List String :=
  ((pass.emit records).items.drop pass.front.length).rdrop
    (pass.closing (pass.emit records).failure?).length

def text (record : Record) : String :=
  Row.renderAll pass.config.indent ((pass.layout record).sheet 0).rows

theorem chunkAlone_eq (layout : Layout) :
    pass.chunkAlone layout =
      let text := Row.renderAll pass.config.indent (layout.sheet 0).rows
      if text.isEmpty then [] else [text] := by
  rw [chunkAlone, (pass.idle_printer.run_flush layout).2.1]

theorem content_chunk (text : String) (rest : Trace String) :
    (chunk text rest).content =
      ((if text.isEmpty then [] else [text]) ++ rest.content.1, rest.content.2) := by
  unfold chunk
  split <;> rfl

theorem failure?_chunk (text : String) (rest : Trace String) :
    (chunk text rest).failure? = rest.failure? :=
  congrArg Prod.snd (content_chunk text rest)

/-- What a pass writes for one record. -/
def written (record : Record) : Trace String :=
  match (pass.layout record).failure? with
  | some failure => .failed failure
  | none => .item (pass.text record) .done

/-- What a pass writes behind the last of its records. -/
def finish (count : Nat) : Trace String :=
  chunk (Row.renderAll pass.config.indent (pass.epilogue.sheet 0).rows)
    (.note (pass.summary count) .done)

variable {pass}

theorem failure?_finish (count : Nat) : (pass.finish count).failure? = none := by
  unfold finish chunk
  split <;> rfl

theorem items_finish (count : Nat) : (pass.finish count).items = pass.back := by
  rw [back, chunkAlone_eq]
  exact (congrArg Prod.fst (content_chunk _ _)).trans (List.append_nil _)

/-- A pass writes its records one by one and then what stands behind them. -/
theorem emitRecords_eq (count : Nat) (records : Trace Record) {printer : Printer}
    (idle : printer.Idle pass.config.indent) :
    (pass.emitRecords count records printer).1 =
      records.flatMap pass.written ++ pass.finish (count + records.items.length) := by
  induction records generalizing count printer with
  | done =>
      obtain ⟨-, text, -⟩ := idle.run_flush pass.epilogue
      simp only [emitRecords, text]
      rfl
  | failed failure => rfl
  | note entry rest ih => exact congrArg (Trace.note entry) (ih count idle)
  | item record rest ih =>
      obtain ⟨failure, text, idleAgain⟩ := idle.run_flush (pass.layout record)
      cases run : printer.run (pass.layout record) with
      | mk after failure? =>
          rw [run] at failure text idleAgain
          have split : (Trace.item record rest).flatMap pass.written =
              pass.written record ++ rest.flatMap pass.written := rfl
          rw [split, Trace.append_assoc, written, ← failure]
          cases failure? with
          | some failure => simp only [emitRecords, run]; rfl
          | none =>
              have number : count + (rest.items.length + 1) = count + 1 + rest.items.length := by
                omega
              simp only [emitRecords, run, ih (count + 1) idleAgain, text, Trace.items,
                List.length_cons, number]
              rfl

end Pass

/-- The reason why an artifact stops at a record that comes after others: a repeated
identifier, or something that the record lacks. -/
def Artifact.stop? (artifact : Artifact) (duplicates : DuplicatePolicy) : Guard :=
  (Guard.ofKeys duplicates.refusal? artifact.uniqueKeys).orElse fun _ record =>
    artifact.lacks? record

theorem Artifact.complete_of_mem_accept {artifact : Artifact} {duplicates : DuplicatePolicy}
    {ending : Option Failure} {records : List Record} {record : Record}
    (member : record ∈ ((artifact.stop? duplicates).accept ending [] records).1) :
    artifact.lacks? record = none := by
  obtain ⟨_, -, passed, -⟩ := (artifact.stop? duplicates).exists_split ending [] records
  obtain ⟨before, after, decomposition⟩ := List.append_of_mem member
  exact (Option.or_eq_none_iff.mp (passed before record after decomposition)).2

namespace Pass

variable {pass : Pass} {artifact : Artifact} (writes : pass.artifact = some artifact)

include writes

theorem selects_eq : pass.selects = artifact.selects := by
  funext record
  simp only [Pass.selects, writes]

theorem uniqueKeys_eq : pass.uniqueKeys = artifact.uniqueKeys := by
  simp only [uniqueKeys, writes]

/-- A record that lacks nothing is written as its text, which ends a line. -/
theorem writtenAlone_of_complete {record : Record} (complete : artifact.lacks? record = none) :
    pass.writtenAlone record = .ok (pass.text record) ∧
      ∃ front, pass.text record = front ++ "\n" := by
  obtain ⟨failure, written, -⟩ := pass.idle_printer.run_flush (pass.layout record)
  rw [layout_failure? writes, complete] at failure
  refine ⟨?_, Row.exists_renderAll_eq_append_lineFeed _ (rows_ne_nil writes complete)⟩
  unfold writtenAlone
  cases run : pass.printer.run (pass.layout record) with
  | mk printer failure? =>
      rw [run] at failure written
      subst failure
      exact congrArg Except.ok written

theorem content_flatMap_written (earlier : List Record) (records : Trace Record) :
    let accepted := Guard.accept (fun _ record => artifact.lacks? record) records.failure? earlier
      records.items
    (records.flatMap pass.written).content = (accepted.1.map pass.text, accepted.2) := by
  induction records generalizing earlier with
  | done | failed => rfl
  | note entry rest ih => exact ih earlier
  | item record rest ih =>
      have split : (Trace.item record rest).flatMap pass.written =
          pass.written record ++ rest.flatMap pass.written := rfl
      rw [split, written, layout_failure? writes]
      cases lacking : artifact.lacks? record with
      | some missing =>
          simp only [Trace.items, Guard.accept, lacking]
          rfl
      | none =>
          simp only [Trace.items, Trace.failure?, Guard.accept, lacking]
          exact congrArg (fun content => (pass.text record :: content.1, content.2))
            (ih (earlier ++ [record]))

/-- The records written are those that lack nothing, up to the first that lacks
something. -/
theorem content_emitRecords (count : Nat) (earlier : List Record) (records : Trace Record)
    {printer : Printer} (idle : printer.Idle pass.config.indent) :
    let accepted := Guard.accept (fun _ record => artifact.lacks? record) records.failure? earlier
      records.items
    (pass.emitRecords count records printer).1.content =
      (accepted.1.map pass.text ++ pass.closing accepted.2, accepted.2) := by
  intro accepted
  have content := content_flatMap_written writes earlier records
  simp only [Trace.content, Prod.mk.injEq] at content
  obtain ⟨items, failure⟩ := content
  rw [emitRecords_eq count records idle]
  cases ended : accepted.2 with
  | none =>
      have complete := failure.trans ended
      rw [Trace.content, Trace.items_append_of_failure?_eq_none _ complete, items, items_finish,
        Trace.failure?_append, complete, failure?_finish]
      rfl
  | some missing =>
      have stopped := failure.trans ended
      rw [Trace.append_of_failure?_isSome _ (by rw [stopped]; rfl), Trace.content, items, stopped]
      simp only [closing, List.append_nil]
      rfl

/-- The chunks of a pass: those of the records that nothing stops, between what stands in
front and, if nothing stopped them, what stands behind. -/
theorem content_emit (records : Trace Record) :
    let accepted := (artifact.stop? pass.duplicates).accept records.failure? []
      (records.items.filter artifact.selects)
    (pass.emit records).content =
      (pass.front ++ accepted.1.map pass.text ++ pass.closing accepted.2,
        accepted.2) := by
  have checked : (pass.checked records).content =
      (Guard.ofKeys pass.duplicates.refusal? artifact.uniqueKeys).accept records.failure? []
        (records.items.filter artifact.selects) := by
    rw [Pass.checked, Record.content_checkAll, Trace.items_filter, Trace.failure?_filter,
      uniqueKeys_eq writes, selects_eq writes]
  have items : (pass.checked records).items = _ := congrArg Prod.fst checked
  have failure : (pass.checked records).failure? = _ := congrArg Prod.snd checked
  obtain ⟨-, written, idle⟩ := pass.idle_printer.run_flush pass.prologue
  have emitted := content_emitRecords writes 0 [] (pass.checked records) idle
  simp only [items, failure, Guard.accept_accept] at emitted
  have fresh : pass.printer.flush.2 = pass.printer := rfl
  simp only [emit, emitWith, fresh, content_chunk, emitted]
  simp [front, chunkAlone, Artifact.stop?]

theorem items_emit (records : Trace Record) :
    (pass.emit records).items =
      pass.front ++
        ((artifact.stop? pass.duplicates).accept records.failure? []
          (records.items.filter artifact.selects)).1.map pass.text ++
        pass.closing (pass.emit records).failure? := by
  have emitted := content_emit writes records
  have failure : (pass.emit records).failure? = _ := congrArg Prod.snd emitted
  rw [failure]
  exact congrArg Prod.fst emitted

theorem failure?_emit (records : Trace Record) :
    (pass.emit records).failure? =
      ((artifact.stop? pass.duplicates).accept records.failure? []
        (records.items.filter artifact.selects)).2 :=
  congrArg Prod.snd (content_emit writes records)

theorem failure?_emit_inOrder (records : List Record) :
    (pass.emit (Record.inOrder records)).failure? =
      ((artifact.stop? pass.duplicates).accept none [] (records.filter artifact.selects)).2 := by
  obtain ⟨items, complete⟩ := Record.content_inOrder records
  rw [failure?_emit writes, items, complete]

theorem items_emit_of_ne (enclosed : artifact ≠ .opcodeType) (records : Trace Record) :
    (pass.emit records).items =
      ((artifact.stop? pass.duplicates).accept records.failure? []
        (records.items.filter artifact.selects)).1.map pass.text := by
  have front : pass.front = [] := by
    unfold front prologue
    cases artifact <;> first | contradiction | rw [writes]; rfl
  have back : pass.back = [] := by
    unfold back epilogue
    cases artifact <;> first | contradiction | rw [writes]; rfl
  have closing (failure? : Option Failure) : pass.closing failure? = [] := by
    cases failure? with
    | none => exact back
    | some failure => rfl
  rw [items_emit writes, front, closing, List.nil_append, List.append_nil]

/-- Every record that is accepted is written as its text. -/
theorem forall₂_writtenAlone (duplicates : DuplicatePolicy) (ending : Option Failure)
    (records : List Record) :
    let accepted := ((artifact.stop? duplicates).accept ending [] records).1
    List.Forall₂
      (fun record chunk => pass.writtenAlone record = .ok chunk ∧ ∃ line, chunk = line ++ "\n")
      accepted (accepted.map pass.text) := by
  intro accepted
  rw [List.forall₂_map_right_iff, List.forall₂_same]
  intro record member
  exact writtenAlone_of_complete writes (Artifact.complete_of_mem_accept member)

theorem forall₂_items (enclosed : artifact ≠ .opcodeType) (records : Trace Record) :
    List.Forall₂ (fun record chunk => pass.writtenAlone record = .ok chunk)
      ((artifact.stop? pass.duplicates).accept records.failure? []
        (records.items.filter artifact.selects)).1 (pass.emit records).items := by
  rw [items_emit_of_ne writes enclosed]
  exact (forall₂_writtenAlone writes pass.duplicates _ _).imp fun _ _ written => written.1

/-- A pass that nothing stops writes every record that it selects. -/
theorem items_emit_of_finished (enclosed : artifact ≠ .opcodeType) {records : Trace Record}
    (finished : (pass.emit records).failure? = none) :
    (pass.emit records).items = (records.items.filter artifact.selects).map pass.text ∧
      ∀ record ∈ records.items.filter artifact.selects, artifact.lacks? record = none := by
  rw [failure?_emit writes] at finished
  have whole := (Guard.ending_of_accept_eq_none finished).2
  refine ⟨?_, ?_⟩
  · rw [items_emit_of_ne writes enclosed, whole]
  · intro record member
    rw [← whole] at member
    exact Artifact.complete_of_mem_accept member

theorem recordChunks_eq (records : Trace Record) :
    pass.recordChunks records =
      ((artifact.stop? pass.duplicates).accept records.failure? []
        (records.items.filter artifact.selects)).1.map pass.text := by
  unfold recordChunks
  rw [items_emit writes, List.append_assoc, List.drop_left, List.rdrop_append_length]

end Pass

theorem Artifact.stop?_of_kept (artifact : Artifact) {duplicates : DuplicatePolicy}
    (kept : duplicates ≠ .reject) (earlier : List Record) (record : Record) :
    artifact.stop? duplicates earlier record = artifact.lacks? record := by
  have unrefused (keys : List TextKey) :
      Guard.ofKeys duplicates.refusal? keys earlier record = none := by
    simp [Guard.ofKeys, DuplicatePolicy.refusal?, kept]
  simp [Artifact.stop?, Guard.orElse, unrefused]

/-- While repeated identifiers are kept, no record depends on an earlier one, and the
chunks of two streams in a row are those of the one and then those of the other. -/
theorem Pass.recordChunks_append {pass : Pass} {artifact : Artifact}
    (writes : pass.artifact = some artifact) (kept : pass.duplicates ≠ .reject)
    {records : Trace Record} (finished : (pass.emit records).failure? = none)
    (more : Trace Record) :
    pass.recordChunks (records ++ more) =
      pass.recordChunks records ++ pass.recordChunks more := by
  have forgetful (earlier : List Record) (record : Record) :
      artifact.stop? pass.duplicates earlier record =
        artifact.stop? pass.duplicates [] record := by
    rw [artifact.stop?_of_kept kept, artifact.stop?_of_kept kept]
  rw [failure?_emit writes] at finished
  obtain ⟨complete, whole⟩ := Guard.ending_of_accept_eq_none finished
  rw [complete] at finished
  rw [recordChunks_eq writes, recordChunks_eq writes, recordChunks_eq writes, whole,
    Trace.items_append_of_failure?_eq_none more complete, Trace.failure?_append, complete,
    Option.none_or, List.filter_append, Guard.accept_append _ _ _ _ _ finished,
    Guard.accept_of_forgetful _ forgetful, List.map_append]

/-- The chunks of a pass are those that its records contribute one by one, each written
alone, between the chunks in front and behind. The first failure, of the stream or of a
record, ends them without a trace of the record that failed and without the chunks
behind. So while repeated identifiers are kept, the chunks of two streams in a row are
those of the one and then those of the other. -/
theorem emit_record_by_record (artifact : Artifact) (config : Config)
    (duplicates : DuplicatePolicy) (rules : RuleTable) (records : Trace Record) :
    let pass : Pass := { artifact := some artifact, config, duplicates, rules }
    (∃ written rest chunks,
      records.items.filter artifact.selects = written ++ rest ∧
      (∀ before record after, written = before ++ record :: after →
        artifact.stop? duplicates before record = none) ∧
      List.Forall₂ (fun record chunk =>
        pass.writtenAlone record = .ok chunk ∧ ∃ line, chunk = line ++ "\n") written chunks ∧
      (pass.emit records).items =
        pass.front ++ chunks ++ pass.closing (pass.emit records).failure? ∧
      match rest with
      | [] => (pass.emit records).failure? = records.failure?
      | record :: _ =>
          (pass.emit records).failure? = artifact.stop? duplicates written record ∧
            artifact.stop? duplicates written record ≠ none) ∧
    (duplicates ≠ .reject → (pass.emit records).failure? = none → ∀ more : Trace Record,
      pass.recordChunks (records ++ more) =
        pass.recordChunks records ++ pass.recordChunks more) := by
  intro pass
  have writes : pass.artifact = some artifact := rfl
  have failure : (pass.emit records).failure? = _ := Pass.failure?_emit writes records
  refine ⟨?_, fun kept finished more => Pass.recordChunks_append writes kept finished more⟩
  obtain ⟨rest, split, passed, next⟩ :=
    (artifact.stop? duplicates).exists_split records.failure? []
      (records.items.filter artifact.selects)
  refine ⟨_, rest, _, split, by simpa using passed, ?_, Pass.items_emit writes records, ?_⟩
  · exact Pass.forall₂_writtenAlone writes duplicates _ _
  · cases rest with
    | nil => exact failure.trans next
    | cons record rest =>
        obtain ⟨stopped, failed⟩ := next
        rw [List.nil_append] at stopped
        exact ⟨failure.trans stopped.symm, stopped ▸ failed⟩

end InstructionSet
