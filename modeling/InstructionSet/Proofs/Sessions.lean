import InstructionSet.Proofs.Emission

/-!
# Passes that are used again

A pass keeps its printer between uses. Records may be written one by one behind an emission or in
front of it, and any use may stop in its middle and leave text and indentation behind. An emission
starts from a flush, and the checks for repeated identifiers start with it, so it does what it does
for a pass that has never been used.

`stages` are the printers that a use leads through. A pass reaches every stage of every use, since
a use may stop there and another one may follow.
-/

set_option autoImplicit false

namespace InstructionSet

namespace Printer

/-- The printers that a layout leads through, the last of which it leaves behind. -/
def stages : Layout → Printer → List Printer
  | .nothing, _ | .stop _, _ => []
  | .line text, printer => [printer.emit text]
  | .blank count, printer => [printer.blank count]
  | .fragment text, printer => [printer.fragment text]
  | .indent levels, printer => [printer.indent levels]
  | .dedent levels, printer => [printer.dedent levels]
  | .block header levels body, printer =>
      let inside := printer.enter header levels
      printer.emit header :: inside :: stages body inside ++ [(inside.run body).1.leave]
  | .andThen first second, printer =>
      stages first printer ++
        match printer.run first with
        | (_, some _) => []
        | (after, none) => stages second after

theorem run_mem_stages (layout : Layout) (printer : Printer) :
    (printer.run layout).1 ∈ printer :: printer.stages layout := by
  induction layout generalizing printer with
  | nothing | stop failure => exact List.mem_cons_self
  | line | blank | fragment | indent | dedent => exact List.mem_cons_of_mem _ List.mem_cons_self
  | block header levels body ih => simp [run, stages]
  | andThen first second firstIH secondIH =>
      have reached := firstIH printer
      unfold run stages
      cases ran : printer.run first with
      | mk after failure? =>
          rw [ran] at reached
          cases failure? with
          | some failure => simpa using reached
          | none =>
              -- The second layout leaves off where it begins, or behind one of its own stages.
              rcases List.mem_cons.mp (secondIH after) with same | later
              · simp only [same]
                rcases List.mem_cons.mp reached with rfl | earlier
                · exact List.mem_cons_self
                · exact List.mem_cons_of_mem _ (List.mem_append_left _ earlier)
              · exact List.mem_cons_of_mem _ (List.mem_append_right _ later)

/-- A printer with its own unit of indentation that stands at the left margin or right of it. -/
structure Upright (unit : String) (printer : Printer) : Prop where
  sameUnit : printer.unit = unit
  inside : 0 ≤ printer.level

namespace Upright

variable {unit : String} {printer : Printer} (upright : printer.Upright unit)

include upright

theorem emit (text : String) : (printer.emit text).Upright unit := by
  rw [emit_eq]
  exact ⟨upright.sameUnit, upright.inside⟩

theorem indent {levels : Int} (inward : 0 ≤ levels) : (printer.indent levels).Upright unit :=
  ⟨upright.sameUnit, Int.add_nonneg upright.inside inward⟩

theorem dedent (levels : Int) : (printer.dedent levels).Upright unit :=
  ⟨upright.sameUnit, Int.le_max_left _ _⟩

theorem enter (header : String) {levels : Int} (inward : 0 ≤ levels) :
    (printer.enter header levels).Upright unit := by
  obtain ⟨sameUnit, inside⟩ := (upright.emit header).indent inward
  exact ⟨sameUnit, inside⟩

theorem leave : printer.leave.Upright unit := by
  unfold Printer.leave
  split
  · exact upright
  · exact ⟨upright.sameUnit, Int.le_max_left _ _⟩

theorem flush : printer.flush.2.Upright unit := ⟨upright.sameUnit, Int.le_refl 0⟩

end Upright

end Printer

/-! ## Layouts that go inward -/

namespace Layout

/-- No step of indentation leads outward but those that leave a level. -/
def Inward : Layout → Prop
  | .nothing | .line _ | .blank _ | .fragment _ | .dedent _ | .stop _ => True
  | .indent levels => 0 ≤ levels
  | .block _ levels body => 0 ≤ levels ∧ body.Inward
  | .andThen first second => first.Inward ∧ second.Inward

@[simp] theorem inward_append (first second : Layout) :
    (first ++ second).Inward ↔ first.Inward ∧ second.Inward := Iff.rfl

@[simp] theorem inward_lineAt (depth : Nat) (text : String) : (lineAt depth text).Inward := by
  simp [lineAt, Inward]

@[simp] theorem inward_lines (texts : List String) : (lines texts).Inward := by
  induction texts with
  | nil => trivial
  | cons text texts ih => exact ⟨trivial, ih⟩

theorem inward_withValue {α : Type} (value : Except Failure α) {next : α → Layout}
    (inward : ∀ value, (next value).Inward) : (withValue value next).Inward := by
  cases value with
  | error failure => trivial
  | ok value => exact inward value

end Layout

theorem Printer.Upright.of_mem_stages {unit : String} {printer stage : Printer} {layout : Layout}
    (upright : printer.Upright unit) (inward : layout.Inward)
    (member : stage ∈ printer.stages layout) : stage.Upright unit := by
  induction layout generalizing printer stage with
  | nothing | stop failure => cases member
  | line text => exact List.mem_singleton.mp member ▸ upright.emit text
  | blank | fragment =>
      exact List.mem_singleton.mp member ▸ ⟨upright.sameUnit, upright.inside⟩
  | indent levels => exact List.mem_singleton.mp member ▸ upright.indent inward
  | dedent levels => exact List.mem_singleton.mp member ▸ upright.dedent levels
  | block header levels body ih =>
      have entered := upright.enter header inward.1
      simp only [stages, List.cons_append, List.mem_cons, List.mem_append, List.not_mem_nil,
        or_false] at member
      obtain rfl | rfl | inner | rfl := member
      · exact upright.emit header
      · exact entered
      · exact ih entered inward.2 inner
      · rcases List.mem_cons.mp (run_mem_stages body (printer.enter header levels)) with same | inner
        · rw [same]
          exact entered.leave
        · exact (ih entered inward.2 inner).leave
  | andThen first second firstIH secondIH =>
      simp only [stages] at member
      rcases List.mem_append.mp member with earlier | later
      · exact firstIH upright inward.1 earlier
      · cases ran : printer.run first with
        | mk after failure? =>
            rw [ran] at later
            cases failure? with
            | some failure => cases later
            | none =>
                have reached := run_mem_stages first printer
                rw [ran] at reached
                rcases List.mem_cons.mp reached with rfl | inner
                · exact secondIH upright inward.2 later
                · exact secondIH (firstIH upright inward.1 inner) inward.2 later

theorem Printer.Upright.run {unit : String} {printer : Printer} {layout : Layout}
    (upright : printer.Upright unit) (inward : layout.Inward) :
    (printer.run layout).1.Upright unit := by
  rcases List.mem_cons.mp (run_mem_stages layout printer) with same | inner
  · rw [same]
    exact upright
  · exact upright.of_mem_stages inward inner

namespace Pass

variable (pass : Pass)

theorem inward_prologue : pass.prologue.Inward := by
  unfold prologue
  split <;> trivial

theorem inward_epilogue : pass.epilogue.Inward := by
  unfold epilogue
  split
  · exact Layout.inward_lineAt _ _
  · trivial

theorem inward_layout (record : Record) : (pass.layout record).Inward := by
  unfold layout
  cases pass.artifact with
  | none => trivial
  | some artifact =>
      cases artifact with
      | dispatch =>
          have opening (patterns : List String) :
              (Dispatch.opening pass.config patterns).Inward := by
            unfold Dispatch.opening
            split <;> simp [Layout.Inward]
          have mismatch (opcode : String) (patterns : List String) :
              (Dispatch.mismatch pass.config opcode patterns).Inward := by
            unfold Dispatch.mismatch
            split <;> trivial
          have spliced : (Dispatch.spliced record .code).Inward :=
            Layout.inward_withValue _ fun _ => trivial
          have body : (Dispatch.body pass.config record).Inward := by
            unfold Dispatch.body
            split <;> simp [Layout.Inward, spliced]
          refine Layout.inward_withValue _ fun opcode => ?_
          simp [Layout.Inward, opening, mismatch, body]
      | opcodeType =>
          refine Layout.inward_withValue _ fun opcode => ?_
          simp only [Layout.inward_append, Layout.inward_lineAt, true_and]
          constructor
          · split <;> simp [Layout.Inward]
          · split <;> simp [Layout.Inward]
      | interpreter =>
          have body : (Layout.withValue record.interpBody .fragment).Inward :=
            Layout.inward_withValue _ fun _ => trivial
          refine Layout.inward_withValue _ fun node => ?_
          simp [Layout.Inward, body]
      | primitiveTable =>
          refine Layout.inward_withValue _ fun wrapper => ?_
          refine Layout.inward_withValue _ fun signature => ?_
          simp [Layout.Inward]
      | nodeType =>
          refine Layout.inward_withValue _ fun node => ?_
          exact Layout.inward_lineAt _ _
      | lowering =>
          refine Layout.inward_withValue _ fun node => ?_
          refine Layout.inward_withValue _ fun opcode => ?_
          simp [Layout.Inward]

/-! ## Uses -/

/-- What a pass may be used for: an emission, or a part of one. -/
inductive Use where
  | emission (records : Trace Record)
  | record (written : Record)
  | prologue
  | epilogue
  | flush

/-- The printers that records lead through. -/
def recordStages : Trace Record → Printer → List Printer
  | .done, printer =>
      printer.stages pass.epilogue ++ [(printer.run pass.epilogue).1.flush.2]
  | .failed _, _ => []
  | .note _ rest, printer => recordStages rest printer
  | .item record rest, printer =>
      printer.stages (pass.layout record) ++
        match printer.run (pass.layout record) with
        | (_, some _) => []
        | (after, none) => after.flush.2 :: recordStages rest after.flush.2

def emissionStages (records : Trace Record) (printer : Printer) : List Printer :=
  let flushed := printer.flush.2
  let idle := (flushed.run pass.prologue).1.flush.2
  flushed :: flushed.stages pass.prologue ++ idle :: pass.recordStages (pass.checked records) idle

namespace Use

/-- The printer that a use leaves behind. -/
def after : Use → Printer → Printer
  | .emission records, printer => (pass.emitWith records printer).2
  | .record written, printer => (printer.run (pass.layout written)).1
  | .prologue, printer => (printer.run pass.prologue).1
  | .epilogue, printer => (printer.run pass.epilogue).1
  | .flush, printer => printer.flush.2

def stages : Use → Printer → List Printer
  | .emission records, printer => pass.emissionStages records printer
  | .record written, printer => printer.stages (pass.layout written)
  | .prologue, printer => printer.stages pass.prologue
  | .epilogue, printer => printer.stages pass.epilogue
  | .flush, printer => [printer.flush.2]

end Use

/-- The printers that a pass reaches: any use may stop at any of its stages, and another one may
follow. -/
inductive Reached : Printer → Prop where
  | fresh : Reached pass.printer
  | used {printer stage : Printer} (use : Use) :
      Reached printer → stage ∈ use.stages pass printer → Reached stage

variable {pass}

theorem emitRecords_mem_recordStages (count : Nat) (records : Trace Record) (printer : Printer) :
    (pass.emitRecords count records printer).2 ∈ printer :: pass.recordStages records printer := by
  induction records generalizing count printer with
  | done => simp [emitRecords, recordStages]
  | failed failure => exact List.mem_cons_self
  | note entry rest ih => exact ih count printer
  | item record rest ih =>
      have ran := Printer.run_mem_stages (pass.layout record) printer
      unfold emitRecords recordStages
      cases run : printer.run (pass.layout record) with
      | mk after failure? =>
          rw [run] at ran
          cases failure? with
          | some failure => simpa using ran
          | none =>
              have behind := ih (count + 1) after.flush.2
              exact List.mem_cons_of_mem _ (List.mem_append_right _ behind)

theorem Use.after_mem_stages (use : Use) (printer : Printer) :
    use.after pass printer ∈ printer :: use.stages pass printer := by
  cases use with
  | emission records =>
      have ended : _ ∈ _ :: pass.recordStages (pass.checked records) _ :=
        emitRecords_mem_recordStages 0 (pass.checked records)
          (printer.flush.2.run pass.prologue).1.flush.2
      exact List.mem_cons_of_mem _ (List.mem_append_right _ ended)
  | record written => exact Printer.run_mem_stages _ _
  | prologue => exact Printer.run_mem_stages _ _
  | epilogue => exact Printer.run_mem_stages _ _
  | flush => exact List.mem_cons_of_mem _ List.mem_cons_self

theorem Reached.after {printer : Printer} (reached : pass.Reached printer) (use : Use) :
    pass.Reached (use.after pass printer) := by
  have found : use.after pass printer ∈ printer :: use.stages pass printer :=
    use.after_mem_stages printer
  rcases List.mem_cons.mp found with same | member
  · rw [same]
    exact reached
  · exact reached.used use member

section Upright

variable {unit : String} {printer stage : Printer} (upright : printer.Upright unit)

include upright

theorem upright_of_mem_recordStages {records : Trace Record}
    (member : stage ∈ pass.recordStages records printer) : stage.Upright unit := by
  induction records generalizing printer with
  | done =>
      rcases List.mem_append.mp member with inner | last
      · exact upright.of_mem_stages pass.inward_epilogue inner
      · exact List.mem_singleton.mp last ▸ (upright.run pass.inward_epilogue).flush
  | failed failure => cases member
  | note entry rest ih => exact ih upright member
  | item record rest ih =>
      have ran := upright.run (pass.inward_layout record)
      simp only [recordStages] at member
      rcases List.mem_append.mp member with inner | behind
      · exact upright.of_mem_stages (pass.inward_layout record) inner
      · cases run : printer.run (pass.layout record) with
        | mk after failure? =>
            rw [run] at behind ran
            cases failure? with
            | some failure => cases behind
            | none =>
                rcases List.mem_cons.mp behind with rfl | later
                · exact ran.flush
                · exact ih ran.flush later

theorem Use.upright_of_mem_stages {use : Use} (member : stage ∈ use.stages pass printer) :
    stage.Upright unit := by
  cases use with
  | emission records =>
      have idle := (upright.flush.run pass.inward_prologue).flush
      simp only [stages, emissionStages, List.cons_append, List.mem_cons,
        List.mem_append] at member
      obtain rfl | inner | rfl | behind := member
      · exact upright.flush
      · exact upright.flush.of_mem_stages pass.inward_prologue inner
      · exact idle
      · exact upright_of_mem_recordStages idle behind
  | record written => exact upright.of_mem_stages (pass.inward_layout written) member
  | prologue => exact upright.of_mem_stages pass.inward_prologue member
  | epilogue => exact upright.of_mem_stages pass.inward_epilogue member
  | flush => exact List.mem_singleton.mp member ▸ upright.flush

end Upright

theorem Reached.upright {printer : Printer} (reached : pass.Reached printer) :
    printer.Upright pass.config.indent := by
  induction reached with
  | fresh => exact ⟨rfl, Int.le_refl 0⟩
  | used use _ member ih => exact use.upright_of_mem_stages ih member

/-- An emission depends on nothing that the printer holds when it starts. -/
theorem emitWith_eq_emit {printer : Printer} (sameUnit : printer.unit = pass.config.indent)
    (records : Trace Record) : (pass.emitWith records printer).1 = pass.emit records := by
  have flushed : printer.flush.2.Idle pass.config.indent := ⟨sameUnit, rfl, rfl⟩
  have fresh : pass.printer.flush.2 = pass.printer := rfl
  obtain ⟨-, text, idle⟩ := flushed.run_flush pass.prologue
  obtain ⟨-, sameText, idleAlso⟩ := pass.idle_printer.run_flush pass.prologue
  simp only [emit, emitWith, fresh, text, sameText, emitRecords_eq 0 (pass.checked records) idle,
    emitRecords_eq 0 (pass.checked records) idleAlso]

end Pass

/-- Whatever a pass has been used for, and wherever those uses stopped, an emission that follows
has the chunks, the failure and the notes, warnings of repeated identifiers among them, of the
first emission of a fresh pass, and its printer has never left the margin to the left. -/
theorem Pass.emission_of_reached (pass : Pass) :
    (∀ printer, pass.Reached printer →
      0 ≤ printer.level ∧ ∀ records, (pass.emitWith records printer).1 = pass.emit records) ∧
    ∀ history : List Pass.Use,
      pass.Reached (history.foldl (fun printer use => use.after pass printer) pass.printer) := by
  constructor
  · intro printer reached
    exact ⟨reached.upright.inside, Pass.emitWith_eq_emit reached.upright.sameUnit⟩
  · intro history
    suffices ∀ printer, pass.Reached printer →
        pass.Reached (history.foldl (fun printer use => use.after pass printer) printer) from
      this pass.printer .fresh
    induction history with
    | nil => exact fun printer reached => reached
    | cons use history ih => exact fun printer reached => ih _ (reached.after use)

/-- A record without code stops in the middle of its arm, with lines written and levels entered,
and identifiers that were written before may be written again. -/
theorem Pass.emission_of_reached_stopped :
    let pass : Pass := { artifact := some .dispatch, duplicates := .reject }
    let push : Record := { inst := some "Push", code := some "next ()" }
    let history : List Pass.Use :=
      [.emission (.item push (.failed (.unknownKey "op"))), .record { inst := some "Pop" }]
    let printer := history.foldl (fun printer use => use.after pass printer) pass.printer
    (printer.pending, printer.level) = ("  | OpPop ->\n      begin\n            begin\n", 5) ∧
      pass.Reached printer ∧
      (pass.emitWith (.item push .done) printer).1 = pass.emit (.item push .done) := by
  intro pass push history printer
  obtain ⟨same, reaches⟩ := Pass.emission_of_reached pass
  have reached := reaches history
  exact ⟨by decide +kernel, reached, (same _ reached).2 _⟩

end InstructionSet
