import InstructionSet.Proofs.Command.Channels
import InstructionSet.Proofs.Places

/-!
# Generating an artifact

A run that generates an artifact writes what a pass emits for the records of all files in a row, as
far as its channel takes it. A file is opened when the records of the files before it have been
written.
-/

set_option autoImplicit false

namespace InstructionSet.Command

open Text (Pieces)

/-- A command line that asks for an artifact, and the configuration that it gets. -/
structure Generation (arguments : List String) (files : Files) where
  invocation : Invocation
  artifact : Artifact
  duplicates : DuplicatePolicy
  config : Config
  parsed : Invocation.ofArguments arguments = .ok invocation
  mode : invocation.mode = some (.artifact artifact)
  policy : invocation.duplicates = some duplicates
  configured : (Command.config files invocation.config).content = ([config], none)

namespace Generation

variable {arguments : List String} {files : Files} (generation : Generation arguments files)

def pass : Pass :=
  { artifact := some generation.artifact
    config := generation.config
    duplicates := generation.duplicates }

/-- The records of the files, or of the standard input if there are no files. -/
def stream (input : Pieces) : Trace Record := records files input generation.invocation.files

end Generation

theorem config_cases (files : Files) (path : Option String) :
    (∃ value notes, config files path = (Trace.item value .done).withNotes notes) ∨
      ∃ failure, config files path = .failed failure := by
  unfold config
  split
  · exact .inl ⟨{}, [], rfl⟩
  · split
    · exact .inl ⟨{}, [], rfl⟩
    · unfold Config.load
      split
      · exact .inr ⟨_, rfl⟩
      · exact .inl ⟨{}, [_], rfl⟩
      · split
        · exact .inr ⟨_, rfl⟩
        · exact .inl ⟨_, [_], rfl⟩

/-- Nothing comes behind a configuration. -/
theorem config_eq {files : Files} {path : Option String} {loaded : Config}
    (content : (config files path).content = ([loaded], none)) :
    ∃ notes, config files path = (Trace.item loaded .done).withNotes notes := by
  obtain ⟨value, notes, same⟩ | ⟨failure, failed⟩ := config_cases files path
  · rw [same, Trace.content_withNotes] at content
    obtain rfl : value = loaded := List.singleton_inj.mp (congrArg Prod.fst content)
    exact ⟨notes, same⟩
  · rw [failed] at content
    cases content

/-! ## How a run ends -/

def exitCode? (failure : Failure) : Option Nat := (report? failure).map Prod.snd

def Ending.code? : Ending → Option Nat
  | .exit code | .refused code => some code
  | .raised _ => none

/-- The ending of a run that has failed or not. -/
def Ending.after : Option Failure → Ending
  | none => .exit 0
  | some failure =>
      match exitCode? failure with
      | none => .raised failure
      | some code => .exit code

theorem Ending.code?_after (failure? : Option Failure) :
    (after failure?).code? =
      match failure?.map exitCode? with
      | none => some 0
      | some code? => code? := by
  cases failure? with
  | none => rfl
  | some failure => cases code : exitCode? failure <;> simp [after, code, code?]

theorem ending_outcome (time : String) (verbosity : Nat) (written : Trace String) :
    (outcome time verbosity written).ending = .after written.failure? := by
  unfold outcome Ending.after exitCode?
  cases written.failure? with
  | none => rfl
  | some failure => cases reported : report? failure <;> simp [reported]

theorem output_outcome (time : String) (verbosity : Nat) (written : Trace String) :
    (outcome time verbosity written).output = String.join written.items := by
  unfold outcome
  cases written.failure? with
  | none => rfl
  | some failure =>
      simp only
      cases report? failure <;> rfl

section Parsed

variable (channel : Channel) (time : String) {arguments : List String} {files : Files}
variable (input : Pieces) {invocation : Invocation}
variable (parsed : Invocation.ofArguments arguments = .ok invocation)

include parsed

theorem run_of_parsed :
    run channel time arguments files input =
      outcome time invocation.verbosity (channel.through (chunks invocation files input)) := by
  simp only [run, parsed]

/-- A run writes what its channel takes of the texts that it is asked for. -/
theorem output_run_of_parsed :
    (run channel time arguments files input).output =
      String.join (channel.take (chunks invocation files input).content).1 := by
  rw [run_of_parsed channel time input parsed, output_outcome, channel.items_through]

theorem ending_run_of_parsed :
    (run channel time arguments files input).ending =
      .after (channel.take (chunks invocation files input).content).2 := by
  rw [run_of_parsed channel time input parsed, ending_outcome, channel.failure?_through]

end Parsed

theorem exitCode?_of_atRecord {failure : Failure} (atRecord : AtRecord failure) :
    exitCode? failure = some 1 := by
  obtain ⟨span, cause, rfl, noUsage⟩ := atRecord
  cases cause with
  | usage problem => exact absurd rfl (noUsage problem)
  | _ => rfl

theorem exitCode?_diagnostic {diagnostic : Diagnostic}
    (noUsage : isUsage (.diagnostic diagnostic) = false) :
    exitCode? (.diagnostic diagnostic) = some 1 := by
  simp only [isUsage] at noUsage
  simp only [exitCode?, report?]
  cases cause : diagnostic.cause <;> simp_all

namespace Generation

variable {arguments : List String} {files : Files} (generation : Generation arguments files)
variable (input : Pieces)

theorem chunks_eq :
    ∃ notes, chunks generation.invocation files input =
      (generation.pass.emit (generation.stream input)).withNotes notes := by
  obtain ⟨notes, configured⟩ := config_eq generation.configured
  refine ⟨notes, ?_⟩
  simp only [chunks, generation.mode, generation.policy, configured, Trace.flatMap_withNotes]
  exact congrArg (Trace.withNotes notes) (Trace.append_done _)

theorem content_chunks :
    (chunks generation.invocation files input).content =
      (generation.pass.emit (generation.stream input)).content := by
  obtain ⟨notes, same⟩ := generation.chunks_eq input
  rw [same, Trace.content_withNotes]

variable (channel : Channel) (time : String)

theorem output_run :
    (run channel time arguments files input).output =
      String.join (channel.take (generation.pass.emit (generation.stream input)).content).1 := by
  rw [output_run_of_parsed channel time input generation.parsed, generation.content_chunks]

theorem ending_run :
    (run channel time arguments files input).ending =
      .after (channel.take (generation.pass.emit (generation.stream input)).content).2 := by
  rw [ending_run_of_parsed channel time input generation.parsed, generation.content_chunks]

end Generation

/-! ## The order of a run -/

theorem chainedRecords_append (files : Files) (before after : List Path) :
    chainedRecords files (before ++ after) =
      chainedRecords files before ++ chainedRecords files after := by
  induction before with
  | nil => rfl
  | cons path rest ih =>
      rw [List.cons_append, chainedRecords, chainedRecords, ih, Trace.append_assoc]

/-- What a file adds to a run begins with its opening. -/
inductive OpensWith (files : Files) (path : Path) : Trace String → Prop where
  | unread {failure : Failure} :
      files.read path = .error failure → OpensWith files path (.failed failure)
  | read {bytes : List UInt8} (more : Trace String) :
      files.read path = .ok bytes →
      OpensWith files path (.note ⟨.debug, .program, "reading records from " ++ path.text⟩ more)

theorem OpensWith.through {files : Files} {path : Path} {later : Trace String}
    (opens : OpensWith files path later) (channel : Channel) :
    OpensWith files path (channel.through later) := by
  cases opens with
  | unread failed => exact .unread failed
  | read more opened => exact .read (channel.through more) opened

namespace Generation

variable {arguments : List String} {files : Files} (generation : Generation arguments files)
variable (channel : Channel) (time : String) (input : Pieces)

theorem chunks_opening {before after : List String} {path : String}
    (order : generation.invocation.files = before ++ path :: after) :
    ∃ notes later, chunks generation.invocation files input =
        (generation.pass.begun (chainedRecords files (before.map Path.ofText)) ++ later).withNotes
          notes ∧
      OpensWith files (Path.ofText path) later := by
  obtain ⟨notes, written⟩ := generation.chunks_eq input
  obtain ⟨resumed, goesOn, failing, noting⟩ :=
    generation.pass.emit_append (chainedRecords files (before.map Path.ofText))
  have stream : generation.stream input = chainedRecords files (before.map Path.ofText) ++
      (fileRecords files (Path.ofText path) ++ chainedRecords files (after.map Path.ofText)) := by
    have given : (before ++ path :: after).isEmpty = false := by simp
    rw [Generation.stream, records, order, given, if_neg Bool.false_ne_true, List.map_append,
      List.map_cons, chainedRecords_append, chainedRecords]
  rw [stream, goesOn] at written
  refine ⟨notes, _, written, ?_⟩
  cases opened : files.read (Path.ofText path) with
  | error failure =>
      have first : fileRecords files (Path.ofText path) = .failed failure := by
        simp only [fileRecords, opened]
      rw [first]
      exact failing failure ▸ .unread opened
  | ok bytes =>
      simp only [fileRecords, opened]
      obtain ⟨more, later⟩ := noting _ _
      exact later ▸ .read more opened

theorem through_opening {before after : List String} {path : String}
    (order : generation.invocation.files = before ++ path :: after) :
    ∃ notes later, channel.through (chunks generation.invocation files input) =
        (channel.through
          (generation.pass.begun (chainedRecords files (before.map Path.ofText))) ++
            later).withNotes notes ∧
      OpensWith files (Path.ofText path) later := by
  obtain ⟨notes, later, written, opens⟩ := generation.chunks_opening input order
  refine ⟨notes, channel.through later, ?_, opens.through channel⟩
  rw [written, channel.through_withNotes, channel.through_append]

/-- A run for which other files, or the standard input, give the same records writes the same. -/
theorem run_of_unplaced {arguments' : List String} {files' : Files}
    (other : Generation arguments' files') (time' : String) (input' : Pieces)
    (samePass : other.pass = generation.pass)
    (same : (other.stream input').items.map Record.unplaced =
      (generation.stream input).items.map Record.unplaced) :
    ((other.stream input').failure?.isSome = (generation.stream input).failure?.isSome →
      (run channel time' arguments' files' input').output =
        (run channel time arguments files input).output) ∧
    ((other.stream input').failure?.map exitCode? =
        (generation.stream input).failure?.map exitCode? →
      (run channel time' arguments' files' input').ending.code? =
        (run channel time arguments files input).ending.code?) := by
  have writes : generation.pass.artifact = some generation.artifact := rfl
  rw [generation.output_run, generation.ending_run, other.output_run, other.ending_run, samePass,
    Ending.code?_after, Ending.code?_after]
  refine ⟨fun ends => ?_, fun ends => ?_⟩
  · -- What closes a text depends on whether a failure ends it, and not on which one.
    have ended : (other.stream input').failure?.map (fun _ => ()) =
        (generation.stream input).failure?.map (fun _ => ()) := by
      cases there : (other.stream input').failure? <;>
        cases here : (generation.stream input).failure? <;> simp_all
    obtain ⟨items, failure⟩ := Pass.emit_of_unplaced writes (fun _ _ => rfl) same ended
    rw [(Channel.take_congr _ (Trace.content _) (Trace.content _) items failure).1]
  · obtain ⟨items, failure⟩ :=
      Pass.emit_of_unplaced writes (fun _ => exitCode?_of_atRecord) same ends
    rw [(Channel.take_congr _ (Trace.content _) (Trace.content _) items failure).2]

end Generation

/-- What a run has written and how it ended, where it does what a pass over a stream does: its
channel takes the chunks of the pass, up to the first failure or up to the first chunk with a fault. -/
structure Refines (channel : Channel) (pass : Pass) (artifact : Artifact) (stream : Trace Record)
    (result : Outcome) : Prop where
  output : result.output = String.join (channel.take (pass.emit stream).content).1
  chunks : (pass.emit stream).items =
    pass.front ++
      ((artifact.stop? pass.duplicates).accept stream.failure? []
        (stream.items.filter artifact.selects)).1.map pass.text ++
      pass.closing (pass.emit stream).failure?
  stopped : (pass.emit stream).failure? =
    ((artifact.stop? pass.duplicates).accept stream.failure? []
      (stream.items.filter artifact.selects)).2
  finished : (channel.take (pass.emit stream).content).2 = none → result.ending = .exit 0
  diagnosed : ∀ diagnostic,
    (channel.take (pass.emit stream).content).2 = some (.diagnostic diagnostic) →
      isUsage (.diagnostic diagnostic) = false → result.ending = .exit 1
  unopened : ∀ fault,
    (channel.take (pass.emit stream).content).2 = some (.file fault) → result.ending = .exit 2
  unwritten : ∀ fault, (channel.take (pass.emit stream).content).2 = some (.unwritable fault) →
    result.ending = .raised (.unwritable fault)

namespace Generation

variable {arguments : List String} {files : Files} (generation : Generation arguments files)
variable (channel : Channel) (time : String) (input : Pieces)

theorem refines :
    Refines channel generation.pass generation.artifact (generation.stream input)
      (run channel time arguments files input) := by
  have writes : generation.pass.artifact = some generation.artifact := rfl
  have ending := generation.ending_run input channel time
  constructor
  · exact generation.output_run input channel time
  · exact Pass.items_emit writes _
  · exact Pass.failure?_emit writes _
  · intro finished
    rw [ending, finished]
    rfl
  · intro diagnostic failed noUsage
    simp only [ending, failed, Ending.after, exitCode?_diagnostic noUsage]
  · intro fault failed
    rw [ending, failed]
    rfl
  · intro fault failed
    rw [ending, failed]
    rfl

/-- What has been written when a file is opened stays as it is. -/
theorem exists_output_append {before after : List String} {path : String}
    (order : generation.invocation.files = before ++ path :: after) :
    ∃ more, (run channel time arguments files input).output =
      String.join (channel.take
        (generation.pass.begun (chainedRecords files (before.map Path.ofText))).content).1 ++
        more := by
  obtain ⟨notes, later, written, -⟩ := generation.through_opening channel input order
  have items : (channel.through (chunks generation.invocation files input)).items =
      (channel.through
        (generation.pass.begun (chainedRecords files (before.map Path.ofText))) ++
          later).items := by
    rw [written]
    exact congrArg Prod.fst (Trace.content_withNotes _ _)
  obtain ⟨rest, front⟩ := Trace.items_prefix_append
    (channel.through (generation.pass.begun (chainedRecords files (before.map Path.ofText)))) later
  rw [run_of_parsed channel time input generation.parsed, output_outcome, items, ← front,
    String.join_append, channel.items_through]
  exact ⟨_, rfl⟩

/-- A warning is given if the channel has taken what stands in front of it. -/
theorem mem_notes_of_repeats {before : List Record} {record first : Record} {key : TextKey}
    {value : String}
    (repeats : generation.pass.Repeats generation.artifact (generation.stream input) before record
      first key value) (warns : generation.duplicates = .warn)
    (takes : channel.Takes (generation.pass.front ++ before.map generation.pass.text)) :
    Record.duplicateNote key record value first.span ∈
      (channel.through (chunks generation.invocation files input)).notes := by
  obtain ⟨notes, chunks⟩ := generation.chunks_eq input
  obtain ⟨written, later, warnings, emitted, content, member⟩ :=
    Pass.exists_warning_of_repeats repeats rfl warns
  have complete : (channel.through written).failure? = none := by
    rw [channel.failure?_through, content, Channel.take_of_takes takes]
  rw [chunks, emitted, channel.through_withNotes, channel.through_append,
    channel.through_withNotes, Trace.notes_withNotes,
    Trace.notes_append_of_failure?_eq_none _ complete, Trace.notes_withNotes]
  exact List.mem_append_right _ (List.mem_append_right _ (List.mem_append_left _ member))

end Generation

/-- A run that generates an artifact writes the chunks that a pass emits for the records of all
files in a row, up to the first failure, and its exit code tells of that failure. A chunk in which
the channel finds a fault is such a failure, and is passed on. When the run opens a file, it has
written what stands in front and what the pass writes for the files before, and this stays as it is.
Repeated identifiers are found whichever files they come from, and how the records are divided among
files makes no difference to what is written. -/
theorem run_generates (channel : Channel) (time : String) {arguments : List String} {files : Files}
    (generation : Generation arguments files) (input : Pieces) :
    Refines channel generation.pass generation.artifact (generation.stream input)
      (run channel time arguments files input) ∧
    (∀ before path after, generation.invocation.files = before ++ path :: after →
      let earlier := chainedRecords files (before.map Path.ofText)
      (∃ notes later, channel.through (chunks generation.invocation files input) =
          (channel.through (generation.pass.begun earlier) ++ later).withNotes notes ∧
        OpensWith files (Path.ofText path) later) ∧
      (generation.pass.begun earlier).items = generation.pass.front ++
        ((generation.artifact.stop? generation.duplicates).accept earlier.failure? []
          (earlier.items.filter generation.artifact.selects)).1.map generation.pass.text ∧
      ∃ more, (run channel time arguments files input).output =
        String.join (channel.take (generation.pass.begun earlier).content).1 ++ more) ∧
    (∀ before record first key value,
      generation.pass.Repeats generation.artifact (generation.stream input) before record first
        key value →
      (generation.duplicates = .warn →
        channel.Takes (generation.pass.front ++ before.map generation.pass.text) →
        Record.duplicateNote key record value first.span ∈
          (channel.through (chunks generation.invocation files input)).notes) ∧
      (generation.duplicates = .reject →
        ∃ key value first, generation.pass.Repeats generation.artifact (generation.stream input)
            before record first key value ∧
          (generation.pass.emit (generation.stream input)).content =
            (generation.pass.front ++ before.map generation.pass.text,
              some (.ofCause record.span (.duplicate key.property value first.span))))) ∧
    (∀ (time' : String) {arguments' : List String} {files' : Files}
        (other : Generation arguments' files') (input' : Pieces), other.pass = generation.pass →
      (other.stream input').items.map Record.unplaced =
        (generation.stream input).items.map Record.unplaced →
      ((other.stream input').failure?.isSome = (generation.stream input).failure?.isSome →
        (run channel time' arguments' files' input').output =
          (run channel time arguments files input).output) ∧
      ((other.stream input').failure?.map exitCode? =
          (generation.stream input).failure?.map exitCode? →
        (run channel time' arguments' files' input').ending.code? =
          (run channel time arguments files input).ending.code?)) := by
  have writes : generation.pass.artifact = some generation.artifact := rfl
  refine ⟨generation.refines channel time input, ?_, ?_, ?_⟩
  · intro before path after order earlier
    exact ⟨generation.through_opening channel input order, Pass.items_begun writes earlier,
      generation.exists_output_append channel time input order⟩
  · intro before record first key value repeats
    exact ⟨generation.mem_notes_of_repeats channel input repeats,
      fun refuses => Pass.content_emit_of_repeats repeats writes refuses⟩
  · intro time' arguments' files' other input' samePass same
    exact generation.run_of_unplaced channel time input other time' input' samePass same

/-! ## Two files with one identifier -/

/-- The bytes of a text of ASCII. -/
def asciiBytes (text : String) : List UInt8 := text.toList.map fun c => c.toNat.toUInt8

/-- A directory in which a file has both records and all others have one. -/
def twice : Files where
  contents path :=
    let record := "inst: X\n"
    .ok (asciiBytes (if path.names = ["both"] then record ++ "---\n" ++ record else record))

def apart : Generation ["--gen-insttype", "--duplicates=reject", "first", "second"] twice where
  invocation :=
    { mode := some (.artifact .opcodeType), files := ["first", "second"],
      duplicates := some .reject }
  artifact := .opcodeType
  duplicates := .reject
  config := {}
  parsed := rfl
  mode := rfl
  policy := rfl
  configured := rfl

def together : Generation ["--gen-insttype", "--duplicates=reject", "both"] twice where
  invocation :=
    { mode := some (.artifact .opcodeType), files := ["both"], duplicates := some .reject }
  artifact := .opcodeType
  duplicates := .reject
  config := {}
  parsed := rfl
  mode := rfl
  policy := rfl
  configured := rfl

theorem run_generates_twice :
    let result := run (.bytes .utf8) "12:00:00"
      ["--gen-insttype", "--duplicates=reject", "first", "second"] twice ⟨[], none⟩
    let other := run (.bytes .utf8) "12:00:00" ["--gen-insttype", "--duplicates=reject", "both"]
      twice ⟨[], none⟩
    result.output = "and instruction =\n  | OpX\n" ∧ result.ending = .exit 1 ∧
      (apart.pass.emit (apart.stream ⟨[], none⟩)).failure? =
        some (.ofCause { file := "second", line := 1, document := 0 }
          (.duplicate "inst" "X" { file := "first", line := 1, document := 0 })) ∧
      other.output = "and instruction =\n  | OpX\n" ∧ other.ending.code? = some 1 := by
  obtain ⟨refines, -, -, divided⟩ := run_generates (.bytes .utf8) "12:00:00" apart ⟨[], none⟩
  have items : (apart.pass.emit (apart.stream ⟨[], none⟩)).items =
      ["and instruction =\n", "  | OpX\n"] := by
    decide +kernel
  have failed : (apart.pass.emit (apart.stream ⟨[], none⟩)).failure? =
      some (.ofCause { file := "second", line := 1, document := 0 }
        (.duplicate "inst" "X" { file := "first", line := 1, document := 0 })) := by
    decide +kernel
  have takes : (Channel.bytes .utf8).Takes ["and instruction =\n", "  | OpX\n"] := by
    decide +kernel
  have taken := Channel.take_of_takes takes
    (some (.ofCause { file := "second", line := 1, document := 0 }
      (.duplicate "inst" "X" { file := "first", line := 1, document := 0 })))
  have output := refines.output
  rw [Trace.content, items, failed, taken] at output
  have ending := refines.diagnosed _ (by rw [Trace.content, items, failed, taken]; rfl) rfl
  obtain ⟨sameOutput, sameCode⟩ :=
    divided "12:00:00" together ⟨[], none⟩ rfl (by decide +kernel)
  exact ⟨output, ending, failed, (sameOutput (by decide +kernel)).trans output,
    (sameCode (by decide +kernel)).trans (congrArg Ending.code? ending)⟩

end InstructionSet.Command
