import InstructionSet.Proofs.Command.Generations
import InstructionSet.Proofs.Command.Verbosity
import InstructionSet.Proofs.Policies

/-!
# Diagnostic settings

How much a run tells of itself, and whether it warns of repeated identifiers, makes no difference to
what it writes and how it ends. A run that refuses repeated identifiers writes a front part of the
same.
-/

set_option autoImplicit false

namespace InstructionSet.Command

open Text (Pieces)

/-- Invocations that ask for the same and differ at most in what is told about it and in what is
done with repeated identifiers. -/
structure Invocation.SameTask (invocation other : Invocation) : Prop where
  mode : other.mode = invocation.mode
  files : other.files = invocation.files
  config : other.config = invocation.config

/-- Outcomes that differ at most in what is reported. -/
structure Outcome.SameArtifact (result other : Outcome) : Prop where
  output : other.output = result.output
  ending : other.ending = result.ending

/-- Repeated identifiers are kept, with or without a warning. -/
def KeepsRepeated (duplicates : Option DuplicatePolicy) : Prop :=
  duplicates = some .allow ∨ duplicates = some .warn

theorem KeepsRepeated.exists_policy {duplicates : Option DuplicatePolicy}
    (keeps : KeepsRepeated duplicates) :
    ∃ policy, duplicates = some policy ∧ policy ≠ .reject := by
  obtain rfl | rfl := keeps
  · exact ⟨.allow, rfl, by decide⟩
  · exact ⟨.warn, rfl, by decide⟩

section Runs

variable (channel : Channel) (time time' : String) {arguments arguments' : List String}
variable {files : Files} (input : Pieces) {invocation other : Invocation}
variable (parsed : Invocation.ofArguments arguments = .ok invocation)
variable (parsed' : Invocation.ofArguments arguments' = .ok other)

include parsed parsed'

theorem sameArtifact_of_take
    (same : channel.take (chunks other files input).content =
      channel.take (chunks invocation files input).content) :
    (run channel time arguments files input).SameArtifact
      (run channel time' arguments' files input) := by
  constructor
  · rw [output_run_of_parsed channel time' input parsed',
      output_run_of_parsed channel time input parsed, same]
  · rw [ending_run_of_parsed channel time' input parsed',
      ending_run_of_parsed channel time input parsed, same]

theorem sameArtifact_of_chunks
    (same : (chunks other files input).content = (chunks invocation files input).content) :
    (run channel time arguments files input).SameArtifact
      (run channel time' arguments' files input) :=
  sameArtifact_of_take channel time time' input parsed parsed' (congrArg channel.take same)

end Runs

theorem Invocation.SameTask.chunks {invocation other : Invocation}
    (task : invocation.SameTask other) (policy : other.duplicates = invocation.duplicates)
    (files : Files) (input : Pieces) :
    Command.chunks other files input = Command.chunks invocation files input := by
  simp only [Command.chunks, task.mode, task.files, task.config, policy]

/-- A run that tells more of itself, in front of any command line, differs in nothing else. -/
theorem run_verbose (channel : Channel) (time time' : String) (count : Nat)
    (arguments : List String) (files : Files) (input : Pieces) :
    (run channel time arguments files input).SameArtifact
      (run channel time' (List.replicate count "-v" ++ arguments) files input) := by
  have verbose := Invocation.ofArguments_verbose count arguments
  cases parsed : Invocation.ofArguments arguments with
  | error refusal =>
      rw [parsed] at verbose
      have refused : Invocation.ofArguments (List.replicate count "-v" ++ arguments) =
          .error refusal := verbose
      simp only [run, parsed, refused]
      exact ⟨rfl, rfl⟩
  | ok invocation =>
      rw [parsed] at verbose
      have louder : Invocation.ofArguments (List.replicate count "-v" ++ arguments) =
          .ok (invocation.louder count) := verbose
      exact sameArtifact_of_chunks channel time time' input parsed louder rfl

/-! ## Repeated identifiers -/

/-- An invocation for an artifact finds its configuration, or it does nothing else. -/
theorem exists_generation_or_failed (files : Files) {arguments : List String}
    {invocation : Invocation} {artifact : Artifact} {duplicates : DuplicatePolicy}
    (parsed : Invocation.ofArguments arguments = .ok invocation)
    (mode : invocation.mode = some (.artifact artifact))
    (policy : invocation.duplicates = some duplicates) :
    (∃ generation : Generation arguments files, generation.invocation = invocation ∧
      generation.duplicates = duplicates) ∨
    ∃ failure, config files invocation.config = .failed failure := by
  obtain ⟨value, notes, configured⟩ | failed := config_cases files invocation.config
  · have content : (config files invocation.config).content = ([value], none) := by
      rw [configured, Trace.content_withNotes]
      rfl
    exact .inl ⟨⟨invocation, artifact, duplicates, value, parsed, mode, policy, content⟩, rfl, rfl⟩
  · exact .inr failed

theorem chunks_of_failed {files : Files} {invocation : Invocation} {artifact : Artifact}
    {failure : Failure} (mode : invocation.mode = some (.artifact artifact))
    (failed : config files invocation.config = .failed failure) (input : Pieces) :
    chunks invocation files input = .failed failure := by
  simp only [chunks, mode, failed]
  rfl

namespace Generation

variable {arguments arguments' : List String} {files : Files}
variable (generation : Generation arguments files) {other : Invocation}

/-- The same with another policy for repeated identifiers. -/
def withPolicy {duplicates : DuplicatePolicy}
    (parsed : Invocation.ofArguments arguments' = .ok other)
    (task : generation.invocation.SameTask other) (policy : other.duplicates = some duplicates) :
    Generation arguments' files where
  invocation := other
  artifact := generation.artifact
  duplicates := duplicates
  config := generation.config
  parsed := parsed
  mode := task.mode.trans generation.mode
  policy := policy
  configured := task.config ▸ generation.configured

/-- An invocation with another policy writes what the pass with that policy does. -/
theorem content_chunks_withPolicy {duplicates : DuplicatePolicy}
    (parsed : Invocation.ofArguments arguments' = .ok other)
    (task : generation.invocation.SameTask other) (policy : other.duplicates = some duplicates)
    (input : Pieces) :
    (chunks other files input).content =
      ((generation.pass.withPolicy duplicates).emit (generation.stream input)).content := by
  have content := (generation.withPolicy parsed task policy).content_chunks input
  have stream : (generation.withPolicy parsed task policy).stream input = generation.stream input :=
    congrArg (records files input) task.files
  rw [stream] at content
  exact content

/-- A run comes to a record that repeats an identifier: nothing in front of it has been a failure,
and the channel has taken what is written for it. -/
structure Reaches (channel : Channel) (input : Pieces) (before : List Record)
    (record first : Record) (key : TextKey) (value : String) : Prop where
  repeats : generation.pass.Repeats generation.artifact (generation.stream input) before record
    first key value
  taken : channel.Takes (generation.pass.front ++ before.map generation.pass.text)

end Generation

section Policies

variable (channel : Channel) (time time' : String) {arguments arguments' : List String}
variable {files : Files} (input : Pieces)
variable {invocation other : Invocation} {artifact : Artifact}
variable (parsed : Invocation.ofArguments arguments = .ok invocation)
variable (parsed' : Invocation.ofArguments arguments' = .ok other)
variable (task : invocation.SameTask other) (mode : invocation.mode = some (.artifact artifact))
variable (keeps : KeepsRepeated invocation.duplicates)

include parsed parsed' task mode keeps

theorem run_of_keepsRepeated (alsoKeeps : KeepsRepeated other.duplicates) :
    (run channel time arguments files input).SameArtifact
      (run channel time' arguments' files input) := by
  obtain ⟨policy, given, kept⟩ := keeps.exists_policy
  obtain ⟨policy', given', alsoKept⟩ := alsoKeeps.exists_policy
  refine sameArtifact_of_chunks channel time time' input parsed parsed' ?_
  obtain ⟨generation, rfl, rfl⟩ | ⟨failure, failed⟩ :=
      exists_generation_or_failed files parsed mode given
  · rw [generation.content_chunks_withPolicy parsed' task given', generation.content_chunks]
    exact Pass.content_emit_of_kept rfl kept alsoKept _
  · rw [chunks_of_failed mode failed,
      chunks_of_failed (task.mode.trans mode) (task.config ▸ failed)]

variable (refuses : other.duplicates = some .reject)

include refuses

theorem run_of_unrepeated
    (unrepeated : ∀ (generation : Generation arguments files) before record first key value,
      ¬ generation.pass.Repeats generation.artifact (generation.stream input) before record first
        key value) :
    (run channel time arguments files input).SameArtifact
      (run channel time' arguments' files input) := by
  obtain ⟨policy, given, kept⟩ := keeps.exists_policy
  refine sameArtifact_of_chunks channel time time' input parsed parsed' ?_
  obtain ⟨generation, rfl, rfl⟩ | ⟨failure, failed⟩ :=
      exists_generation_or_failed files parsed mode given
  · rw [generation.content_chunks_withPolicy parsed' task refuses, generation.content_chunks]
    exact Pass.content_emit_refusing_of_unrepeated rfl kept (unrepeated generation)
  · rw [chunks_of_failed mode failed,
      chunks_of_failed (task.mode.trans mode) (task.config ▸ failed)]

section FirstRepeat

variable (generation : Generation arguments files) {before : List Record} {record : Record}
variable (earliest : generation.pass.FirstRepeat generation.artifact (generation.stream input)
  before record)

omit mode

include earliest

/-- A run that refuses repeated identifiers is asked for what stands in front of the first record
that repeats one. A run that keeps them is asked for the same and goes on, unless the record cannot
be written. -/
theorem chunks_of_firstRepeat :
    ∃ failure, exitCode? failure = some 1 ∧
      (chunks other files input).content =
        (generation.pass.front ++ before.map generation.pass.text, some failure) ∧
      (∃ more ending, (chunks invocation files input).content =
        (generation.pass.front ++ before.map generation.pass.text ++ more, ending)) ∧
      ∀ lack, generation.artifact.lacks? record = some lack →
        (chunks invocation files input).content =
          (generation.pass.front ++ before.map generation.pass.text, some lack) := by
  obtain rfl : generation.invocation = invocation :=
    Except.ok.inj (generation.parsed.symm.trans parsed)
  obtain ⟨policy, given, kept⟩ := keeps.exists_policy
  obtain rfl : generation.duplicates = policy :=
    Option.some.inj (generation.policy.symm.trans given)
  obtain ⟨first, key, value, repeats, refusing⟩ :=
    Pass.content_emit_refusing_of_firstRepeat rfl kept earliest
  obtain ⟨more, items⟩ := repeats.exists_items rfl
  rw [generation.content_chunks, generation.content_chunks_withPolicy parsed' task refuses]
  exact ⟨_, rfl, refusing, ⟨more, _, congrArg (·, _) items⟩, fun lack lacking =>
    Pass.content_emit_of_firstRepeat rfl kept earliest lacking⟩

/-- What the run that refuses repeated identifiers writes is a front part of what the other does. -/
theorem exists_output_of_firstRepeat :
    ∃ more, (run channel time arguments files input).output =
      (run channel time' arguments' files input).output ++ more := by
  obtain ⟨failure, -, refusing, ⟨more, ending, keeping⟩, -⟩ :=
    chunks_of_firstRepeat input parsed parsed' task keeps refuses generation earliest
  obtain ⟨rest, taken⟩ := channel.take_fst_prefix_append
    (generation.pass.front ++ before.map generation.pass.text) more ending
  rw [output_run_of_parsed channel time input parsed,
    output_run_of_parsed channel time' input parsed', keeping, refusing, taken, String.join_append]
  exact ⟨_, rfl⟩

theorem run_of_firstRepeat
    (taken : channel.Takes (generation.pass.front ++ before.map generation.pass.text)) :
    (run channel time' arguments' files input).ending = .exit 1 ∧
      (run channel time' arguments' files input).output =
        String.join (generation.pass.front ++ before.map generation.pass.text) := by
  obtain ⟨failure, code, refusing, -⟩ :=
    chunks_of_firstRepeat input parsed parsed' task keeps refuses generation earliest
  rw [ending_run_of_parsed channel time' input parsed',
    output_run_of_parsed channel time' input parsed', refusing, Channel.take_of_takes taken]
  simp only [Ending.after, code, and_self]

/-- Where the channel does not take what stands in front of the first record that repeats an
identifier, no run comes to it. -/
theorem run_of_untaken
    (untaken : ¬ channel.Takes (generation.pass.front ++ before.map generation.pass.text)) :
    (run channel time arguments files input).SameArtifact
      (run channel time' arguments' files input) := by
  obtain ⟨failure, -, refusing, ⟨more, ending, keeping⟩, -⟩ :=
    chunks_of_firstRepeat input parsed parsed' task keeps refuses generation earliest
  refine sameArtifact_of_take channel time time' input parsed parsed' ?_
  rw [refusing, keeping, Channel.take_append_of_refused untaken, Channel.take_of_refused untaken]

end FirstRepeat

/-- Without a record that repeats an identifier the runs differ in nothing, and else there is a
first such record. -/
theorem sameArtifact_or_firstRepeat :
    (run channel time arguments files input).SameArtifact
        (run channel time' arguments' files input) ∨
      ∃ (generation : Generation arguments files) (before : List Record) (record : Record),
        generation.pass.FirstRepeat generation.artifact (generation.stream input) before
          record := by
  by_cases repeated : ∃ (generation : Generation arguments files) (before : List Record)
      (record first : Record) (key : TextKey) (value : String),
      generation.pass.Repeats generation.artifact (generation.stream input) before record first
        key value
  · obtain ⟨generation, _, _, _, _, _, repeats⟩ := repeated
    exact .inr ⟨generation, Pass.exists_firstRepeat repeats⟩
  · refine .inl (run_of_unrepeated channel time time' input parsed parsed' task mode keeps refuses
      fun generation before record first key value repeats => ?_)
    exact repeated ⟨generation, before, record, first, key, value, repeats⟩

/-- A run that keeps repeated identifiers ends in the same way where it comes to none, or the first
record that repeats one cannot be written. -/
theorem run_of_unwritten
    (unwritten : ∀ (generation : Generation arguments files) before record first key value,
      generation.Reaches channel input before record first key value →
        generation.artifact.lacks? record ≠ none) :
    (run channel time arguments files input).SameArtifact
      (run channel time' arguments' files input) := by
  obtain same | ⟨generation, before, record, earliest⟩ :=
    sameArtifact_or_firstRepeat channel time time' input parsed parsed' task mode keeps refuses
  · exact same
  by_cases taken : channel.Takes (generation.pass.front ++ before.map generation.pass.text)
  · obtain ⟨first, key, value, repeats⟩ := earliest.repeats
    obtain ⟨lack, lacking⟩ := Option.ne_none_iff_exists'.mp
      (unwritten generation before record first key value ⟨repeats, taken⟩)
    obtain ⟨ending, output⟩ := run_of_firstRepeat channel time' input parsed parsed' task keeps
      refuses generation earliest taken
    obtain ⟨-, -, -, -, keeping⟩ :=
      chunks_of_firstRepeat input parsed parsed' task keeps refuses generation earliest
    constructor
    · rw [output, output_run_of_parsed channel time input parsed, keeping lack lacking,
        Channel.take_of_takes taken]
    · rw [ending, ending_run_of_parsed channel time input parsed, keeping lack lacking,
        Channel.take_of_takes taken]
      simp only [Ending.after,
        exitCode?_of_atRecord (generation.artifact.atRecord_of_lacks? lacking)]
  · exact run_of_untaken channel time time' input parsed parsed' task keeps refuses generation
      earliest taken

theorem exists_output_of_refuses :
    ∃ more, (run channel time arguments files input).output =
      (run channel time' arguments' files input).output ++ more := by
  obtain same | ⟨generation, before, record, earliest⟩ :=
    sameArtifact_or_firstRepeat channel time time' input parsed parsed' task mode keeps refuses
  · exact ⟨"", by rw [same.output, String.append_empty]⟩
  · exact exists_output_of_firstRepeat channel time time' input parsed parsed' task keeps refuses
      generation earliest

omit mode in
/-- Where the other run comes to a record that repeats an identifier, a run that refuses them ends
in front of the first such record. -/
theorem run_of_reached (generation : Generation arguments files) {before : List Record}
    {record first : Record} {key : TextKey} {value : String}
    (reaches : generation.Reaches channel input before record first key value) :
    ∃ before record, generation.pass.FirstRepeat generation.artifact (generation.stream input)
        before record ∧
      (run channel time' arguments' files input).ending = .exit 1 ∧
      (run channel time' arguments' files input).output =
        String.join (generation.pass.front ++ before.map generation.pass.text) := by
  obtain ⟨sooner, earlier, earliest⟩ := Pass.exists_firstRepeat reaches.repeats
  obtain ⟨between, rfl⟩ := earliest.prefix_of_repeats reaches.repeats
  have taken : channel.Takes (generation.pass.front ++ sooner.map generation.pass.text) := by
    have whole := reaches.taken
    rw [List.map_append, ← List.append_assoc] at whole
    exact fun text member => whole text (List.mem_append_left _ member)
  exact ⟨sooner, earlier, earliest, run_of_firstRepeat channel time' input parsed parsed' task keeps
    refuses generation earliest taken⟩

end Policies

/-- Neither the number of `-v` nor a choice between keeping repeated identifiers with and without a
warning changes what a run writes or how it ends. A run that refuses repeated identifiers writes a
front part of the same. It differs in nothing if the other reaches no repeated identifier, or none
that it can write; and where the other reaches one, it ends with exit code 1, and has written what
stands before the first record that repeats an identifier. This holds for every channel, the same
for both runs: a record is reached if the channel has taken what stands in front of it. -/
theorem run_of_diagnostic_settings (channel : Channel) (files : Files) (input : Pieces)
    (time time' : String) :
    (∀ count arguments, (run channel time arguments files input).SameArtifact
      (run channel time' (List.replicate count "-v" ++ arguments) files input)) ∧
    ∀ arguments arguments' invocation other,
      Invocation.ofArguments arguments = .ok invocation →
      Invocation.ofArguments arguments' = .ok other → invocation.SameTask other →
      (other.duplicates = invocation.duplicates →
        (run channel time arguments files input).SameArtifact
          (run channel time' arguments' files input)) ∧
      ∀ artifact, invocation.mode = some (.artifact artifact) →
        KeepsRepeated invocation.duplicates →
        (KeepsRepeated other.duplicates →
          (run channel time arguments files input).SameArtifact
            (run channel time' arguments' files input)) ∧
        (other.duplicates = some .reject →
          (∃ more, (run channel time arguments files input).output =
            (run channel time' arguments' files input).output ++ more) ∧
          ((∀ (generation : Generation arguments files) before record first key value,
              generation.Reaches channel input before record first key value →
                generation.artifact.lacks? record ≠ none) →
            (run channel time arguments files input).SameArtifact
              (run channel time' arguments' files input)) ∧
          ∀ (generation : Generation arguments files) before record first key value,
            generation.Reaches channel input before record first key value →
            ∃ before record, generation.pass.FirstRepeat generation.artifact
                (generation.stream input) before record ∧
              (run channel time' arguments' files input).ending = .exit 1 ∧
              (run channel time' arguments' files input).output =
                String.join (generation.pass.front ++ before.map generation.pass.text)) := by
  refine ⟨fun count arguments => run_verbose channel time time' count arguments files input, ?_⟩
  intro arguments arguments' invocation other parsed parsed' task
  refine ⟨fun policy => ?_, fun artifact mode keeps => ⟨fun alsoKeeps => ?_, fun refuses => ?_⟩⟩
  · exact sameArtifact_of_chunks channel time time' input parsed parsed'
      (congrArg Trace.content (task.chunks policy files input))
  · exact run_of_keepsRepeated channel time time' input parsed parsed' task mode keeps alsoKeeps
  · exact ⟨exists_output_of_refuses channel time time' input parsed parsed' task mode keeps refuses,
      run_of_unwritten channel time time' input parsed parsed' task mode keeps refuses,
      fun generation _ _ _ _ _ reaches => run_of_reached channel time' input parsed parsed' task
        keeps refuses generation reaches⟩

/-- A run over a file whose second record repeats the identifier of its first. -/
def repeating (duplicates : String) : List String := ["--gen-insttype", duplicates, "both"]

def warning : Generation (repeating "--duplicates=warn") twice where
  invocation :=
    { mode := some (.artifact .opcodeType), files := ["both"], duplicates := some .warn }
  artifact := .opcodeType
  duplicates := .warn
  config := {}
  parsed := rfl
  mode := rfl
  policy := rfl
  configured := rfl

def firstOfBoth : Record where
  inst := some "X"
  span := { file := "both", line := 1, document := 0 }

def secondOfBoth : Record where
  inst := some "X"
  span := { file := "both", line := 3, document := 1 }

theorem repeats_both :
    warning.pass.Repeats .opcodeType (warning.stream ⟨[], none⟩) [firstOfBoth] secondOfBoth
      firstOfBoth .inst "X" where
  reached := ⟨[], by decide +kernel⟩
  unstopped := rfl
  unique := by decide
  tracked := rfl
  found := rfl

theorem run_of_diagnostic_settings_repeating :
    let warned := run (.bytes .utf8) "12:00:00" (repeating "--duplicates=warn") twice ⟨[], none⟩
    let allowed := run (.bytes .utf8) "12:00:01" (repeating "--duplicates=allow") twice ⟨[], none⟩
    let refused := run (.bytes .utf8) "12:00:01" (repeating "--duplicates=reject") twice ⟨[], none⟩
    warned.SameArtifact allowed ∧ (∃ more, warned.output = refused.output ++ more) ∧
      refused.ending = .exit 1 ∧ refused.output = "and instruction =\n  | OpX\n" := by
  have settings :=
    (run_of_diagnostic_settings (.bytes .utf8) twice ⟨[], none⟩ "12:00:00" "12:00:01").2
  have taken : (Channel.bytes .utf8).Takes
      (warning.pass.front ++ [firstOfBoth].map warning.pass.text) := by
    decide +kernel
  have allows := (settings (repeating "--duplicates=warn") (repeating "--duplicates=allow") _ _
    warning.parsed rfl ⟨rfl, rfl, rfl⟩).2 .opcodeType rfl (.inr rfl)
  have refuses := (settings (repeating "--duplicates=warn") (repeating "--duplicates=reject") _ _
    warning.parsed together.parsed ⟨rfl, rfl, rfl⟩).2 .opcodeType rfl (.inr rfl)
  obtain ⟨front, -, stops⟩ := refuses.2 rfl
  obtain ⟨before, record, earliest, ending, output⟩ := stops warning _ _ _ _ _ ⟨repeats_both, taken⟩
  refine ⟨allows.1 (.inl rfl), front, ending, output.trans ?_⟩
  obtain ⟨⟨first, key, value, repeats⟩, sooner⟩ := earliest
  obtain ⟨after, reached⟩ := repeats.reached
  obtain ⟨behind, reachedAlso⟩ := repeats_both.reached
  have fewer := sooner _ _ _ _ _ repeats_both
  have found := repeats.found
  match before with
  | [] => cases found
  | [_] =>
      obtain ⟨rfl, -⟩ := List.cons.inj (reached.symm.trans reachedAlso)
      decide +kernel
  | _ :: _ :: _ => simp at fewer

end InstructionSet.Command
