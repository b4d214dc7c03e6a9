import InstructionSet.Proofs.Command.Generations
import InstructionSet.Proofs.Include.Copies
import InstructionSet.Proofs.Record.Loading

/-!
# How runs end

Every run ends with an exit code, unless a failure is passed on. For each kind of file it is said
which failures are passed on: a name that names nothing, bytes that are no characters, and in
documents also scalars without a value and whole numbers that are too long. Files with records have
one more, a character that may not stand in a text and is met on opening. What is to be written adds
a last one, a text in which the channel finds a fault.
-/

set_option autoImplicit false

namespace InstructionSet

/-- A failure that has an account of its own, and is no fault of usage. -/
def Diagnosed (failure : Failure) : Prop :=
  ∃ diagnostic, failure = .diagnostic diagnostic ∧ ∀ problem, diagnostic.cause ≠ .usage problem

theorem AtRecord.diagnosed {failure : Failure} (atRecord : AtRecord failure) :
    Diagnosed failure := by
  obtain ⟨span, cause, rfl, noUsage⟩ := atRecord
  exact ⟨{ cause, span }, rfl, noUsage⟩

/-! ## Paths -/

namespace Files

/-- Why a path cannot be the name of a file. -/
inductive Unnamed (path : Path) : Failure → Prop where
  | surrogate {fault : Text.EncodingFault} :
      Text.nameFault? 0 (Text.codes path.text.toList) = some fault →
      Unnamed path (.unnameable fault)
  | null : hasNull path = true → Unnamed path .nullInPath

theorem read_error {files : Files} {path : Path} {failure : Failure}
    (failed : files.read path = .error failure) :
    (∃ problem, files.contents path = .error problem ∧ failure = .file ⟨problem, path.text⟩) ∨
      Unnamed path failure := by
  unfold read at failed
  split at failed
  · next fault named =>
      cases failed
      exact .inr (.surrogate named)
  · split at failed
    · next null =>
        cases failed
        exact .inr (.null null)
    · cases contents : files.contents path with
      | ok bytes =>
          rw [contents] at failed
          cases failed
      | error problem =>
          rw [contents] at failed
          cases failed
          exact .inl ⟨problem, rfl, rfl⟩

/-- A failure that wraps the faults of files alone keeps those of names. -/
theorem read_mapError_error {files : Files} {path : Path} {wrap : Failure → Failure}
    {failure : Failure} (failed : (files.read path).mapError wrap = .error failure)
    (unnameable : ∀ fault, wrap (.unnameable fault) = .unnameable fault)
    (null : wrap .nullInPath = .nullInPath) :
    (∃ problem, failure = wrap (.file ⟨problem, path.text⟩)) ∨ Unnamed path failure := by
  obtain ⟨cause, unread, rfl⟩ := mapError_error failed
  obtain ⟨problem, -, rfl⟩ | unnamed := read_error unread
  · exact .inl ⟨problem, rfl⟩
  · refine .inr ?_
    cases unnamed with
    | surrogate named =>
        rw [unnameable]
        exact .surrogate named
    | null named =>
        rw [null]
        exact .null named

end Files

/-! ## Records -/

namespace Record

open Yaml (readDocuments)
open Yaml.Source (Acceptable pieceLength)

/-- What is passed on of a text with records. -/
inductive TextPassesOn (name : String) (pieces : Text.Pieces) : Failure → Prop where
  | character {code place : Nat} :
      ¬ Acceptable (pieces.texts.take 2).flatten →
      TextPassesOn name pieces (.source (.unacceptable code name place))
  | bytes {fault : Text.Utf8.Fault} :
      pieces.fault = some fault → TextPassesOn name pieces (.source (.undecodable fault))
  | scalar {opened : Yaml.Source} {fault : Yaml.ScalarFault} :
      Yaml.Source.ofPieces name pieces = .ok opened →
      (readDocuments opened).fault = some (.scalar fault) →
      TextPassesOn name pieces (.scalar fault)
  | number {opened : Yaml.Source} {placed : Yaml.PlacedDocument} :
      Yaml.Source.ofPieces name pieces = .ok opened → placed ∈ (readDocuments opened).documents →
      placed.document.Overlong placed.document.root → TextPassesOn name pieces unshown

theorem Broken.diagnosed {source : String} {documents : Yaml.Documents} {index : Nat}
    {failure : Failure} (broken : Broken source documents index failure) : Diagnosed failure := by
  cases broken <;> exact ⟨_, rfl, nofun⟩

theorem loadPieces_failure {name source : String} {pieces : Text.Pieces} {failure : Failure}
    (failed : (loadPieces name pieces source).failure? = some failure) :
    Diagnosed failure ∨ TextPassesOn name pieces failure := by
  obtain ⟨-, opened, opens, bytes, loads⟩ | ⟨unacceptable, code, place, unopened⟩ |
      ⟨fault, met, unopened⟩ := loadPieces_cases name pieces source
  · rw [failed] at loads
    cases loads with
    | broken _ broken => exact .inl broken.diagnosed
    | passedOn _ passedOn =>
        refine .inr ?_
        cases passedOn with
        | bytes _ ended => exact .bytes (bytes _ ended)
        | scalar _ ended => exact .scalar opens ended
        | number found overlong => exact .number opens (List.mem_of_getElem? found) overlong
  · rw [unopened] at failed
    cases failed
    exact .inr (.character unacceptable)
  · rw [unopened] at failed
    cases failed
    exact .inr (.bytes met)

end Record

/-! ## Configurations -/

namespace Config

open Yaml.Source (pieceLength)

/-- What is passed on of a configuration file. -/
inductive FilePassesOn (files : Files) (path : Path) : Failure → Prop where
  | path {failure : Failure} : Files.Unnamed path failure → FilePassesOn files path failure
  | bytes {bytes : List UInt8} {fault : Text.Utf8.Fault} :
      files.read path = .ok bytes → (Text.filePieces pieceLength bytes).fault = some fault →
      FilePassesOn files path (.source (.undecodable fault))
  | scalar {bytes : List UInt8} {opened : Yaml.Source} {fault : Yaml.ScalarFault} :
      files.read path = .ok bytes →
      Yaml.Source.ofPieces path.text (Text.filePieces pieceLength bytes) = .ok opened →
      Yaml.readSingle opened = .error (.scalar fault) → FilePassesOn files path (.scalar fault)
  | number {document : Yaml.Document} :
      document? files path = .ok (some document) → document.Overlong document.root →
      FilePassesOn files path Record.unshown

/-- A fault of a text is one of the configuration, unless it is one of the bytes or of a scalar. -/
theorem failureOf_cases (source : String) (fault : Yaml.Fault) :
    Diagnosed (failureOf source fault) ∨
      (∃ held, fault = .source (.undecodable held) ∧
        failureOf source fault = .source (.undecodable held)) ∨
      ∃ held, fault = .scalar held ∧ failureOf source fault = .scalar held := by
  cases fault with
  | located fault => exact .inl ⟨_, rfl, nofun⟩
  | scalar held => exact .inr (.inr ⟨held, rfl, rfl⟩)
  | source fault =>
      cases fault with
      | unacceptable code name place => exact .inl ⟨_, rfl, nofun⟩
      | undecodable held => exact .inr (.inl ⟨held, rfl, rfl⟩)

theorem document?_failure {files : Files} {path : Path} {failure : Failure}
    (failed : document? files path = .error failure) :
    Diagnosed failure ∨ FilePassesOn files path failure := by
  -- The steps are followed in order: the file is opened, its text checked, its document built.
  unfold document? at failed
  obtain failed | ⟨bytes, read, failed⟩ := bind_error failed
  · obtain ⟨problem, rfl⟩ | unnamed := Files.read_mapError_error failed (fun _ => rfl) rfl
    · exact .inl ⟨_, rfl, nofun⟩
    · exact .inr (.path unnamed)
  have read := mapError_ok read
  obtain failed | ⟨opened, opens, failed⟩ := bind_error failed
  · obtain ⟨cause, closed, rfl⟩ := mapError_error failed
    obtain diagnosed | ⟨held, same, passed⟩ | ⟨held, same, -⟩ :=
      failureOf_cases path.text (.source cause)
    · exact .inl diagnosed
    · cases same
      exact .inr (passed ▸ .bytes read (Yaml.Source.undecodable_of_ofPieces (.inl closed)))
    · cases same
  have opens := mapError_ok opens
  obtain failed | ⟨document?, -, failed⟩ := bind_error failed
  · obtain ⟨cause, unread, rfl⟩ := mapError_error failed
    obtain diagnosed | ⟨held, rfl, passed⟩ | ⟨held, rfl, passed⟩ := failureOf_cases path.text cause
    · exact .inl diagnosed
    · have bytes := Yaml.Source.undecodable_of_ofPieces
        (.inr ⟨opened, opens, (Yaml.readSingle_sound opened).1 _ unread⟩)
      exact .inr (passed ▸ .bytes read bytes)
    · exact .inr (passed ▸ .scalar read opens unread)
  · split at failed <;> cases failed

theorem ofSource_failure {document : Yaml.Document} {source : String} {failure : Failure}
    (failed : ofSource document source = .error failure) :
    Diagnosed failure ∨ failure = Record.unshown ∧ document.Overlong document.root := by
  unfold ofSource at failed
  split at failed
  · next entries mapping =>
      obtain failed | ⟨unknown, -, failed⟩ := bind_error failed
      · obtain ⟨same, overlong⟩ := Record.overlong_of_sortedKeys failed
        exact .inr ⟨same, Yaml.Document.overlong_of_resolve (mapping ▸ overlong)⟩
      · split at failed
        · obtain ⟨fault, -, rfl⟩ := mapError_error failed
          exact .inl ⟨_, rfl, nofun⟩
        · cases failed
          exact .inl ⟨_, rfl, nofun⟩
  · cases failed
    exact .inl ⟨_, rfl, nofun⟩

theorem load_failure {files : Files} {path : Path} {failure : Failure}
    (failed : (load files path).failure? = some failure) :
    Diagnosed failure ∨ FilePassesOn files path failure := by
  unfold load at failed
  split at failed
  · next unread =>
      cases failed
      exact document?_failure unread
  · cases failed
  · next document read =>
      split at failed
      · next refused =>
          cases failed
          exact (ofSource_failure refused).imp_right fun ⟨same, overlong⟩ =>
            same ▸ .number read overlong
      · cases failed

end Config

/-! ## Sources with directives -/

namespace Include

/-- What is passed on of a source with directives and of the files that it includes. -/
inductive FilePassesOn (files : Files) (path : Path) : Failure → Prop where
  | path {failure : Failure} : Files.Unnamed path failure → FilePassesOn files path failure
  | bytes {bytes : List UInt8} {fault : Text.Utf8.Fault} :
      files.read path = .ok bytes → (Text.fileLines bytes).2 = some fault →
      FilePassesOn files path (.source (.undecodable fault))
  | target {bytes : List UInt8} {target : Path} {failure : Failure} :
      files.read path = .ok bytes → target ∈ targets path bytes → Files.Unnamed target failure →
      FilePassesOn files path failure
  | included {bytes included : List UInt8} {target : Path} {fault : Text.Utf8.Fault} :
      files.read path = .ok bytes → target ∈ targets path bytes →
      files.read target = .ok included → Text.fileText included = .error fault →
      FilePassesOn files path (.source (.undecodable fault))

theorem failureOf_file (span : Span) (fault : FileFault) :
    Diagnosed (failureOf span (.file fault)) := by
  obtain ⟨problem, path⟩ := fault
  cases problem <;> exact ⟨_, rfl, nofun⟩

theorem textOf_failure {files : Files} {path : Path} {span : Span} {failure : Failure}
    (failed : textOf files path span = .error failure) :
    Diagnosed failure ∨ Files.Unnamed path failure ∨ ∃ bytes fault, files.read path = .ok bytes ∧
      Text.fileText bytes = .error fault ∧ failure = .source (.undecodable fault) := by
  obtain failed | ⟨bytes, read, failed⟩ := bind_error failed
  · obtain ⟨problem, rfl⟩ | unnamed := Files.read_mapError_error failed (fun _ => rfl) rfl
    · exact .inl (failureOf_file span _)
    · exact .inr (.inl unnamed)
  · obtain ⟨fault, undecoded, rfl⟩ := mapError_error failed
    exact .inr (.inr ⟨bytes, fault, mapError_ok read, undecoded, rfl⟩)

theorem failure?_ofLines (files : Files) (base : Path) (source : String) (lines : List String) :
    (ofLines files base source lines).failure? =
      (spliceFrom files base source 1 lines).failure? := rfl

theorem spliceFrom_failure {files : Files} {base : Path} {source : String} {number : Nat}
    {lines : List String} {failure : Failure}
    (failed : (spliceFrom files base source number lines).failure? = some failure) :
    ∃ line ∈ lines, ∃ target span, directive? line = some target ∧
      textOf files (resolve base target) span = .error failure := by
  induction lines generalizing number with
  | nil => cases failed
  | cons line rest ih =>
      rw [spliceFrom, Trace.failure?_append] at failed
      obtain here | ⟨-, later⟩ := Option.or_eq_some_iff.mp failed
      · unfold spliceLine at here
        split at here
        · cases here
        · next target directive =>
            simp only [Trace.failure?] at here
            split at here
            · next unread =>
                cases here
                exact ⟨line, List.mem_cons_self, target, _, directive, unread⟩
            · rw [Trace.failure?_withItems] at here
              cases here
      · obtain ⟨found, member, named⟩ := ih later
        exact ⟨found, List.mem_cons_of_mem _ member, named⟩

theorem ofFile_failure {files : Files} {path : Path} {failure : Failure}
    (failed : (ofFile files path).failure? = some failure) :
    (∃ problem, files.contents path = .error problem ∧ failure = .file ⟨problem, path.text⟩) ∨
      Diagnosed failure ∨ FilePassesOn files path failure := by
  simp only [ofFile, Trace.failure?] at failed
  split at failed
  · next unread =>
      cases failed
      exact (Files.read_error unread).imp_right fun unnamed => .inr (.path unnamed)
  · next bytes read =>
      refine .inr ?_
      rw [Trace.failure?_append, failure?_ofLines] at failed
      obtain spliced | ⟨-, ended⟩ := Option.or_eq_some_iff.mp failed
      · obtain ⟨line, member, target, span, directive, unread⟩ := spliceFrom_failure spliced
        have named : resolve path.parent target ∈ targets path bytes := by
          exact List.mem_filterMap.mpr ⟨line, member, by rw [directive]; rfl⟩
        obtain diagnosed | unnamed | ⟨included, fault, readToo, undecoded, rfl⟩ :=
          textOf_failure unread
        · exact .inl diagnosed
        · exact .inr (.target read named unnamed)
        · exact .inr (.included read named readToo undecoded)
      · split at ended
        · cases ended
        · next fault met =>
            cases ended
            exact .inr (.bytes read met)

end Include

/-! ## Passes -/

theorem Pass.failure_of_emit {pass : Pass} {artifact : Artifact}
    (writes : pass.artifact = some artifact) {records : Trace Record} {failure : Failure}
    (failed : (pass.emit records).failure? = some failure) :
    records.failure? = some failure ∨ Diagnosed failure := by
  rw [failure?_emit writes] at failed
  -- Behind the records that come through stands the end of the stream, or one that is stopped.
  obtain ⟨rest, -, -, next⟩ :=
    (artifact.stop? pass.duplicates).exists_split records.failure? []
      (records.items.filter artifact.selects)
  cases rest with
  | nil => exact .inl (next.symm.trans failed)
  | cons record rest => exact .inr (Artifact.atRecord_of_stop? (next.1.trans failed)).diagnosed

namespace Command

open Text (Pieces)
open Yaml.Source (pieceLength)

section Endings

variable {channel : Channel} {invocation : Invocation} {files : Files} {input : Pieces}

/-- What a run passes on. -/
inductive PassedOn (channel : Channel) (invocation : Invocation) (files : Files) (input : Pieces) :
    Failure → Prop where
  /-- Two hyphens have been given in the place of a policy. -/
  | policy {artifact : Artifact} :
      invocation.mode = some (.artifact artifact) → invocation.duplicates = none →
      PassedOn channel invocation files input .noPolicy
  | config {path : String} {failure : Failure} :
      invocation.mode ≠ some .splice → invocation.config = some path →
      Config.FilePassesOn files (Path.ofText path) failure →
      PassedOn channel invocation files input failure
  | input {artifact : Artifact} {failure : Failure} :
      invocation.mode = some (.artifact artifact) → invocation.files = [] →
      Record.TextPassesOn Record.standardInput input failure →
      PassedOn channel invocation files input failure
  | path {artifact : Artifact} {path : String} {failure : Failure} :
      invocation.mode = some (.artifact artifact) → path ∈ invocation.files →
      Files.Unnamed (Path.ofText path) failure → PassedOn channel invocation files input failure
  | records {artifact : Artifact} {path : String} {bytes : List UInt8} {failure : Failure} :
      invocation.mode = some (.artifact artifact) → path ∈ invocation.files →
      files.read (Path.ofText path) = .ok bytes →
      Record.TextPassesOn (Path.ofText path).text (Text.filePieces pieceLength bytes) failure →
      PassedOn channel invocation files input failure
  | splice {path : String} {failure : Failure} :
      invocation.mode = some .splice → invocation.files = [path] →
      Include.FilePassesOn files (Path.ofText path) failure →
      PassedOn channel invocation files input failure
  /-- A text is to be written in which the channel finds a fault. -/
  | unwritable {text : String} {fault : Text.EncodingFault} :
      text ∈ (chunks invocation files input).items → channel.fault? text = some fault →
      PassedOn channel invocation files input (.unwritable fault)

/-- How an invocation ends, and what the exit code says. -/
inductive Ends (channel : Channel) (invocation : Invocation) (files : Files) (input : Pieces) :
    Option Failure → Ending → Prop where
  | success : Ends channel invocation files input none (.exit 0)
  | diagnosed {failure : Failure} :
      Diagnosed failure → Ends channel invocation files input (some failure) (.exit 1)
  | usage {span : Span} {problem : UsageFault} :
      Ends channel invocation files input (some (.ofCause span (.usage problem))) (.exit 2)
  | unreadable {path : String} {problem : FileProblem} :
      path ∈ invocation.files → files.contents (Path.ofText path) = .error problem →
      Ends channel invocation files input (some (.file ⟨problem, (Path.ofText path).text⟩))
        (.exit 2)
  | passedOn {failure : Failure} :
      PassedOn channel invocation files input failure →
      Ends channel invocation files input (some failure) (.raised failure)

theorem chainedRecords_failure {paths : List Path} {failure : Failure}
    (failed : (chainedRecords files paths).failure? = some failure) :
    ∃ path ∈ paths, (fileRecords files path).failure? = some failure := by
  induction paths with
  | nil => cases failed
  | cons path rest ih =>
      rw [chainedRecords, Trace.failure?_append] at failed
      obtain here | ⟨-, later⟩ := Option.or_eq_some_iff.mp failed
      · exact ⟨path, List.mem_cons_self, here⟩
      · obtain ⟨found, member, failed⟩ := ih later
        exact ⟨found, List.mem_cons_of_mem path member, failed⟩

theorem fileRecords_failure {path : Path} {failure : Failure}
    (failed : (fileRecords files path).failure? = some failure) :
    (∃ problem, files.contents path = .error problem ∧ failure = .file ⟨problem, path.text⟩) ∨
      Files.Unnamed path failure ∨
      ∃ bytes, files.read path = .ok bytes ∧ (Diagnosed failure ∨
        Record.TextPassesOn path.text (Text.filePieces pieceLength bytes) failure) := by
  unfold fileRecords at failed
  split at failed
  · next unread =>
      cases failed
      exact (Files.read_error unread).imp_right .inl
  · next bytes read => exact .inr (.inr ⟨bytes, read, Record.loadPieces_failure failed⟩)

theorem records_ends {artifact : Artifact} {failure : Failure}
    (mode : invocation.mode = some (.artifact artifact))
    (failed : (records files input invocation.files).failure? = some failure) :
    ∃ ending, Ends channel invocation files input (some failure) ending := by
  unfold records at failed
  split at failed
  · next none =>
      obtain diagnosed | passedOn := Record.loadPieces_failure failed
      · exact ⟨_, .diagnosed diagnosed⟩
      · exact ⟨_, .passedOn (.input mode (List.isEmpty_iff.mp none) passedOn)⟩
  · obtain ⟨_, member, failed⟩ := chainedRecords_failure failed
    obtain ⟨path, given, rfl⟩ := List.mem_map.mp member
    obtain ⟨problem, contents, rfl⟩ | unnamed | ⟨bytes, read, diagnosed | passedOn⟩ :=
      fileRecords_failure failed
    · exact ⟨_, .unreadable given contents⟩
    · exact ⟨_, .passedOn (.path mode given unnamed)⟩
    · exact ⟨_, .diagnosed diagnosed⟩
    · exact ⟨_, .passedOn (.records mode given read passedOn)⟩

theorem config_failure {path? : Option String} {failure : Failure}
    (failed : (config files path?).failure? = some failure) :
    ∃ path, path? = some path ∧
      (Diagnosed failure ∨ Config.FilePassesOn files (Path.ofText path) failure) := by
  unfold config at failed
  split at failed
  · cases failed
  · next path =>
      split at failed
      · cases failed
      · exact ⟨path, rfl, Config.load_failure failed⟩

theorem configured_failure {path? : Option String} {next : Config → Trace String}
    {failure : Failure}
    (failed : ((config files path?).flatMap next).failure? = some failure) :
    (config files path?).failure? = some failure ∨
      ∃ config, (next config).failure? = some failure := by
  -- There is one configuration or none, and nothing stands behind it.
  obtain ⟨value, notes, same⟩ | ⟨other, same⟩ := config_cases files path?
  · rw [same, Trace.flatMap_withNotes, Trace.failure?_withNotes] at failed
    refine .inr ⟨value, ?_⟩
    change (next value ++ Trace.done).failure? = some failure at failed
    rwa [Trace.append_done] at failed
  · rw [same] at failed ⊢
    exact .inl failed

theorem configured_ends {next : Config → Trace String} {failure : Failure}
    (mode : invocation.mode ≠ some .splice)
    (others : ∀ config, (next config).failure? = some failure →
      ∃ ending, Ends channel invocation files input (some failure) ending)
    (failed : ((config files invocation.config).flatMap next).failure? = some failure) :
    ∃ ending, Ends channel invocation files input (some failure) ending := by
  obtain unconfigured | ⟨config, failed⟩ := configured_failure failed
  · obtain ⟨path, given, diagnosed | passedOn⟩ := config_failure unconfigured
    · exact ⟨_, .diagnosed diagnosed⟩
    · exact ⟨_, .passedOn (.config mode given passedOn)⟩
  · exact others config failed

theorem chunks_ends {failure : Failure}
    (failed : (chunks invocation files input).failure? = some failure) :
    ∃ ending, Ends channel invocation files input (some failure) ending := by
  unfold chunks at failed
  split at failed
  · cases failed
    exact ⟨_, .usage⟩
  · next mode =>
      split at failed
      · next path given =>
          obtain ⟨problem, contents, rfl⟩ | diagnosed | passedOn := Include.ofFile_failure failed
          · exact ⟨_, .unreadable (given ▸ List.mem_singleton_self path) contents⟩
          · exact ⟨_, .diagnosed diagnosed⟩
          · exact ⟨_, .passedOn (.splice mode given passedOn)⟩
      · cases failed
        exact ⟨_, .usage⟩
  · next mode =>
      refine configured_ends (by simp [mode]) (fun config failed => ?_) failed
      rw [Trace.failure?_withItems] at failed
      cases failed
  · next artifact mode =>
      refine configured_ends (by simp [mode]) (fun config failed => ?_) failed
      split at failed
      · next unset =>
          cases failed
          exact ⟨_, .passedOn (.policy mode unset)⟩
      · obtain earlier | diagnosed := Pass.failure_of_emit rfl failed
        · exact records_ends mode earlier
        · exact ⟨_, .diagnosed diagnosed⟩

/-- What ends a run over a channel ends the texts, or is a fault in one of them. -/
theorem through_ends {failure : Failure}
    (failed : (channel.through (chunks invocation files input)).failure? = some failure) :
    ∃ ending, Ends channel invocation files input (some failure) ending := by
  rw [channel.failure?_through] at failed
  obtain same | ⟨text, member, fault, found, ended⟩ :=
    Channel.take_snd_cases (chunks invocation files input).items
      (chunks invocation files input).failure?
  · exact chunks_ends (same.symm.trans failed)
  · obtain rfl : Failure.unwritable fault = failure := Option.some.inj (ended.symm.trans failed)
    exact ⟨_, .passedOn (.unwritable member found)⟩

/-! ## Exit codes -/

theorem exitCode?_of_unnamed {path : Path} {failure : Failure}
    (unnamed : Files.Unnamed path failure) : exitCode? failure = none := by
  cases unnamed <;> rfl

/-- What is passed on has no exit code. -/
theorem PassedOn.exitCode? {failure : Failure}
    (passedOn : PassedOn channel invocation files input failure) : exitCode? failure = none := by
  cases passedOn with
  | policy | unwritable => rfl
  | config _ _ file =>
      cases file with
      | path unnamed => exact exitCode?_of_unnamed unnamed
      | bytes | scalar | number => rfl
  | input _ _ text | records _ _ _ text => cases text <;> rfl
  | path _ _ unnamed => exact exitCode?_of_unnamed unnamed
  | splice _ _ file =>
      cases file with
      | path unnamed | target _ _ unnamed => exact exitCode?_of_unnamed unnamed
      | bytes | included => rfl

theorem exitCode?_of_diagnosed {failure : Failure} (diagnosed : Diagnosed failure) :
    exitCode? failure = some 1 := by
  obtain ⟨diagnostic, rfl, noUsage⟩ := diagnosed
  refine exitCode?_diagnostic ?_
  cases cause : diagnostic.cause with
  | usage problem => exact absurd cause (noUsage problem)
  | _ => simp only [isUsage, cause]

theorem Ends.ending_outcome {written : Trace String} {ending : Ending}
    (ends : Ends channel invocation files input written.failure? ending) (time : String)
    (verbosity : Nat) :
    (outcome time verbosity written).ending = ending := by
  -- The ending is read off the failure alone, so the cases are those of `Ends`.
  rw [Command.ending_outcome]
  generalize written.failure? = failure? at ends
  cases ends with
  | success | usage | unreadable => rfl
  | diagnosed diagnosed => simp only [Ending.after, exitCode?_of_diagnosed diagnosed]
  | passedOn passedOn => simp only [Ending.after, passedOn.exitCode?]

end Endings

/-- How a run ends, for all channels, arguments, files and texts on the standard input. If nothing
is run, help or the version has been asked for or the arguments cannot be read. Otherwise the run
ends with 0 if there is no failure, with 1 for a failure that has an account, and with 2 for a fault of
usage or an input that cannot be opened, except for the failures that are passed on. Limits of an
interpreter, such as the one on the depth to which collections may be nested (`Yaml.Fault`), are
outside the model. -/
theorem run_ends (channel : Channel) (time : String) (arguments : List String) (files : Files)
    (input : Pieces) :
    ((Invocation.ofArguments arguments = .error .help ∨
        Invocation.ofArguments arguments = .error .version) ∧
      (run channel time arguments files input).ending = .refused 0) ∨
    (∃ problem, Invocation.ofArguments arguments = .error (.problem problem) ∧
      (run channel time arguments files input).ending = .refused 2) ∨
    ∃ invocation, Invocation.ofArguments arguments = .ok invocation ∧
      Ends channel invocation files input
        (channel.through (chunks invocation files input)).failure?
        (run channel time arguments files input).ending := by
  unfold run
  cases parsed : Invocation.ofArguments arguments with
  | error refusal =>
      cases refusal with
      | help => exact .inl ⟨.inl rfl, rfl⟩
      | version => exact .inl ⟨.inr rfl, rfl⟩
      | problem problem => exact .inr (.inl ⟨problem, rfl, rfl⟩)
  | ok invocation =>
      refine .inr (.inr ⟨invocation, rfl, ?_⟩)
      have ends : ∃ ending, Ends channel invocation files input
          (channel.through (chunks invocation files input)).failure? ending := by
        cases failed : (channel.through (chunks invocation files input)).failure? with
        | none => exact ⟨_, .success⟩
        | some failure => exact through_ends failed
      obtain ⟨ending, ends⟩ := ends
      rwa [ends.ending_outcome]

/-- A directory with one file of the name `a`. -/
def holding (bytes : List UInt8) : Files where
  contents path := if path.names = ["a"] then .ok bytes else .error .notFound

/-- The second of two files is not there. -/
theorem run_ends_not_found :
    ∃ invocation, Invocation.ofArguments ["--gen-vm", "a", "b"] = .ok invocation ∧
      Ends (.bytes .utf8) invocation (holding []) ⟨[], none⟩ (some (.file ⟨.notFound, "b"⟩))
        (.exit 2) := by
  have parsed : Invocation.ofArguments ["--gen-vm", "a", "b"] =
      .ok { mode := some (.artifact .dispatch), files := ["a", "b"] } := rfl
  have ending : (run (.bytes .utf8) "12:00:00" ["--gen-vm", "a", "b"] (holding [])
      ⟨[], none⟩).ending = .exit 2 := by
    decide +kernel
  have failure : ((Channel.bytes .utf8).through
      (chunks { mode := some (.artifact .dispatch), files := ["a", "b"] } (holding [])
        ⟨[], none⟩)).failure? = some (.file ⟨.notFound, "b"⟩) := by
    decide +kernel
  obtain ⟨refused, -⟩ | ⟨problem, refused, -⟩ | ⟨invocation, accepted, ends⟩ :=
    run_ends (.bytes .utf8) "12:00:00" ["--gen-vm", "a", "b"] (holding []) ⟨[], none⟩
  · rw [parsed] at refused
    obtain refused | refused := refused <;> cases refused
  · rw [parsed] at refused
    cases refused
  · rw [parsed] at accepted
    cases accepted
    exact ⟨_, parsed, ending ▸ failure ▸ ends⟩

/-- A file with records has a character that may not stand in a text. Then a byte that is no
character stands there, in a configuration, and in a source with directives. At last a record has an
identifier that cannot be written, and only what stands in front of it is. -/
theorem run_passes_on :
    (run (.bytes .utf8) "12:00:00" ["--gen-vm", "a"] (holding [1]) ⟨[], none⟩).ending =
        .raised (.source (.unacceptable 1 "a" 0)) ∧
      (∀ arguments ∈ [["--gen-vm", "a"], ["--gen-vm", "--config=a"], ["--pp-include", "a"]],
        (run (.bytes .utf8) "12:00:00" arguments (holding [0xff]) ⟨[], none⟩).ending =
          .raised (.source (.undecodable ⟨0, 1, 0xff, .invalidStart⟩))) ∧
      run (.bytes .utf8) "12:00:00" ["--gen-insttype", "a"]
          (holding (asciiBytes "inst: \x22\\ud800\x22\n")) ⟨[], none⟩ =
        { ending := .raised (.unwritable ⟨.utf8, [0xd800], 6⟩)
          output := "and instruction =\n" } := by
  decide +kernel

end Command

end InstructionSet
