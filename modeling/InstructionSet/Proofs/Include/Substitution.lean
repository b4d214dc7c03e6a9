import InstructionSet.Proofs.Include.Copies
import InstructionSet.Proofs.Text.Utf8

/-!
# Lines and what takes their place

Each line of a source is copied, or it names a file and the lines of that file take its place,
whatever they are. This goes on up to the first line whose file cannot be read. What has been
written then is what the lines before that one give, and no later line has had a part in it.
-/

set_option autoImplicit false

namespace InstructionSet

/-- All that can be seen of a trace. -/
structure Trace.Shows {α : Type} (trace : Trace α) (items : List α) (notes : List Note)
    (failure? : Option Failure) : Prop where
  items : trace.items = items
  notes : trace.notes = notes
  failure? : trace.failure? = failure?

theorem Trace.Shows.append {α : Type} {first next : Trace α} {items more : List α}
    {notes later : List Note} {failure? : Option Failure} (shown : first.Shows items notes none)
    (shownNext : next.Shows more later failure?) :
    (first ++ next).Shows (items ++ more) (notes ++ later) failure? := by
  obtain ⟨rfl, rfl, complete⟩ := shown
  obtain ⟨rfl, rfl, rfl⟩ := shownNext
  constructor
  · exact items_append_of_failure?_eq_none next complete
  · exact notes_append_of_failure?_eq_none next complete
  · rw [failure?_append, complete, Option.none_or]

namespace Include

/-- The text of a file, or why it cannot be read. -/
def content (files : Files) (path : Path) : Except Failure String := do
  let bytes ← files.read path
  (Text.fileText bytes).mapError fun fault => .source (.undecodable fault)

/-- The file that a line names, if it is a directive. -/
def named? (base : Path) (line : String) : Option Path := (directive? line).map (resolve base)

inductive Replaced (files : Files) (base : Path) (line : String) : List String → Prop where
  | copied : named? base line = none → Replaced files base line [terminated line]
  | included {path : Path} {text : String} :
      named? base line = some path → content files path = .ok text →
      Replaced files base line (splicedLines text)

/-- The file of a line cannot be read. -/
def Unreadable (files : Files) (base : Path) (line : String) (failure : Failure) : Prop :=
  ∃ path, named? base line = some path ∧ content files path = .error failure

def lineSpan (source : String) (number : Nat) : Span := { file := source, line := number }

/-- What the log says when the file of a line is opened. -/
def openingNote? (base : Path) (source : String) (numbered : String × Nat) : Option Note :=
  (named? base numbered.1).map fun path =>
    ⟨.debug, .inclusion, shownFile source ++ ":" ++ toString numbered.2 ++ ": including " ++
      path.text⟩

def openingNotes (base : Path) (source : String) (number : Nat) (lines : List String) :
    List Note :=
  (lines.zipIdx number).filterMap (openingNote? base source)

/-- The files that the lines name are the same in both. -/
def ReadAlike (files other : Files) (base : Path) (lines : List String) : Prop :=
  ∀ path ∈ lines.filterMap (named? base), other.read path = files.read path

section Lines

variable {files : Files} {base : Path} {source : String} {number : Nat} {line : String}

theorem textOf_eq (files : Files) (path : Path) (span : Span) :
    textOf files path span = (content files path).mapError (failureOf span) := by
  unfold textOf content
  cases files.read path with
  | error failure => rfl
  | ok bytes =>
      change (Text.fileText bytes).mapError _ = ((Text.fileText bytes).mapError _).mapError _
      cases Text.fileText bytes <;> rfl

theorem replaced_or_unreadable (files : Files) (base : Path) (line : String) :
    (∃ block, Replaced files base line block) ∨ ∃ failure, Unreadable files base line failure := by
  cases named : named? base line with
  | none => exact .inl ⟨_, .copied named⟩
  | some path =>
      cases read : content files path with
      | ok text => exact .inl ⟨_, .included named read⟩
      | error failure => exact .inr ⟨failure, path, named, read⟩

theorem exists_target {path : Path} (named : named? base line = some path) :
    ∃ target, directive? line = some target ∧ resolve base target = path :=
  Option.map_eq_some_iff.mp named

theorem openingNotes_cons (base : Path) (source : String) (number : Nat) (line : String)
    (rest : List String) :
    openingNotes base source number (line :: rest) =
      (openingNote? base source (line, number)).toList ++
        openingNotes base source (number + 1) rest := by
  simp only [openingNotes, List.zipIdx_cons, List.filterMap_cons]
  cases openingNote? base source (line, number) <;> rfl

theorem openingNotes_singleton (base : Path) (source : String) (number : Nat) (line : String) :
    openingNotes base source number [line] = (openingNote? base source (line, number)).toList := by
  rw [openingNotes_cons]
  exact List.append_nil _

theorem openingNotes_append (base : Path) (source : String) (number : Nat)
    (lines more : List String) :
    openingNotes base source number (lines ++ more) =
      openingNotes base source number lines ++
        openingNotes base source (number + lines.length) more := by
  simp only [openingNotes, List.zipIdx_append, List.filterMap_append]

theorem openingNote?_of_named {path : Path} (named : named? base line = some path) :
    openingNote? base source (line, number) =
      some ⟨.debug, .inclusion,
        shownFile source ++ ":" ++ toString number ++ ": including " ++ path.text⟩ := by
  rw [openingNote?, named]
  rfl

theorem shows_spliceLine {block : List String} (replaced : Replaced files base line block) :
    (spliceLine files base source number line).Shows block
      (openingNote? base source (line, number)).toList none := by
  cases replaced with
  | copied ordinary =>
      have plain : directive? line = none := Option.map_eq_none_iff.mp ordinary
      have unlogged : openingNote? base source (line, number) = none := by
        rw [openingNote?, ordinary]
        rfl
      rw [unlogged]
      simp only [spliceLine, plain]
      exact ⟨rfl, rfl, rfl⟩
  | @included path text named read =>
      rw [openingNote?_of_named named]
      obtain ⟨target, directive, rfl⟩ := exists_target named
      simp only [spliceLine, directive, textOf_eq, read, Except.mapError]
      constructor
      · simp [Trace.items]
      · simp [Trace.notes, Trace.notes_withItems]
      · exact Trace.failure?_withItems _ _

theorem shows_spliceLine_of_unreadable {failure : Failure}
    (unreadable : Unreadable files base line failure) :
    (spliceLine files base source number line).Shows []
      (openingNote? base source (line, number)).toList
      (some (failureOf (lineSpan source number) failure)) := by
  obtain ⟨path, named, unread⟩ := unreadable
  rw [openingNote?_of_named named]
  obtain ⟨target, directive, rfl⟩ := exists_target named
  simp only [spliceLine, directive, textOf_eq, unread, Except.mapError]
  exact ⟨rfl, rfl, rfl⟩

theorem shows_spliceFrom {lines : List String} {blocks : List (List String)}
    (replaced : List.Forall₂ (Replaced files base) lines blocks) :
    (spliceFrom files base source number lines).Shows blocks.flatten
      (openingNotes base source number lines) none := by
  induction replaced generalizing number with
  | nil => exact ⟨rfl, rfl, rfl⟩
  | cons here _ ih =>
      rw [openingNotes_cons]
      exact (shows_spliceLine here).append ih

theorem shows_spliceFrom_of_unreadable {before : List String} {blocks : List (List String)}
    {failure : Failure} (replaced : List.Forall₂ (Replaced files base) before blocks)
    (unreadable : Unreadable files base line failure) :
    (spliceFrom files base source number (before ++ [line])).Shows blocks.flatten
      (openingNotes base source number (before ++ [line]))
      (some (failureOf (lineSpan source (number + before.length)) failure)) := by
  have last : spliceFrom files base source (number + before.length) [line] =
      spliceLine files base source (number + before.length) line := Trace.append_done _
  rw [spliceFrom_append, last, openingNotes_append, openingNotes_singleton,
    ← List.append_nil blocks.flatten]
  exact (shows_spliceFrom replaced).append (shows_spliceLine_of_unreadable unreadable)

/-- Lines behind a failure do not matter. -/
theorem spliceFrom_append_of_failed {lines : List String}
    (failed : (spliceFrom files base source number lines).failure?.isSome = true)
    (more : List String) :
    spliceFrom files base source number (lines ++ more) =
      spliceFrom files base source number lines := by
  rw [spliceFrom_append]
  exact Trace.append_of_failure?_isSome _ failed

/-- Nothing is read but the files that the lines name. -/
theorem spliceFrom_congr {other : Files} {lines : List String}
    (alike : ReadAlike files other base lines) (number : Nat) :
    spliceFrom other base source number lines = spliceFrom files base source number lines := by
  induction lines generalizing number with
  | nil => rfl
  | cons line rest ih =>
      have here : spliceLine other base source number line =
          spliceLine files base source number line := by
        cases directive : directive? line with
        | none => simp only [spliceLine, directive]
        | some target =>
            have same : other.read (resolve base target) = files.read (resolve base target) := by
              refine alike _ (List.mem_filterMap.mpr ⟨line, List.mem_cons_self, ?_⟩)
              rw [named?, directive]
              rfl
            simp only [spliceLine, directive, textOf, same]
      have behind : ReadAlike files other base rest := by
        intro path member
        obtain ⟨naming, naming_mem, named⟩ := List.mem_filterMap.mp member
        exact alike path
          (List.mem_filterMap.mpr ⟨naming, List.mem_cons_of_mem _ naming_mem, named⟩)
      rw [spliceFrom, spliceFrom, here, ih behind]

theorem readable_or_first_unreadable (files : Files) (base : Path) (lines : List String) :
    (∃ blocks, List.Forall₂ (Replaced files base) lines blocks) ∨
      ∃ before line after blocks failure, lines = before ++ line :: after ∧
        List.Forall₂ (Replaced files base) before blocks ∧
        Unreadable files base line failure := by
  induction lines with
  | nil => exact .inl ⟨[], .nil⟩
  | cons line rest ih =>
      rcases replaced_or_unreadable files base line with ⟨block, here⟩ | ⟨failure, unreadable⟩
      · rcases ih with ⟨blocks, behind⟩ | ⟨before, other, after, blocks, failure, rfl, facts⟩
        · exact .inl ⟨block :: blocks, .cons here behind⟩
        · exact .inr ⟨line :: before, other, after, block :: blocks, failure, rfl,
            .cons here facts.1, facts.2⟩
      · exact .inr ⟨[], line, rest, [], failure, rfl, .nil, unreadable⟩

/-! ## Ends of lines -/

theorem exists_terminated_eq (line : String) : ∃ front, terminated line = front ++ "\n" := by
  unfold terminated
  split
  · rename_i last
    obtain ⟨front, ends⟩ := List.getLast?_eq_some_iff.mp (beq_iff_eq.mp last)
    exact ⟨String.ofList front, String.toList_inj.mp (by simpa using ends)⟩
  · exact ⟨line, rfl⟩

theorem Replaced.exists_eq_of_mem {block : List String} (replaced : Replaced files base line block)
    {item : String} (member : item ∈ block) : ∃ front, item = front ++ "\n" := by
  cases replaced with
  | copied =>
      obtain rfl := List.mem_singleton.mp member
      exact exists_terminated_eq line
  | included =>
      obtain ⟨whole, -, rfl⟩ := List.mem_map.mp member
      exact exists_terminated_eq whole

/-! ## The whole result -/

def bannerLines : List String := banner.map (· ++ "\n")

theorem shows_withBanner {trace : Trace String} {items : List String} {notes : List Note}
    {failure? : Option Failure} (shown : trace.Shows items notes failure?) :
    (withBanner trace).Shows (bannerLines ++ items) notes failure? := by
  obtain ⟨rfl, rfl, rfl⟩ := shown
  constructor
  · exact Trace.items_withItems _ _
  · exact Trace.notes_withItems _ _
  · exact Trace.failure?_withItems _ _

/-- A file that cannot be opened is reported at the line that names it. -/
theorem exists_report_of_file (span : Span) (problem : FileProblem) (shown : String) :
    ∃ report : Diagnostic, failureOf span (.file ⟨problem, shown⟩) = .diagnostic report ∧
      report.span = span ∧ report.cause = .inclusion shown (problem ≠ .notFound) ∧
      report.code = if problem = .notFound then .includeNotFound else .includeUnreadable := by
  cases problem <;> exact ⟨_, rfl, rfl, rfl, rfl⟩

/-- A result that ends at a line, behind what the lines before it give. -/
structure StopsAt (files : Files) (base : Path) (source : String) (before : List String)
    (line : String) (written : List String) (failure : Failure) (result : Trace String) : Prop where
  shows : result.Shows written (openingNotes base source 1 (before ++ [line]))
    (some (failureOf (lineSpan source (before.length + 1)) failure))
  reported : ∀ problem shown, failure = .file ⟨problem, shown⟩ →
    ∃ report : Diagnostic, result.failure? = some (.diagnostic report) ∧
      report.span = lineSpan source (before.length + 1) ∧
      report.cause = .inclusion shown (problem ≠ .notFound) ∧
      report.code = if problem = .notFound then .includeNotFound else .includeUnreadable
  untouched : ∀ (other : Files) (more : List String),
    ReadAlike files other base (before ++ [line]) →
    ofLines other base source (before ++ line :: more) = result

theorem shows_ofLines {lines : List String} {blocks : List (List String)}
    (replaced : List.Forall₂ (Replaced files base) lines blocks) :
    (ofLines files base source lines).Shows (bannerLines ++ blocks.flatten)
      (openingNotes base source 1 lines) none :=
  shows_withBanner (shows_spliceFrom replaced)

theorem stopsAt_ofLines {before : List String} {blocks : List (List String)} {failure : Failure}
    (replaced : List.Forall₂ (Replaced files base) before blocks)
    (unreadable : Unreadable files base line failure) (after : List String) :
    StopsAt files base source before line (bannerLines ++ blocks.flatten) failure
      (ofLines files base source (before ++ line :: after)) := by
  have shown : (spliceFrom files base source 1 (before ++ [line])).Shows _ _ _ :=
    shows_spliceFrom_of_unreadable replaced unreadable
  have failed : (spliceFrom files base source 1 (before ++ [line])).failure?.isSome = true := by
    rw [shown.failure?]
    rfl
  have whole : ofLines files base source (before ++ line :: after) =
      withBanner (spliceFrom files base source 1 (before ++ [line])) := by
    rw [ofLines, List.append_cons, spliceFrom_append_of_failed failed]
  have shownWhole := shows_withBanner shown
  rw [← whole, Nat.add_comm 1 before.length] at shownWhole
  constructor
  · exact shownWhole
  · intro problem path opening
    subst opening
    obtain ⟨report, same, facts⟩ :=
      exists_report_of_file (lineSpan source (before.length + 1)) problem path
    exact ⟨report, shownWhole.failure?.trans (congrArg some same), facts⟩
  · intro other more alike
    -- The other files fail at the line, too: its file is the same in both.
    rw [← spliceFrom_congr alike] at failed whole
    rw [whole, ofLines, List.append_cons, spliceFrom_append_of_failed failed]

theorem exists_eq_of_mem_flatten {lines : List String} {blocks : List (List String)}
    (replaced : List.Forall₂ (Replaced files base) lines blocks) {item : String}
    (member : item ∈ bannerLines ++ blocks.flatten) : ∃ front, item = front ++ "\n" := by
  rcases List.mem_append.mp member with inBanner | inBlocks
  · obtain ⟨front, -, rfl⟩ := List.mem_map.mp inBanner
    exact ⟨front, rfl⟩
  · obtain ⟨block, blockMember, member⟩ := List.mem_flatten.mp inBlocks
    obtain ⟨_, -, here⟩ := exists_of_mem_right replaced blockMember
    exact here.exists_eq_of_mem member

end Lines

/-- Behind the ten lines of the banner, the lines are replaced one by one, each by itself or by the
lines of the file it names, up to the first whose file cannot be read. One of the two always
holds: all lines are replaced, or there is such a line. Only files that the lines name are read,
and none behind that line. -/
theorem ofLines_line_by_line (files : Files) (base : Path) (source : String)
    (lines : List String) :
    let result := ofLines files base source lines
    bannerLines.length = 10 ∧
    (∀ item ∈ result.items, ∃ front, item = front ++ "\n") ∧
    (∀ other : Files, ReadAlike files other base lines → ofLines other base source lines = result) ∧
    (∀ blocks, List.Forall₂ (Replaced files base) lines blocks →
      result.Shows (bannerLines ++ blocks.flatten) (openingNotes base source 1 lines) none) ∧
    (∀ before line after blocks failure, lines = before ++ line :: after →
      List.Forall₂ (Replaced files base) before blocks → Unreadable files base line failure →
      StopsAt files base source before line (bannerLines ++ blocks.flatten) failure result) ∧
    ((∃ blocks, List.Forall₂ (Replaced files base) lines blocks) ∨
      ∃ before line after blocks failure, lines = before ++ line :: after ∧
        List.Forall₂ (Replaced files base) before blocks ∧
        Unreadable files base line failure) := by
  intro result
  have cases := readable_or_first_unreadable files base lines
  refine ⟨rfl, ?_, ?_, fun blocks => shows_ofLines, ?_, cases⟩
  · intro item member
    rcases cases with ⟨blocks, replaced⟩ | ⟨before, line, after, blocks, failure, rfl, facts⟩
    · rw [(shows_ofLines replaced).items] at member
      exact exists_eq_of_mem_flatten replaced member
    · rw [(stopsAt_ofLines facts.1 facts.2 after).shows.items] at member
      exact exists_eq_of_mem_flatten facts.1 member
  · intro other alike
    exact congrArg withBanner (spliceFrom_congr alike 1)
  · intro before line after blocks failure split replaced unreadable
    subst split
    exact stopsAt_ofLines replaced unreadable after

def goneLine : String := "(**** include: gone ****)"

/-- A page that includes itself is copied once. The file of a later line is not there, and the line
behind that one is not reached. -/
theorem ofLines_line_by_line_gone :
    let files := pageOf (Text.Utf8.encode pageLine.toList)
    let result := ofLines files {} "src" [pageLine, "x", goneLine, pageLine]
    List.Forall₂ (Replaced files {}) [pageLine, "x"] [[pageLine], ["x\n"]] ∧
      Unreadable files {} goneLine (.file ⟨.notFound, "gone"⟩) ∧
      result.items = bannerLines ++ [pageLine, "x\n"] ∧
      result.notes = [⟨.debug, .inclusion, "src:1: including page"⟩,
        ⟨.debug, .inclusion, "src:3: including gone"⟩] ∧
      result.failure? = some (.ofCause { file := "src", line := 3 } (.inclusion "gone" false)) := by
  intro files result
  have page : named? {} pageLine = some (Path.enter {} "page") := by decide +kernel
  have text : content files (Path.enter {} "page") = .ok pageLine := by decide +kernel
  have replaced : List.Forall₂ (Replaced files {}) [pageLine, "x"] [[pageLine], ["x\n"]] := by
    refine .cons ?_ (.cons (.copied (by decide +kernel)) .nil)
    have spliced : splicedLines pageLine = [pageLine] := by decide +kernel
    exact spliced ▸ .included page text
  have unreadable : Unreadable files {} goneLine (.file ⟨.notFound, "gone"⟩) :=
    ⟨Path.enter {} "gone", by decide +kernel, by decide +kernel⟩
  obtain ⟨-, -, -, -, stops, -⟩ :=
    ofLines_line_by_line files {} "src" [pageLine, "x", goneLine, pageLine]
  have stopped := (stops _ _ _ _ _ rfl replaced unreadable).shows
  exact ⟨replaced, unreadable, stopped.items, stopped.notes.trans (by decide +kernel),
    stopped.failure?⟩

end Include

end InstructionSet
