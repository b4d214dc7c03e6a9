import InstructionSet.Proofs.Include.Directives
import InstructionSet.Proofs.Include.Substitution

/-!
# Lines that stay as they are

A line that ends with a line feed and is no directive is settled: it comes out of a run as it went
in. The banner is settled, and so is all that is written for a source, except for directives
that come from an included file. Without those, a second run adds its banner and nothing else.
-/

set_option autoImplicit false

namespace InstructionSet.Include

structure Settled (line : String) : Prop where
  ended : terminated line = line
  plain : directive? line = none

/-- No directive stands among the lines of the files that the lines name. -/
def PlainInclusions (files : Files) (base : Path) (lines : List String) : Prop :=
  ∀ line ∈ lines, ∀ path text, named? base line = some path → content files path = .ok text →
    ∀ included ∈ splicedLines text, directive? included = none

/-! ## Ends of lines and directives -/

theorem withoutEnd_terminated (line : String) :
    withoutEnd (terminated line).toList = withoutEnd line.toList := by
  unfold terminated
  split
  · rfl
  · rw [String.toList_append]
    exact List.rdropWhile_concat_pos endsLine line.toList '\n' rfl

/-- A line feed at the end makes no line a directive and keeps none from being one. -/
theorem directive?_terminated (line : String) : directive? (terminated line) = directive? line := by
  rw [directive?_eq_pathOf?, directive?_eq_pathOf?, withoutEnd_terminated]

theorem terminated_feed (front : String) : terminated (front ++ "\n") = front ++ "\n" := by
  have feed : (front ++ "\n").toList.getLast? = some '\n' := by
    rw [String.toList_append]
    exact List.getLast?_concat
  rw [terminated, feed]
  rfl

theorem terminated_terminated (line : String) :
    terminated (terminated line) = terminated line := by
  obtain ⟨front, ends⟩ := exists_terminated_eq line
  rw [ends, terminated_feed]

theorem settled_terminated_iff (line : String) :
    Settled (terminated line) ↔ directive? line = none := by
  rw [← directive?_terminated]
  exact ⟨Settled.plain, fun plain => ⟨terminated_terminated line, plain⟩⟩

theorem settled_of_mem_bannerLines {line : String} (member : line ∈ bannerLines) :
    Settled line := by
  have checked : ∀ line ∈ bannerLines, terminated line = line ∧ directive? line = none := by
    decide +kernel
  exact ⟨(checked line member).1, (checked line member).2⟩

theorem named?_eq_none_iff (base : Path) (line : String) :
    named? base line = none ↔ directive? line = none :=
  Option.map_eq_none_iff

/-! ## Runs over settled lines -/

section Runs

variable {files : Files} {base : Path} {source : String} {lines : List String}

theorem spliceFrom_of_settled (settled : ∀ line ∈ lines, Settled line) (number : Nat) :
    spliceFrom files base source number lines = Trace.withItems lines .done := by
  induction lines generalizing number with
  | nil => rfl
  | cons line rest ih =>
      obtain ⟨here, behind⟩ := List.forall_mem_cons.mp settled
      rw [spliceFrom, spliceLine, here.plain, here.ended, ih behind]
      rfl

/-- A run that opens no file has met no directive. -/
theorem plain_of_notes_eq_nil {number : Nat}
    (unopened : (spliceFrom files base source number lines).notes = []) :
    ∀ line ∈ lines, directive? line = none := by
  induction lines generalizing number with
  | nil => exact fun line member => by cases member
  | cons line rest ih =>
      rw [spliceFrom, spliceLine] at unopened
      cases directive : directive? line with
      | none =>
          rw [directive] at unopened
          exact List.forall_mem_cons.mpr ⟨directive, ih unopened⟩
      | some target =>
          rw [directive] at unopened
          cases unopened

/-! ## What a run writes -/

theorem Replaced.settled_iff {line : String} {block : List String}
    (replaced : Replaced files base line block) :
    (∀ item ∈ block, Settled item) ↔ PlainInclusions files base [line] := by
  simp only [PlainInclusions, List.mem_singleton, forall_eq]
  cases replaced with
  | copied ordinary =>
      have plain := (named?_eq_none_iff base line).mp ordinary
      simp [settled_terminated_iff, plain, ordinary]
  | @included path text named read =>
      have alone : (∀ other found, named? base line = some other → content files other = .ok found →
          ∀ included ∈ splicedLines found, directive? included = none) ↔
          ∀ included ∈ splicedLines text, directive? included = none := by
        constructor
        · exact fun all => all path text named read
        · intro plain other found sameNamed sameRead
          obtain rfl := Option.some.inj (named.symm.trans sameNamed)
          obtain rfl := Except.ok.inj (read.symm.trans sameRead)
          exact plain
      rw [alone]
      simp only [splicedLines, List.forall_mem_map, settled_terminated_iff, directive?_terminated]

theorem settled_flatten_iff {blocks : List (List String)}
    (replaced : List.Forall₂ (Replaced files base) lines blocks) :
    (∀ item ∈ blocks.flatten, Settled item) ↔ PlainInclusions files base lines := by
  induction replaced with
  | nil => simp [PlainInclusions]
  | @cons line block lines blocks here _ ih =>
      have apart : PlainInclusions files base (line :: lines) ↔
          PlainInclusions files base [line] ∧ PlainInclusions files base lines := by
        simp [PlainInclusions]
      rw [apart, ← ih, ← here.settled_iff, List.flatten_cons, List.forall_mem_append]

end Runs

/-- A run over what a complete run has written, with any files, puts the banner in front and changes
nothing else, opening no file, if no line of an included file is a directive. It opens a file
if there is one. -/
theorem ofLines_idempotent (files : Files) (base : Path) (source : String) (lines : List String)
    (complete : (ofLines files base source lines).failure? = none)
    (other : Files) (otherBase : Path) (otherSource : String) :
    let output := (ofLines files base source lines).items
    let again := ofLines other otherBase otherSource output
    (PlainInclusions files base lines → again = withBanner (Trace.withItems output .done)) ∧
      (again.notes = [] → PlainInclusions files base lines) := by
  intro output again
  rcases readable_or_first_unreadable files base lines with
    ⟨blocks, replaced⟩ | ⟨before, line, after, blocks, failure, rfl, replaced, unreadable⟩
  · have written : output = bannerLines ++ blocks.flatten := (shows_ofLines replaced).items
    have settled : (∀ item ∈ output, Settled item) ↔ PlainInclusions files base lines := by
      rw [written, List.forall_mem_append, settled_flatten_iff replaced]
      exact and_iff_right fun item => settled_of_mem_bannerLines
    constructor
    · intro plain
      exact congrArg withBanner (spliceFrom_of_settled (settled.mpr plain) 1)
    · intro unopened
      have unlogged := (Trace.notes_withItems _ _).symm.trans unopened
      refine settled.mp fun item member => ⟨?_, plain_of_notes_eq_nil unlogged item member⟩
      obtain ⟨front, rfl⟩ := exists_eq_of_mem_flatten replaced (written ▸ member)
      exact terminated_feed front
  · have stops : StopsAt files base source before line (bannerLines ++ blocks.flatten) failure
        (ofLines files base source (before ++ line :: after)) :=
      stopsAt_ofLines replaced unreadable after
    rw [stops.shows.failure?] at complete
    cases complete

/-- A page of two lines, the last without a line feed, behind a line that ends with a carriage
return. -/
theorem ofLines_idempotent_page :
    let files := pageOf [120, 10, 121]
    let output := bannerLines ++ ["a\r\n", "x\n", "y\n"]
    (ofLines files {} "" ["a\r", pageLine]).failure? = none ∧
      PlainInclusions files {} ["a\r", pageLine] ∧
      (ofLines files {} "" ["a\r", pageLine]).items = output ∧
      ofLines (pageOf []) {} "" output = withBanner (Trace.withItems output .done) := by
  intro files output
  have complete : (ofLines files {} "" ["a\r", pageLine]).failure? = none := by decide +kernel
  have written : (ofLines files {} "" ["a\r", pageLine]).items = output := by decide +kernel
  have replaced :
      List.Forall₂ (Replaced files {}) ["a\r", pageLine] [["a\r\n"], ["x\n", "y\n"]] := by
    have page : named? {} pageLine = some (Path.enter {} "page") := by decide +kernel
    have text : content files (Path.enter {} "page") = .ok "x\ny" := by decide +kernel
    have spliced : splicedLines "x\ny" = ["x\n", "y\n"] := by decide +kernel
    refine .cons (.copied (by decide +kernel)) (.cons ?_ .nil)
    exact spliced ▸ .included page text
  have plain : PlainInclusions files {} ["a\r", pageLine] := by
    have checked : ∀ item ∈ [["a\r\n"], ["x\n", "y\n"]].flatten,
        terminated item = item ∧ directive? item = none := by
      decide +kernel
    exact (settled_flatten_iff replaced).mp fun item member =>
      ⟨(checked item member).1, (checked item member).2⟩
  have again := (ofLines_idempotent files {} "" _ complete (pageOf []) {} "").1 plain
  rw [written] at again
  exact ⟨complete, plain, written, again⟩

end InstructionSet.Include
