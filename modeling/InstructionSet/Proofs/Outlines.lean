import InstructionSet.Proofs.ArtifactRows

/-!
# Outlines

An outline is a layout that leaves every level where it has entered it. Its rows are told by depths
alone: a line stands at the depth of the outline and all levels around it. A printer that is given
an outline writes these rows and comes back to the level where it stood (`Printer.run_outline`).

An outline may stop with a failure at any place. A printer then has written the rows in front of
that place, and the blocks around it are left all the same.
-/

set_option autoImplicit false

namespace InstructionSet

inductive Outline where
  | nothing
  | line (text : String)
  | blank (count : Int)
  | fragment (text : String)
  | block (header : String) (levels : Nat) (body : Outline)
  | indented (levels : Nat) (body : Outline)
  | stop (failure : Failure)
  | andThen (first second : Outline)

namespace Outline

/-- The layout that a printer is given. -/
def layout : Outline → Layout
  | nothing => .nothing
  | line text => .line text
  | blank count => .blank count
  | fragment text => .fragment text
  | block header levels body => .block header levels body.layout
  | indented levels body => .indent levels ++ body.layout ++ .dedent levels
  | stop failure => .stop failure
  | andThen first second => first.layout ++ second.layout

/-- The rows of an outline at a depth, were it never stopped. -/
def rows (depth : Nat) : Outline → List Row
  | nothing | stop _ => []
  | line text => [Row.ofLine depth text]
  | blank count => List.replicate count.toNat ⟨0, ""⟩
  | fragment text => (Text.lines text).map (Row.mk depth)
  | block header levels body => Row.ofLine depth header :: body.rows (depth + levels)
  | indented levels body => body.rows (depth + levels)
  | andThen first second => first.rows depth ++ second.rows depth

/-- All levels are entered by blocks. -/
def OnlyBlocks : Outline → Prop
  | nothing | line _ | blank _ | fragment _ | stop _ => True
  | block _ _ body => body.OnlyBlocks
  | indented _ _ => False
  | andThen first second => first.OnlyBlocks ∧ second.OnlyBlocks

/-- A printer that has entered some levels and leaves them is where it was. -/
theorem back_at (depth levels : Nat) : max 0 (((depth + levels : Nat) : Int) - levels) = depth := by
  omega

theorem entered_at (depth levels : Nat) :
    (depth : Int) + (levels : Int) = ((depth + levels : Nat) : Int) := rfl

/-- An outline that nothing stops has all its rows and ends at its own depth. -/
theorem sheet_of_complete {outline : Outline} (complete : outline.layout.failure? = none)
    (depth : Nat) : outline.layout.sheet depth = ⟨outline.rows depth, depth, none⟩ := by
  induction outline generalizing depth with
  | nothing | line | blank => rfl
  | fragment text => simp [layout, Layout.sheet, rows]
  | block header levels body ih =>
      have inner := ih complete (depth + levels)
      simp only [layout, Layout.sheet, entered_at, inner, back_at, rows]
  | indented levels body ih =>
      have ended : body.layout.failure? = none := by
        simpa [layout, Layout.failure?] using complete
      have inner := ih ended (depth + levels)
      simp only [layout, Layout.sheet_append, Layout.sheet, Sheet.followedBy_complete, entered_at,
        inner, back_at, rows, List.nil_append, List.append_nil]
  | stop failure => cases complete
  | andThen first second firstIH secondIH =>
      obtain ⟨firstEnds, secondEnds⟩ := Option.or_eq_none_iff.mp complete
      simp only [layout, Layout.sheet_append, firstIH firstEnds depth, Sheet.followedBy_complete,
        secondIH secondEnds depth, rows]

theorem prefix_of_complete {outline : Outline} (complete : outline.layout.failure? = none)
    (depth : Nat) : (outline.layout.sheet depth).rows <+: outline.rows depth :=
  ⟨[], (List.append_nil _).trans (congrArg Sheet.rows (sheet_of_complete complete depth))⟩

/-- What has been written of an outline are its first rows, wherever it was stopped. -/
theorem rows_sheet_isPrefix (outline : Outline) (depth : Nat) :
    (outline.layout.sheet depth).rows <+: outline.rows depth := by
  induction outline generalizing depth with
  | nothing | line | blank | fragment =>
      exact prefix_of_complete rfl depth
  | block header levels body ih =>
      exact List.cons_prefix_cons.mpr ⟨rfl, ih (depth + levels)⟩
  | indented levels body ih =>
      have inner := ih (depth + levels)
      rw [← entered_at] at inner
      cases ended : (body.layout.sheet (depth + levels)).failure? <;>
        simpa [layout, Layout.sheet, Sheet.followedBy, ended, rows] using inner
  | stop failure => exact List.nil_prefix
  | andThen first second firstIH secondIH =>
      rw [layout, Layout.sheet_append, rows]
      cases ended : first.layout.failure? with
      | none =>
          -- The second outline starts where the first one did.
          rw [sheet_of_complete ended, Sheet.followedBy_complete]
          exact (List.prefix_append_right_inj _).mpr (secondIH depth)
      | some failure =>
          rw [← Layout.sheet_failure? _ depth] at ended
          rw [Sheet.followedBy, ended]
          exact (firstIH depth).trans (List.prefix_append _ _)

/-- Blocks are left wherever an outline was stopped. -/
theorem OnlyBlocks.level_sheet {outline : Outline} (blocks : outline.OnlyBlocks) (depth : Nat) :
    (outline.layout.sheet depth).level = depth := by
  induction outline generalizing depth with
  | nothing | line | blank | fragment | stop => rfl
  | block header levels body ih =>
      simp only [layout, Layout.sheet, entered_at, ih blocks, back_at]
  | indented levels body ih => cases blocks
  | andThen first second firstIH secondIH =>
      rw [layout, Layout.sheet_append]
      cases ended : first.layout.failure? with
      | none =>
          rw [sheet_of_complete ended, Sheet.followedBy_complete]
          exact secondIH blocks.2 depth
      | some failure =>
          rw [← Layout.sheet_failure? _ depth] at ended
          rw [Sheet.followedBy, ended]
          exact firstIH blocks.1 depth

end Outline

/-- A printer writes the rows of an outline at its level behind what it holds, and changes nothing
else. If the outline is stopped it has written the first of these rows, and it is at its level again
if all levels were entered by blocks. -/
theorem Printer.run_outline (outline : Outline) (printer : Printer) (inside : 0 ≤ printer.level) :
    let rows := outline.rows printer.level.toNat
    (outline.layout.failure? = none →
      printer.run outline.layout =
        ({ printer with pending := printer.pending ++ Row.renderAll printer.unit rows }, none)) ∧
    ∀ failure, outline.layout.failure? = some failure →
      ∃ written unwritten level, rows = written ++ unwritten ∧
        printer.run outline.layout =
          ({ printer with pending := printer.pending ++ Row.renderAll printer.unit written, level },
            some failure) ∧
        (outline.OnlyBlocks → level = printer.level) := by
  intro rows
  have depth : (printer.level.toNat : Int) = printer.level := Int.toNat_of_nonneg inside
  constructor
  · intro complete
    have sheet := Outline.sheet_of_complete complete printer.level.toNat
    rw [depth] at sheet
    rw [run_eq, sheet]
    rfl
  · intro failure stopped
    have written := outline.rows_sheet_isPrefix printer.level.toNat
    have level (blocks : outline.OnlyBlocks) := blocks.level_sheet printer.level.toNat
    rw [depth] at written level
    obtain ⟨unwritten, whole⟩ := written
    refine ⟨_, unwritten, _, whole.symm, ?_, level⟩
    rw [run_eq, Layout.sheet_failure?, stopped]
    rfl

/-- Levels that are entered in both ways, with rows that have no depth, and a failure inside two
blocks. -/
theorem Printer.run_outline_nested :
    let printer : Printer := { unit := "\t", pending := "x", level := 1 }
    let outline : Outline :=
      .block "let r =" 2
        (.andThen (.indented 1 (.fragment "a\n ")) (.andThen (.blank 1) (.line " ")))
    let stopped : Outline :=
      .block "begin" 1
        (.andThen (.block "do" 2 (.andThen (.line "a") (.stop .noLayout))) (.line "b"))
    printer.run outline.layout =
        ({ printer with pending := "x\tlet r =\n\t\t\t\ta\n\t\t\t\t \n\n\n" }, none) ∧
      ∃ written unwritten, stopped.rows 1 = written ++ unwritten ∧
        printer.run stopped.layout =
          ({ printer with pending := "x" ++ Row.renderAll "\t" written }, some .noLayout) := by
  intro printer outline stopped
  constructor
  · rw [(Printer.run_outline outline printer (by decide)).1 rfl]
    decide +kernel
  · obtain ⟨written, unwritten, level, whole, run, back⟩ :=
      (Printer.run_outline stopped printer (by decide)).2 .noLayout rfl
    obtain rfl := back ⟨⟨trivial, trivial⟩, trivial⟩
    exact ⟨written, unwritten, whole, run⟩

end InstructionSet
