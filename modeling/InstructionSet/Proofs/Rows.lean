import InstructionSet.Layout.Printer

/-!
# Rows of layouts

A layout writes the same rows on every printer that stands at the same level,
whatever the printer holds and however wide its unit of indentation is. The sheet
of a layout has those rows, and every run of a printer is an instance of it
(`Printer.run_eq`).
-/

set_option autoImplicit false

namespace InstructionSet

/-- One line of output: a text, and how many levels deep it stands. -/
structure Row where
  depth : Nat
  text : String
deriving DecidableEq, Repr

namespace Row

/-- The row of a line at a level. A line of blanks has no depth and no text. -/
def ofLine (level : Int) (text : String) : Row :=
  if Text.allBlank text then ⟨0, ""⟩ else ⟨level.toNat, text⟩

def render (unit : String) (row : Row) : String :=
  Printer.indentation unit row.depth ++ row.text ++ "\n"

def renderAll (unit : String) (rows : List Row) : String := String.join (rows.map (render unit))

@[simp] theorem renderAll_nil (unit : String) : renderAll unit [] = "" := rfl

@[simp] theorem renderAll_append (unit : String) (rows more : List Row) :
    renderAll unit (rows ++ more) = renderAll unit rows ++ renderAll unit more := by
  simp [renderAll]

@[simp] theorem renderAll_singleton (unit : String) (row : Row) :
    renderAll unit [row] = row.render unit := by
  simp [renderAll]

theorem renderAll_cons (unit : String) (row : Row) (rows : List Row) :
    renderAll unit (row :: rows) = row.render unit ++ renderAll unit rows := by
  rw [← List.singleton_append, renderAll_append, renderAll_singleton]

theorem exists_renderAll_eq_append_lineFeed (unit : String) {rows : List Row}
    (written : rows ≠ []) : ∃ front, renderAll unit rows = front ++ "\n" := by
  obtain ⟨front, last, rfl⟩ := List.eq_nil_or_concat rows |>.resolve_left written
  refine ⟨renderAll unit front ++ (Printer.indentation unit last.depth ++ last.text), ?_⟩
  simp [render, String.append_assoc]

end Row

/-- What a layout writes, the level where it leaves off, and how it failed if it did. -/
structure Sheet where
  rows : List Row
  level : Int
  failure? : Option Failure
deriving DecidableEq

/-- A sheet goes on where another leaves off, unless that one failed. -/
def Sheet.followedBy (sheet : Sheet) (next : Int → Sheet) : Sheet :=
  match sheet.failure? with
  | some _ => sheet
  | none =>
      let more := next sheet.level
      ⟨sheet.rows ++ more.rows, more.level, more.failure?⟩

@[simp] theorem Sheet.followedBy_complete (rows : List Row) (level : Int)
    (next : Int → Sheet) :
    (Sheet.mk rows level none).followedBy next =
      ⟨rows ++ (next level).rows, (next level).level, (next level).failure?⟩ := rfl

def Layout.sheet : Layout → Int → Sheet
  | .nothing, level => ⟨[], level, none⟩
  | .line text, level => ⟨[Row.ofLine level text], level, none⟩
  | .blank count, level => ⟨List.replicate count.toNat ⟨0, ""⟩, level, none⟩
  | .fragment text, level => ⟨(Text.lines text).map (Row.mk level.toNat), level, none⟩
  | .indent levels, level => ⟨[], level + levels, none⟩
  | .dedent levels, level => ⟨[], max 0 (level - levels), none⟩
  | .block header levels body, level =>
      let inner := body.sheet (level + levels)
      ⟨Row.ofLine level header :: inner.rows, max 0 (inner.level - levels), inner.failure?⟩
  | .stop failure, level => ⟨[], level, some failure⟩
  | .andThen first second, level => (first.sheet level).followedBy second.sheet

namespace Printer

variable (printer : Printer)

@[simp] theorem indentation_toNat (unit : String) (level : Int) :
    indentation unit level.toNat = indentation unit level := by
  unfold indentation
  rw [Int.toNat_natCast]

@[simp] theorem indentation_zero (unit : String) : indentation unit 0 = "" := rfl

theorem feed_not_mem_indentation {unit : String} (unbroken : '\n' ∉ unit.toList) (level : Int) :
    '\n' ∉ (indentation unit level).toList := by
  simp [indentation, unbroken]

theorem emit_eq (text : String) :
    printer.emit text = printer.write ((Row.ofLine printer.level text).render printer.unit) := by
  unfold emit Row.ofLine
  split
  · simp [Row.render]
  · simp only [Row.render, indentation_toNat]

theorem fragment_eq (text : String) :
    printer.fragment text =
      printer.write (Row.renderAll printer.unit
        ((Text.lines text).map (Row.mk printer.level.toNat))) := by
  simp only [fragment, Row.renderAll, List.map_map, Function.comp_def, Row.render,
    indentation_toNat]

theorem blank_eq (count : Int) :
    printer.blank count =
      printer.write (Row.renderAll printer.unit (List.replicate count.toNat ⟨0, ""⟩)) := by
  have feeds (n : Nat) : String.ofList (List.replicate n '\n') =
      Row.renderAll printer.unit (List.replicate n ⟨0, ""⟩) := by
    induction n with
    | zero => rfl
    | succ n ih =>
        rw [List.replicate_succ, List.replicate_succ, Row.renderAll_cons, ← ih]
        simp [Row.render]
  rw [blank, feeds]

/-- The printer after a sheet: its text has grown by the rows and only its level has
changed besides. -/
def after (sheet : Sheet) : Printer :=
  { printer with
    pending := printer.pending ++ Row.renderAll printer.unit sheet.rows
    level := sheet.level }

/-- A run of a printer appends the sheet of the layout at the printer's level. -/
theorem run_eq (layout : Layout) :
    printer.run layout =
      (printer.after (layout.sheet printer.level), (layout.sheet printer.level).failure?) := by
  induction layout generalizing printer with
  | nothing => simp [run, Layout.sheet, after]
  | line text => simp [run, Layout.sheet, after, emit_eq, write]
  | blank count => simp [run, Layout.sheet, after, blank_eq, write]
  | fragment text => simp [run, Layout.sheet, after, fragment_eq, write]
  | indent levels => simp [run, Layout.sheet, after, indent]
  | dedent levels => simp [run, Layout.sheet, after, dedent]
  | block header levels body ih =>
      have entered : printer.enter header levels =
          { printer with
            pending := printer.pending ++ (Row.ofLine printer.level header).render printer.unit
            level := printer.level + levels
            blocks := levels :: printer.blocks } := by
        simp [enter, emit_eq, write, indent]
      rw [run, ih, entered]
      simp [Layout.sheet, after, leave, dedent, Row.renderAll_cons, String.append_assoc]
  | stop failure => simp [run, Layout.sheet, after]
  | andThen first second firstIH secondIH =>
      rw [run, firstIH]
      cases ended : (first.sheet printer.level).failure? with
      | some failure => simp [Layout.sheet, Sheet.followedBy, ended]
      | none =>
          simp only [secondIH]
          simp [Layout.sheet, Sheet.followedBy, ended, after, String.append_assoc]

end Printer

end InstructionSet
