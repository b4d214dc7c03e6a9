import InstructionSet.Layout.Basic
import InstructionSet.Text.Blank
import InstructionSet.Text.Lines

/-!
# The printer

The printer holds the text written since the last flush and the level of
indentation. Leaving a level never goes below zero, and a flush starts again at
level zero. A line of blanks is written as an empty line, but the lines of a
fragment are written behind the indentation as they are.
-/

set_option autoImplicit false

namespace InstructionSet

structure Printer where
  unit : String := "  "
  pending : String := ""
  level : Int := 0
  blocks : List Int := []
deriving DecidableEq, Repr

namespace Printer

/-- A unit of indentation some times over; a negative count is none. -/
def indentation (unit : String) (level : Int) : String :=
  String.join (List.replicate level.toNat unit)

def write (text : String) (printer : Printer) : Printer :=
  { printer with pending := printer.pending ++ text }

def emit (text : String) (printer : Printer) : Printer :=
  if Text.allBlank text then printer.write "\n"
  else printer.write (indentation printer.unit printer.level ++ text ++ "\n")

/-- Writes empty lines; a negative count is none. -/
def blank (count : Int) (printer : Printer) : Printer :=
  printer.write (String.ofList (List.replicate count.toNat '\n'))

/-- Writes each line of a text behind the indentation. -/
def fragment (text : String) (printer : Printer) : Printer :=
  printer.write (String.join ((Text.lines text).map fun line =>
    indentation printer.unit printer.level ++ line ++ "\n"))

def indent (levels : Int) (printer : Printer) : Printer :=
  { printer with level := printer.level + levels }

def dedent (levels : Int) (printer : Printer) : Printer :=
  { printer with level := max 0 (printer.level - levels) }

def enter (header : String) (levels : Int) (printer : Printer) : Printer :=
  let printer := (printer.emit header).indent levels
  { printer with blocks := levels :: printer.blocks }

def leave (printer : Printer) : Printer :=
  match printer.blocks with
  | [] => printer
  | levels :: blocks => { printer with blocks }.dedent levels

/-- Hands out the text written and starts again at level zero. -/
def flush (printer : Printer) : String × Printer :=
  (printer.pending, { printer with pending := "", level := 0 })

def run : Layout → Printer → Printer × Option Failure
  | .nothing, printer => (printer, none)
  | .line text, printer => (printer.emit text, none)
  | .blank count, printer => (printer.blank count, none)
  | .fragment text, printer => (printer.fragment text, none)
  | .indent levels, printer => (printer.indent levels, none)
  | .dedent levels, printer => (printer.dedent levels, none)
  | .block header levels body, printer =>
      let (printer, failure?) := run body (printer.enter header levels)
      (printer.leave, failure?)
  | .stop failure, printer => (printer, some failure)
  | .andThen first second, printer =>
      match run first printer with
      | (printer, some failure) => (printer, some failure)
      | (printer, none) => run second printer

end Printer

end InstructionSet
