import InstructionSet.Failure

/-!
# Layouts

A layout says what is written line by line: texts, empty lines, fragments that keep
their own lines, and how deep all of it stands. A block is a header with a body
that stands deeper. A layout may stop with a failure; nothing after that is
written, but the blocks around it are still left.
-/

set_option autoImplicit false

namespace InstructionSet

inductive Layout where
  | nothing
  | line (text : String)
  | blank (count : Int)
  | fragment (text : String)
  | indent (levels : Int)
  | dedent (levels : Int)
  | block (header : String) (levels : Int) (body : Layout)
  | stop (failure : Failure)
  | andThen (first second : Layout)

namespace Layout

instance : Append Layout := ⟨andThen⟩

def all : List Layout → Layout
  | [] => nothing
  | layout :: rest => layout ++ all rest

def lines (texts : List String) : Layout := all (texts.map line)

/-- A line at a given number of levels from the left margin. -/
def lineAt (depth : Nat) (text : String) : Layout :=
  indent depth ++ line text ++ dedent depth

/-- Goes on with a value, or stops with its failure. -/
def withValue {α : Type} (value : Except Failure α) (next : α → Layout) : Layout :=
  match value with
  | .ok value => next value
  | .error failure => stop failure

end Layout

end InstructionSet
