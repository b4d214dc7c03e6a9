/-!
# Source spans

Where a record or a line comes from. A span names its file, or stands for an
unnamed input; line and column are shown only when they are positive, the column
only behind a line, and the document only when it is numbered.
-/

set_option autoImplicit false

namespace InstructionSet

structure Span where
  file : String := ""
  line : Int := 0
  column : Int := 0
  document : Int := -1
deriving DecidableEq, Repr

def shownFile (file : String) : String := if file.isEmpty then "<input>" else file

/-- The numbers stand here in full, also those that have too many digits to be shown. -/
def Span.text (span : Span) : String :=
  let place :=
    if 0 < span.line then
      ":" ++ toString span.line ++ (if 0 < span.column then ":" ++ toString span.column else "")
    else ""
  let document :=
    if 0 ≤ span.document then " (document " ++ toString span.document ++ ")" else ""
  shownFile span.file ++ place ++ document

end InstructionSet
