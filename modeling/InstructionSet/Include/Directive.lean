import InstructionSet.Text.Blank
import InstructionSet.Text.Pattern

/-!
# Include directives

A line is a directive when it has an opener, behind that the word `include` with a
colon, blanks between them allowed, and behind that a closer. The path is what stands
between colon and closer, without the blanks around it. A directive with an empty path
is none.

The parts are matched in a row. What stands in front of the opener is as short as it can
be, what stands in front of the word is as long as it can be, and what stands in front of
the closer is as short as it can be.
-/

set_option autoImplicit false

namespace InstructionSet.Include

def opener : List Char := ['(', '*', '*', '*', '*']

def closer : List Char := ['*', '*', '*', '*', ')']

def keyword : List Char := ['i', 'n', 'c', 'l', 'u', 'd', 'e']

def endsLine (c : Char) : Bool := c == '\r' || c == '\n'

def withoutEnd (chars : List Char) : List Char := (chars.reverse.dropWhile endsLine).reverse

def isInline (c : Char) : Bool := c != '\n'

def isSpace (c : Char) : Bool := c == ' '

namespace Grammar

def lead : Text.Pattern := .andThen (.lazy isInline) (.ahead (.literal opener))

/-- A path up to the closer. The blanks around it are not kept as far as they are
spaces. -/
def target : Text.Pattern :=
  .andThen (.greedy isSpace)
    (.andThen (.group (.lazy isInline))
      (.andThen (.greedy isSpace) (.ahead (.literal closer))))

/-- The word with its colon, and the path. -/
def naming : Text.Pattern :=
  .andThen (.literal keyword)
    (.andThen (.greedy isSpace) (.andThen (.literal [':']) target))

def path : Text.Pattern := .andThen (.greedy isInline) naming

def tail : Text.Pattern := .greedy isInline

def directive : List Text.Pattern := [lead, .literal opener, path, .literal closer, tail]

end Grammar

/-- The path of a directive without a line ending. -/
def pathOf? (chars : List Char) : Option (List Char) := do
  let kept ← Text.Pattern.matchRow? Grammar.directive chars
  let path := Text.trim (kept.getD 2 [])
  if path.isEmpty then none else some path

def mentions (word : List Char) : List Char → Bool
  | [] => word.isEmpty
  | c :: rest => word.isPrefixOf (c :: rest) || mentions word rest

/-- The path that a line includes, if the line is a directive. -/
def directive? (line : String) : Option String :=
  let chars := withoutEnd line.toList
  if mentions keyword chars then (pathOf? chars).map String.ofList else none

end InstructionSet.Include
