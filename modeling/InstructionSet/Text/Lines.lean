/-!
# Lines

A text is cut into lines at ten kinds of boundary; a carriage return followed by
a line feed is one boundary. Each line keeps its content and its ending apart, so
the lines of a text, endings included, join to the text again
(`flatMap_whole_cut`).
-/

set_option autoImplicit false

namespace InstructionSet.Text

def isLineBoundary (c : Char) : Bool :=
  let n := c.toNat
  (10 ≤ n && n ≤ 13) || (28 ≤ n && n ≤ 30) || n == 0x85 || n == 0x2028 || n == 0x2029

/-- One line: what stands before its boundary, and the boundary. The ending is
empty only for a last line that no boundary closes. -/
structure Line where
  content : List Char
  ending : List Char
deriving DecidableEq, Repr

namespace Line

def whole (line : Line) : List Char := line.content ++ line.ending

def push (c : Char) (line : Line) : Line := { line with content := c :: line.content }

@[simp] theorem whole_push (c : Char) (line : Line) : (line.push c).whole = c :: line.whole := rfl

/-- The lines of a text in order. -/
def cut : List Char → List Line
  | [] => []
  | '\r' :: '\n' :: rest => ⟨[], ['\r', '\n']⟩ :: cut rest
  | c :: rest =>
      if isLineBoundary c then ⟨[], [c]⟩ :: cut rest
      else match cut rest with
        | [] => [⟨[c], []⟩]
        | line :: lines => line.push c :: lines

/-- The lines of a text with their endings join to the text. -/
theorem flatMap_whole_cut (chars : List Char) : (cut chars).flatMap whole = chars := by
  fun_induction cut chars with
  | case1 => rfl
  | case2 rest ih => simp [whole, ih]
  | case3 c rest _ boundary ih => simp [whole, ih]
  | case4 c rest _ inside none ih =>
      rw [none] at ih
      simp only [List.flatMap_nil] at ih
      simp [whole, ← ih]
  | case5 c rest _ inside line lines some ih =>
      rw [some] at ih
      simp only [List.flatMap_cons] at ih
      simp [ih]

end Line

def lines (text : String) : List String :=
  (Line.cut text.toList).map fun line => String.ofList line.content

def linesWithEndings (text : String) : List String :=
  (Line.cut text.toList).map fun line => String.ofList line.whole

/-- A text read from a file has one kind of newline: a carriage return, alone or
before a line feed, is read as a line feed. -/
def normalizeNewlines : List Char → List Char
  | [] => []
  | '\r' :: '\n' :: rest => '\n' :: normalizeNewlines rest
  | c :: rest => (if c == '\r' then '\n' else c) :: normalizeNewlines rest

/-- The lines of an open file, each with its line feed: only a line feed ends a
line here. -/
def feedLines : List Char → List (List Char)
  | [] => []
  | c :: rest =>
      if c == '\n' then ['\n'] :: feedLines rest
      else match feedLines rest with
        | [] => [[c]]
        | line :: more => (c :: line) :: more

/-- The lines of an open file join to its text. -/
theorem flatten_feedLines (chars : List Char) : (feedLines chars).flatten = chars := by
  induction chars with
  | nil => rfl
  | cons c rest ih =>
      unfold feedLines
      split
      · rename_i feed
        simp_all
      · split
        · rename_i none
          rw [none] at ih
          simpa using ih
        · rename_i some
          rw [some] at ih
          simpa using ih

end InstructionSet.Text
