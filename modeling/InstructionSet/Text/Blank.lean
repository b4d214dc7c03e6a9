/-!
# Blank characters

The characters that trimming removes: the spaces, the line and paragraph
separators and the control characters that act as one of them. `trim` removes
exactly the blanks at both ends and nothing else, so blanks around a text do not change
what it is trimmed to (`trim_surrounded`).
-/

set_option autoImplicit false

namespace InstructionSet.Text

/-- A character counts as blank when it is a space separator, a line or
paragraph separator, or a control character that separates. -/
def isBlank (c : Char) : Bool :=
  let n := c.toNat
  (9 ≤ n && n ≤ 13) || (28 ≤ n && n ≤ 32) || n == 0x85 || n == 0xa0 || n == 0x1680 ||
    (0x2000 ≤ n && n ≤ 0x200a) || n == 0x2028 || n == 0x2029 || n == 0x202f || n == 0x205f ||
    n == 0x3000

def trimStart (chars : List Char) : List Char := chars.dropWhile isBlank

def trimEnd (chars : List Char) : List Char := (chars.reverse.dropWhile isBlank).reverse

def trim (chars : List Char) : List Char := trimEnd (trimStart chars)

theorem trim_surrounded {before behind : List Char} (blankBefore : ∀ c ∈ before, isBlank c = true)
    (blankBehind : ∀ c ∈ behind, isBlank c = true) (inner : List Char) :
    trim (before ++ (inner ++ behind)) = trim inner := by
  have start : trimStart (before ++ (inner ++ behind)) =
      if (trimStart inner).isEmpty then trimStart behind else trimStart inner ++ behind := by
    rw [trimStart, List.dropWhile_append_of_pos blankBefore, List.dropWhile_append]
    rfl
  have nothing : trimStart (behind ++ []) = [] := List.dropWhile_append_of_pos blankBehind
  rw [List.append_nil] at nothing
  have reversed : ∀ c ∈ behind.reverse, isBlank c = true := by simpa using blankBehind
  cases left : trimStart inner with
  | nil => simp [trim, start, left, nothing]
  | cons c rest =>
      rw [trim, start, trim, left]
      simp only [List.isEmpty_cons, Bool.false_eq_true, if_false, trimEnd, List.reverse_append]
      rw [List.dropWhile_append_of_pos reversed]

def allBlank (text : String) : Bool := text.toList.all isBlank

def trimmedEnd (text : String) : String := String.ofList (trimEnd text.toList)

end InstructionSet.Text
