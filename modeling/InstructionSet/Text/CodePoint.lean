/-!
# Code points

A text is a sequence of code points, and a code point that is a surrogate is no
character. Among the characters of a text a surrogate is written as two: the mark,
and behind it a character that tells which surrogate it is. The mark itself is
written twice, and every other character is written as itself.

`codes` reads the code points of a text and `ofCodes` writes them; nothing is lost
on the way (`codes_ofCodes`).
-/

set_option autoImplicit false

namespace InstructionSet.Text

def isSurrogate (code : Nat) : Bool := 0xd800 ≤ code && code ≤ 0xdfff

/-- Whether a code lies in one of the ranges, which have both ends and ascend. The first range that
ends at or after the code decides. -/
def inRanges (code : Nat) : List (Nat × Nat) → Bool
  | [] => false
  | (first, last) :: rest => if code ≤ last then decide (first ≤ code) else inRanges code rest

/-- The noncharacter that stands in front of what tells a surrogate. -/
def surrogateMark : Char := Char.ofNat 0x10fffe

/-- What the code of a surrogate is raised by to give a character of private use. -/
def surrogateShift : Nat := 0x100000

def written (code : Nat) : List Char :=
  if isSurrogate code then [surrogateMark, Char.ofNat (surrogateShift + code)]
  else if code = surrogateMark.toNat then [surrogateMark, surrogateMark]
  else [Char.ofNat code]

def ofCodes (codes : List Nat) : List Char := codes.flatMap written

def codes : List Char → List Nat
  | [] => []
  | [c] => [c.toNat]
  | c :: next :: rest =>
      if c = surrogateMark then
        (if next = surrogateMark then next.toNat else next.toNat - surrogateShift) :: codes rest
      else c.toNat :: codes (next :: rest)

def ofChars (chars : List Char) : List Char :=
  chars.flatMap fun c => if c = surrogateMark then [c, c] else [c]

def ofPlain (chars : List Char) : String := String.ofList (ofChars chars)

/-- The characters that a text holds; in the place of a surrogate stands the
character for what cannot be shown. -/
def plain (text : String) : List Char :=
  (codes text.toList).map fun code => if isSurrogate code then '\ufffd' else Char.ofNat code

def precedes (first second : String) : Bool := codes first.toList < codes second.toList

def sort (texts : List String) : List String := texts.mergeSort fun a b => !precedes b a

private theorem toNat_ofNat {code : Nat} (valid : code.isValidChar) :
    (Char.ofNat code).toNat = code := by
  rw [Char.ofNat, dif_pos valid]
  rfl

theorem codes_written_append {code : Nat} (valid : code < 0x110000) (rest : List Char) :
    codes (written code ++ rest) = code :: codes rest := by
  unfold written
  split
  · rename_i surrogate
    simp only [isSurrogate, Bool.and_eq_true, decide_eq_true_eq] at surrogate
    have private_ : (surrogateShift + code).isValidChar := by
      simp only [surrogateShift, Nat.isValidChar]; omega
    have differs : Char.ofNat (surrogateShift + code) ≠ surrogateMark := by
      intro same
      have := congrArg Char.toNat same
      rw [toNat_ofNat private_] at this
      simp only [surrogateShift, surrogateMark] at this
      rw [toNat_ofNat (by simp [Nat.isValidChar])] at this
      omega
    simp [codes, differs, toNat_ofNat private_]
  · split
    · rename_i marked
      simp [codes, marked]
    · rename_i scalar unmarked
      simp only [isSurrogate, Bool.and_eq_true, decide_eq_true_eq, not_and, Nat.not_le] at scalar
      have valid_ : code.isValidChar := by
        simp only [Nat.isValidChar]; omega
      have differs : Char.ofNat code ≠ surrogateMark := by
        intro same
        exact unmarked (by rw [← same, toNat_ofNat valid_])
      cases rest <;> simp [codes, differs, toNat_ofNat valid_]

theorem codes_ofCodes {list : List Nat} (valid : ∀ code ∈ list, code < 0x110000) :
    codes (ofCodes list) = list := by
  induction list with
  | nil => rfl
  | cons code rest ih =>
      have ⟨head, tail⟩ := List.forall_mem_cons.1 valid
      simp only [ofCodes, List.flatMap_cons] at ih ⊢
      rw [codes_written_append head, ih tail]

end InstructionSet.Text
