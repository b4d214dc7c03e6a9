import InstructionSet.Yaml.Token.Name

/-!
# Block scalars

A literal block scalar keeps its line breaks, a folded one turns a break between
two lines of text into a space. The header may fix the indentation and what
happens to the breaks at the end.
-/

set_option autoImplicit false

namespace InstructionSet.Yaml

/-- What happens to the line breaks at the end: the last one is kept, all are
kept, or none. -/
inductive Chomping where
  | clip
  | keep
  | strip
deriving DecidableEq, Repr

namespace Scan

def chomping? : Scan (Option Chomping) := do
  let c ← peek
  if c == '+' then
    advance
    return some .keep
  else if c == '-' then
    advance
    return some .strip
  else return none

def indentation? (start : Mark) : Scan (Option Nat) := do
  let c ← peek
  if isDigit c then
    if c == '0' then failIn .blockScalar start .zeroIndentation
    advance
    return some (c.toNat - 48)
  else return none

/-- Reads the two indicators of a header in either order. -/
def blockIndicators (start : Mark) : Scan (Chomping × Option Nat) := do
  let indicators ← do
    match ← chomping? with
    | some chomping => pure (chomping, ← indentation? start)
    | none =>
        match ← indentation? start with
        | some width => pure ((← chomping?).getD .clip, some width)
        | none => pure (Chomping.clip, none)
  let close ← peek
  if !isSpaceOrEnd close then failIn .blockScalar start (.unexpected .blockIndicators close)
  return indicators

/-- Reads empty lines and the indentation of the first line that is not empty.
Gives the breaks of the empty lines and the largest column reached. -/
def leadingBreaks : Nat → Nat → Scan (List Char × Nat)
  | 0, widest => return ([], widest)
  | bound + 1, widest => do
      let c ← peek
      if c == ' ' then
        advance
        leadingBreaks bound (max widest (← here).column)
      else if isBreak c then
        let first ← lineBreak
        let (breaks, widest) ← leadingBreaks bound widest
        return (first ++ breaks, widest)
      else return ([], widest)

def skipIndentation (indent : Int) : Nat → Scan Unit
  | 0 => pure ()
  | bound + 1 => do
      if (← here).column < indent && (← peek) == ' ' then
        advance
        skipIndentation indent bound

def blockBreaks (indent : Int) : Nat → Scan (List Char)
  | 0 => return []
  | bound + 1 => do
      skipIndentation indent (bound + 1)
      if isBreak (← peek) then
        let first ← lineBreak
        return first ++ (← blockBreaks indent bound)
      else return []

def atBlockLine (indent : Int) : Scan Bool := do
  if (← here).column == indent then return (← peek) != endOfText else return false

/-- Reads the lines of a scalar. `breaks` are the empty lines before the line that
stands here. Gives the text, the break of the last line, and the empty lines
behind it. -/
def blockLines (folded : Bool) (indent : Int) :
    Nat → List Char → Scan (List Char × List Char × List Char)
  | 0, breaks => return ([], [], breaks)
  | bound + 1, breaks => do
      let textFirst := !isSpaceOrTab (← peek)
      let line ← takeWhile fun c => !isBreakOrEnd c
      let ending ← lineBreak
      let following ← blockBreaks indent (bound + 1)
      if ← atBlockLine indent then
        let folds := folded && ending == ['\n'] && textFirst && !isSpaceOrTab (← peek)
        let joint := if !folds then ending else if following.isEmpty then [' '] else []
        let (rest, last, tail) ← blockLines folded indent bound following
        return (breaks ++ line ++ joint ++ rest, last, tail)
      else return (breaks ++ line, ending, following)

def blockScalarToken (folded : Bool) : Scan Unit := do
  let start ← here
  advance
  let (chomping, width?) ← blockIndicators start
  restOfLine .blockScalar start
  let least := max 1 ((← get).indent + 1)
  let bound := (← get).bound
  let (indent, breaks) ← do
    match width? with
    | none =>
        let (breaks, widest) ← leadingBreaks bound 0
        pure (max least widest, breaks)
    | some width =>
        let indent := least + width - 1
        pure (indent, ← blockBreaks indent bound)
  let (text, last, tail) ←
    if ← atBlockLine indent then blockLines folded indent bound breaks
    else pure ([], [], breaks)
  let closing := match chomping with
    | .clip => last
    | .keep => last ++ tail
    | .strip => []
  emit (.scalar (Text.ofPlain (text ++ closing)) false) start (← here)

end Scan

end InstructionSet.Yaml
