import InstructionSet.Yaml.Fault
import InstructionSet.Yaml.Token.Character

/-!
# The state of the lexer

The lexer holds the characters not read yet, where they begin, and the tokens that
are waiting. It also keeps the columns at which block collections are open, and the
places where a key may have begun without an indicator: such a place is settled
only when the colon behind it is met, and the tokens of the key are put in front of
what was found since.

Reading ahead past the last character that the source could supply raises the
fault of the source, so a fault shows exactly when its place is needed.
-/

set_option autoImplicit false

namespace InstructionSet.Yaml

/-- A place where a key may have begun: the number of its first token, whether the
indentation forces it to be one, and where it is. -/
structure SimpleKey where
  token : Nat
  required : Bool
  mark : Mark
deriving Repr

/-- The state between two steps of reading tokens. `size` counts the characters of
the whole text, and `taken` the tokens that have been handed on. -/
structure Lexer where
  rest : List Char
  size : Nat
  fault : Option SourceFault := none
  mark : Mark := {}
  flowLevel : Nat := 0
  indent : Int := -1
  indents : List Int := []
  keyAllowed : Bool := true
  keys : List (Nat × SimpleKey) := []
  tokens : List Token := []
  taken : Nat := 0
  finished : Bool := false

abbrev Scan (α : Type) := StateT Lexer (Except Fault) α

namespace Lexer

/-- The lexer before a source is read; the first token tells that the text begins. -/
def ofSource (source : Source) : Lexer :=
  { rest := source.chars, size := source.chars.length, fault := source.fault
    tokens := [⟨.streamStart, {}, {}⟩] }

/-- A bound on the number of steps that each read a character. -/
def bound (lexer : Lexer) : Nat := lexer.size + 2

end Lexer

namespace Scan

def fail {α : Type} (problem : Problem) (activity : Option Activity := none)
    (began : Option Mark := none) : Scan α := do
  throw (.located { activity, began, problem, mark := (← get).mark })

/-- Fails with a problem met in an activity that began at a mark. -/
def failIn {α : Type} (activity : Activity) (began : Mark) (problem : Problem) : Scan α :=
  fail problem (some activity) (some began)

def here : Scan Mark := return (← get).mark

/-- The fault of the source, if there is one; nothing else. -/
def reachEnd : Scan Unit := do
  match (← get).fault with
  | some fault => throw (.source fault)
  | none => pure ()

def peekAt (ahead : Nat) : Scan Char := do
  match (← get).rest[ahead]? with
  | some c => return c
  | none => do
      reachEnd
      return endOfText

def peek : Scan Char := peekAt 0

/-- The next `count` characters, or all up to the end. -/
def upcoming (count : Nat) : Scan (List Char) := do
  let taken := (← get).rest.take count
  if taken.length < count then reachEnd
  return taken

/-- The mark behind a character, given the one after it. A carriage return before
a line feed is no line break yet, and a byte order mark takes no column. -/
def stepMark (mark : Mark) (c next : Char) : Mark :=
  if c == '\n' || c == '\x85' || c == '\u2028' || c == '\u2029' || (c == '\r' && next != '\n') then
    ⟨mark.index + 1, mark.line + 1, 0⟩
  else if c == '\ufeff' then ⟨mark.index + 1, mark.line, mark.column⟩
  else ⟨mark.index + 1, mark.line, mark.column + 1⟩

/-- Moves over `count` characters at most. -/
def advanceOver : Nat → List Char → Mark → List Char × Mark
  | 0, rest, mark => (rest, mark)
  | _, [], mark => ([], mark)
  | count + 1, c :: rest, mark =>
      advanceOver count rest (stepMark mark c (rest.head?.getD endOfText))

/-- Moves on; the character moved to has to be readable. -/
def advance (count : Nat := 1) : Scan Unit := do
  let lexer ← get
  let (rest, mark) := advanceOver count lexer.rest lexer.mark
  set { lexer with rest, mark }
  if rest.isEmpty then reachEnd

def takeWhile (inClass : Char → Bool) : Scan (List Char) := do
  let run := (← get).rest.takeWhile inClass
  let _ ← peekAt run.length
  if !run.isEmpty then advance run.length
  return run

def skipSpaces : Scan Unit := do
  let _ ← takeWhile (· == ' ')

def skipLine : Scan Unit := do
  let _ ← takeWhile fun c => !isBreakOrEnd c

/-- Reads a line break, if there is one, and gives the break that it stands for. -/
def lineBreak : Scan (List Char) := do
  let c ← peek
  if c == '\r' || c == '\n' || c == '\x85' then
    if (← upcoming 2) == ['\r', '\n'] then advance 2 else advance
    return ['\n']
  else if c == '\u2028' || c == '\u2029' then
    advance
    return [c]
  else return []

/-- Whether a document begins or ends here: three hyphens or points and a gap. -/
def atSeparator : Scan Bool := do
  let three ← upcoming 3
  if three == ['-', '-', '-'] || three == ['.', '.', '.'] then return isGapOrEnd (← peekAt 3)
  else return false

def emit (kind : TokenKind) (start stop : Mark) : Scan Unit :=
  modify fun lexer => { lexer with tokens := lexer.tokens ++ [⟨kind, start, stop⟩] }

/-- Appends a token that has no characters of its own. -/
def emitHere (kind : TokenKind) : Scan Unit := do
  let mark ← here
  emit kind mark mark

/-- Puts a token in front of the one that has a given number. -/
def emitAt (number : Nat) (kind : TokenKind) (mark : Mark) : Scan Unit :=
  modify fun lexer =>
    let place := number - lexer.taken
    { lexer with tokens := lexer.tokens.take place ++ ⟨kind, mark, mark⟩ :: lexer.tokens.drop place }

/-- Appends the token of an indicator of some characters and reads over it. -/
def emitIndicator (kind : TokenKind) (length : Nat := 1) : Scan Unit := do
  let start ← here
  advance length
  emit kind start (← here)

def allowKey (allowed : Bool) : Scan Unit :=
  modify fun lexer => { lexer with keyAllowed := allowed }

end Scan

end InstructionSet.Yaml
