import InstructionSet.Yaml.Token.Lexer

/-!
# Quoted scalars

Between single quotes only the quote itself is written in another way, twice.
Between double quotes a backslash begins an escape. In both a line break between
two pieces of text reads as a space, and further ones as themselves.
-/

set_option autoImplicit false

namespace InstructionSet.Yaml.Scan

/-- The escapes of one character and what they stand for. -/
def namedEscapes : List (Char × Char) := [
  ('0', '\x00'), ('a', '\x07'), ('b', '\x08'), ('t', '\t'), ('\t', '\t'), ('n', '\n'),
  ('v', '\x0b'), ('f', '\x0c'), ('r', '\r'), ('e', '\x1b'), (' ', ' '), ('\x22', '\x22'),
  ('\x5c', '\x5c'), ('/', '/'), ('N', '\x85'), ('_', '\xa0'), ('L', '\u2028'), ('P', '\u2029')]

/-- The number of digits of an escape by code. -/
def escapeWidth? (c : Char) : Option Nat :=
  if c == 'x' then some 2 else if c == 'u' then some 4 else if c == 'U' then some 8 else none

def hexDigits (start : Mark) (width : Nat) : Nat → Scan Nat
  | 0 => return 0
  | count + 1 => do
      let code ← hexDigits start width count
      let c ← peekAt count
      match Text.hexDigit? c with
      | some digit => return code * 16 + digit
      | none => failIn .doubleQuotedScalar start (.unexpected (.hexEscape width) c)

/-- Reads over the digits of an escape and gives what its code point is written as. -/
def escapedCode (width code : Nat) : Scan (List Char) := do
  if 0x7fffffff < code then throw (.scalar .codeTooLarge)
  if 0x10ffff < code then throw (.scalar .codePastLast)
  advance width
  return Text.written code

/-- Reads the line breaks between two pieces of a scalar, with the blanks around
them. A separator of documents may not stand here. -/
def quotedBreaks (start : Mark) : Nat → Scan (List Char)
  | 0 => return []
  | bound + 1 => do
      if ← atSeparator then failIn .quotedScalar start .unexpectedSeparator
      let _ ← takeWhile isSpaceOrTab
      if isBreak (← peek) then
        let first ← lineBreak
        return first ++ (← quotedBreaks start bound)
      else return []

def quotedEscape (start : Mark) (bound : Nat) : Scan (List Char) := do
  let c ← peek
  match namedEscapes.lookup c with
  | some meaning =>
      advance
      return [meaning]
  | none =>
      match escapeWidth? c with
      | some width =>
          advance
          let code ← hexDigits start width width
          escapedCode width code
      | none =>
          if isBreak c then
            let _ ← lineBreak
            quotedBreaks start bound
          else failIn .doubleQuotedScalar start (.unknownEscape c)

def isQuotedText (c : Char) : Bool :=
  !(c == '\x27' || c == '\x22' || c == '\x5c' || isGapOrEnd c)

/-- Reads a piece of a scalar up to a blank, a line break, the end, or the quote. -/
def quotedText (double : Bool) (start : Mark) : Nat → Scan (List Char)
  | 0 => return []
  | bound + 1 => do
      let plain := Text.ofChars (← takeWhile isQuotedText)
      let c ← peek
      let doubled ← if !double && c == '\x27' then pure ((← peekAt 1) == '\x27') else pure false
      if doubled then
        advance 2
        return plain ++ '\x27' :: (← quotedText double start bound)
      else if (double && c == '\x27') || (!double && (c == '\x22' || c == '\x5c')) then
        advance
        return plain ++ c :: (← quotedText double start bound)
      else if double && c == '\x5c' then
        advance
        let meaning ← quotedEscape start bound
        return plain ++ meaning ++ (← quotedText double start bound)
      else return plain

def quotedSpaces (start : Mark) (bound : Nat) : Scan (List Char) := do
  let blanks ← takeWhile isSpaceOrTab
  let c ← peek
  if c == endOfText then failIn .quotedScalar start .unexpectedEnd
  else if isBreak c then
    let first ← lineBreak
    let breaks ← quotedBreaks start bound
    let joint := if first != ['\n'] then first else if breaks.isEmpty then [' '] else []
    return joint ++ breaks
  else return blanks

def quotedPieces (double : Bool) (start : Mark) (quote : Char) : Nat → Scan (List Char)
  | 0 => return []
  | bound + 1 => do
      if (← peek) == quote then return []
      let spaces ← quotedSpaces start bound
      let text ← quotedText double start bound
      return spaces ++ text ++ (← quotedPieces double start quote bound)

def quotedScalarToken (double : Bool) : Scan Unit := do
  let start ← here
  let quote ← peek
  advance
  let bound := (← get).bound
  let first ← quotedText double start bound
  let rest ← quotedPieces double start quote bound
  advance
  emit (.scalar (String.ofList (first ++ rest)) false) start (← here)

end InstructionSet.Yaml.Scan
