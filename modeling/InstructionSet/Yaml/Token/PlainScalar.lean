import InstructionSet.Yaml.Token.Lexer

/-!
# Plain scalars

A plain scalar goes up to a colon before a gap, a comment, or, in a flow
collection, an indicator of the collection. It may go on over line breaks as long
as the lines are indented deeper than the collection around it.
-/

set_option autoImplicit false

namespace InstructionSet.Yaml.Scan

/-- Reads the spaces and line breaks between two words. No answer means that a
document begins or ends at the start of a line. -/
def plainBreaks : Nat → Scan (Option (List Char))
  | 0 => return some []
  | bound + 1 => do
      let c ← peek
      if c == ' ' then
        advance
        plainBreaks bound
      else if isBreak c then
        let first ← lineBreak
        if ← atSeparator then return none
        return (← plainBreaks bound).map (first ++ ·)
      else return some []

/-- Reads what stands between two words: spaces stand for themselves, and one line
break for a space. The answer is empty where the scalar ends. -/
def plainSpaces (bound : Nat) : Scan (List Char) := do
  let spaces ← takeWhile (· == ' ')
  if isBreak (← peek) then
    let first ← lineBreak
    allowKey true
    if ← atSeparator then return []
    match ← plainBreaks bound with
    | none => return []
    | some breaks =>
        let joint := if first != ['\n'] then first else if breaks.isEmpty then [' '] else []
        return joint ++ breaks
  else return spaces

/-- The length of the word at the front of a text. -/
def plainLength (inFlow : Bool) : List Char → Nat
  | [] => 0
  | c :: rest =>
      if isGapOrEnd c then 0
      else if inFlow && flowIndicators.contains c then 0
      else if c == ':' then
        let next := rest.head?.getD endOfText
        if isGapOrEnd next || (inFlow && afterFlowColon.contains next) then 0
        else plainLength inFlow rest + 1
      else plainLength inFlow rest + 1

/-- Reads a word, looking as far ahead as it takes to know its end. -/
def plainWord : Scan (List Char) := do
  let lexer ← get
  let length := plainLength (0 < lexer.flowLevel) lexer.rest
  let close ← peekAt length
  if close == ':' then
    let _ ← peekAt (length + 1)
  return lexer.rest.take length

/-- Reads words up to the end of the scalar. `spaces` is what stands before the
next word. Gives the text and where its last word ended. -/
def plainWords (indent : Int) : Nat → List Char → Mark → Scan (List Char × Mark)
  | 0, _, stop => return ([], stop)
  | bound + 1, spaces, stop => do
      if (← peek) == '#' then return ([], stop)
      let word ← plainWord
      if word.isEmpty then return ([], stop)
      allowKey false
      advance word.length
      let stop ← here
      let following ← plainSpaces (bound + 1)
      let ends ←
        if following.isEmpty then pure true
        else if (← peek) == '#' then pure true
        else
          let lexer ← get
          pure (lexer.flowLevel == 0 && decide ((lexer.mark.column : Int) < indent))
      if ends then return (spaces ++ word, stop)
      let (rest, stop) ← plainWords indent bound following stop
      return (spaces ++ word ++ rest, stop)

def plainScalarToken : Scan Unit := do
  let lexer ← get
  let start := lexer.mark
  let (text, stop) ← plainWords (lexer.indent + 1) lexer.bound [] start
  emit (.scalar (Text.ofPlain text) true) start stop

end InstructionSet.Yaml.Scan
