import InstructionSet.Yaml.Token.BlockScalar
import InstructionSet.Yaml.Token.PlainScalar
import InstructionSet.Yaml.Token.QuotedScalar

/-!
# Tokens on demand

`peekToken` and `takeToken` give the tokens of a text one by one, reading no
further than is needed to know the next one. A token is known once it cannot be
the first token of a key whose colon is still to come.
-/

set_option autoImplicit false

namespace InstructionSet.Yaml.Scan

/-! ## Places where a key may have begun -/

/-- A key without an indicator is at most this long. -/
def longestKey : Nat := 1024

/-- Whether a key that may have begun at a place can still be one: its colon has
to follow on the same line and before too long. -/
def canBeKey (mark : Mark) (key : SimpleKey) : Bool :=
  key.mark.line == mark.line && mark.index - key.mark.index ≤ longestKey

def requireSettled (key : SimpleKey) : Scan Unit :=
  if key.required then failIn .simpleKey key.mark .missingColon else pure ()

/-- Forgets the places where no key can have begun. -/
def dropStaleKeys : Scan Unit := do
  let lexer ← get
  for (_, key) in lexer.keys do
    if !canBeKey lexer.mark key then requireSettled key
  set { lexer with keys := lexer.keys.filter fun (_, key) => canBeKey lexer.mark key }

/-- Forgets the place on the current flow level. -/
def dropKey : Scan Unit := do
  let lexer ← get
  match lexer.keys.lookup lexer.flowLevel with
  | none => pure ()
  | some key =>
      requireSettled key
      set { lexer with keys := lexer.keys.filter fun (level, _) => level != lexer.flowLevel }

/-- Remembers that a key may begin here. In a block mapping, a token at the column
of its keys has to be one. -/
def saveKey : Scan Unit := do
  let lexer ← get
  let required := lexer.flowLevel == 0 && lexer.indent == (lexer.mark.column : Int)
  if lexer.keyAllowed then
    dropKey
    let key : SimpleKey := ⟨lexer.taken + lexer.tokens.length, required, lexer.mark⟩
    modify fun lexer => { lexer with keys := lexer.keys ++ [(lexer.flowLevel, key)] }

/-! ## Indentation -/

/-- Ends the block collections that are indented deeper than a column. -/
def unwind (column : Int) : Nat → Scan Unit
  | 0 => pure ()
  | bound + 1 => do
      let lexer ← get
      if lexer.flowLevel == 0 && decide (column < lexer.indent) then
        set { lexer with indent := lexer.indents.headD (-1), indents := lexer.indents.tail }
        emitHere .blockEnd
        unwind column bound

def unwindTo (column : Int) : Scan Unit := do
  unwind column ((← get).indents.length + 1)

/-- Begins a block collection at a column, unless one is open there already. -/
def openAt (column : Int) : Scan Bool := do
  let lexer ← get
  if lexer.indent < column then
    set { lexer with indent := column, indents := lexer.indent :: lexer.indents }
    return true
  else return false

/-! ## Single tokens -/

/-- Goes over spaces, comments and line breaks. A key may begin on a new line. -/
def skipToToken : Nat → Scan Unit
  | 0 => pure ()
  | bound + 1 => do
      skipSpaces
      if (← peek) == '#' then skipLine
      if !(← lineBreak).isEmpty then
        if (← get).flowLevel == 0 then allowKey true
        skipToToken bound

def streamEndToken : Scan Unit := do
  unwindTo (-1)
  dropKey
  modify fun lexer => { lexer with keyAllowed := false, keys := [] }
  emitHere .streamEnd
  modify fun lexer => { lexer with finished := true }

def leaveDocument : Scan Unit := do
  unwindTo (-1)
  dropKey
  allowKey false

def flowStartToken (kind : TokenKind) : Scan Unit := do
  saveKey
  modify fun lexer => { lexer with flowLevel := lexer.flowLevel + 1, keyAllowed := true }
  emitIndicator kind

def flowEndToken (kind : TokenKind) : Scan Unit := do
  dropKey
  modify fun lexer => { lexer with flowLevel := lexer.flowLevel - 1, keyAllowed := false }
  emitIndicator kind

def flowEntryToken : Scan Unit := do
  allowKey true
  dropKey
  emitIndicator .flowEntry

/-- In a block, an entry or a key with an indicator stands only where a key may
begin, and opens a collection at its column. -/
def enterBlock (opening : TokenKind) (problem : Problem) : Scan Unit := do
  let lexer ← get
  if lexer.flowLevel == 0 then
    if !lexer.keyAllowed then fail problem
    if ← openAt lexer.mark.column then emitHere opening

def blockEntryToken : Scan Unit := do
  enterBlock .blockSequenceStart .sequenceEntryNotAllowed
  allowKey true
  dropKey
  emitIndicator .blockEntry

def keyToken : Scan Unit := do
  enterBlock .blockMappingStart .mappingKeyNotAllowed
  allowKey ((← get).flowLevel == 0)
  dropKey
  emitIndicator .key

/-- A colon settles the place where its key began, or belongs to a key with an
indicator. -/
def valueToken : Scan Unit := do
  let lexer ← get
  match lexer.keys.lookup lexer.flowLevel with
  | some key =>
      set { lexer with keys := lexer.keys.filter fun (level, _) => level != lexer.flowLevel }
      emitAt key.token .key key.mark
      if lexer.flowLevel == 0 then
        if ← openAt key.mark.column then emitAt key.token .blockMappingStart key.mark
      allowKey false
  | none =>
      enterBlock .blockMappingStart .mappingValueNotAllowed
      allowKey (lexer.flowLevel == 0)
      dropKey
  emitIndicator .value

/-- Begins a token that may be a key but has none behind it. -/
def beginContent : Scan Unit := do
  saveKey
  allowKey false

def anchorToken (isAlias : Bool) : Scan Unit := do
  beginContent
  let start ← here
  let name ← anchorName (if isAlias then .alias else .anchor)
  emit (if isAlias then .alias name else .anchor name) start (← here)

/-! ## The next token -/

def gapFollows : Scan Bool := return isGapOrEnd (← peekAt 1)

/-- Whether a separator of documents stands at the start of this line. -/
def separatorHere (c : Char) : Scan Bool := do
  let lexer ← get
  if lexer.mark.column == 0 then
    if (← upcoming 3) == [c, c, c] then return isGapOrEnd (← peekAt 3) else return false
  else return false

/-- Whether an indicator counts here: always in a flow collection, else before a
gap. -/
def indicatorCounts : Scan Bool := do
  if (← get).flowLevel == 0 then gapFollows else return true

def beginsPlain (c : Char) : Scan Bool := do
  if !(isGapOrEnd c || indicators.contains c) then return true
  else if ← gapFollows then return false
  else return c == '-' || ((← get).flowLevel == 0 && (c == '?' || c == ':'))

/-- Reads the token that begins with a character behind all indicators of
structure. -/
def contentToken (c : Char) : Scan Unit := do
  let inBlock := (← get).flowLevel == 0
  if c == '*' then anchorToken true
  else if c == '&' then anchorToken false
  else if c == '!' then do beginContent; tagToken
  else if (c == '|' || c == '>') && inBlock then do
    allowKey true
    dropKey
    blockScalarToken (c == '>')
  else if c == '\x27' || c == '\x22' then do beginContent; quotedScalarToken (c == '\x22')
  else if ← beginsPlain c then do beginContent; plainScalarToken
  else fail (.noTokenStart c) (some .nextToken)

/-- Reads a token that a hyphen, a question mark or a colon may be, or one of
content. -/
def indicatorOrContentToken (c : Char) : Scan Unit := do
  if c == '-' then if ← gapFollows then blockEntryToken else contentToken c
  else if c == '?' then if ← indicatorCounts then keyToken else contentToken c
  else if c == ':' then if ← indicatorCounts then valueToken else contentToken c
  else contentToken c

def tokenAt (c : Char) : Scan Unit := do
  if c == endOfText then streamEndToken
  else if c == '%' && (← get).mark.column == 0 then do leaveDocument; directiveToken
  else if c == '-' then
    if ← separatorHere '-' then do leaveDocument; emitIndicator .documentStart 3
    else indicatorOrContentToken c
  else if c == '.' then
    if ← separatorHere '.' then do leaveDocument; emitIndicator .documentEnd 3
    else contentToken c
  else if c == '[' then flowStartToken .flowSequenceStart
  else if c == '\x7b' then flowStartToken .flowMappingStart
  else if c == ']' then flowEndToken .flowSequenceEnd
  else if c == '\x7d' then flowEndToken .flowMappingEnd
  else if c == ',' then flowEntryToken
  else indicatorOrContentToken c

def moreTokens : Scan Unit := do
  let lexer ← get
  if lexer.mark.index == 0 && (← peek) == '\ufeff' then advance
  skipToToken lexer.bound
  dropStaleKeys
  unwindTo (← here).column
  tokenAt (← peek)

def needsMore : Scan Bool := do
  let lexer ← get
  if lexer.finished then return false
  else if lexer.tokens.isEmpty then return true
  else
    dropStaleKeys
    return (← get).keys.any fun (_, key) => key.token == lexer.taken

def readAhead : Nat → Scan Unit
  | 0 => pure ()
  | bound + 1 => do
      if ← needsMore then
        moreTokens
        readAhead bound

/-- The next token; behind the last one there is only the end. -/
def peekToken : Scan Token := do
  readAhead (← get).bound
  let lexer ← get
  return lexer.tokens.headD ⟨.streamEnd, lexer.mark, lexer.mark⟩

def takeToken : Scan Token := do
  let token ← peekToken
  modify fun lexer => { lexer with tokens := lexer.tokens.tail, taken := lexer.taken + 1 }
  return token

end InstructionSet.Yaml.Scan
