import InstructionSet.Yaml.Event
import InstructionSet.Yaml.Token.Scanner

/-!
# Events from tokens

One event is read at a time. What may come next is the state; what comes after an
open collection is kept on a stack. `nextEvent` asks for as many tokens as it takes
to know one event and no more.
-/

set_option autoImplicit false

namespace InstructionSet.Yaml

inductive Expecting where
  | streamStart
  | firstDocument
  | document
  | documentContent
  | documentEnd
  | blockNode
  | blockSequenceFirst
  | blockSequenceEntry
  | indentlessEntry
  | blockMappingFirst
  | blockMappingKey
  | blockMappingValue
  | flowSequenceFirst
  | flowSequenceEntry
  | flowPairKey
  | flowPairValue
  | flowPairEnd
  | flowMappingFirst
  | flowMappingKey
  | flowMappingValue
  | flowMappingEmptyValue
  | nothing
deriving DecidableEq, Repr

/-- The state of reading events: what is next, what comes after the collections
that are open, where those began, and the handles that tags may use. -/
structure Parser where
  lexer : Lexer
  expecting : Expecting := .streamStart
  pending : List Expecting := []
  marks : List Mark := []
  handles : List (String × String) := []

abbrev Parse (α : Type) := StateT Parser (Except Fault) α

namespace Parse

def scan {α : Type} (step : Scan α) : Parse α := fun parser => do
  let (value, lexer) ← step parser.lexer
  return (value, { parser with lexer })

def peek : Parse Token := scan Scan.peekToken

def peekKind : Parse TokenKind := return (← peek).kind

def take : Parse Token := scan Scan.takeToken

/-- Says what is read next. -/
def expect (next : Expecting) : Parse Unit :=
  modify fun parser => { parser with expecting := next }

def thenExpect (next : Expecting) : Parse Unit :=
  modify fun parser => { parser with pending := next :: parser.pending }

def resume : Parse Unit :=
  modify fun parser =>
    { parser with expecting := parser.pending.headD .nothing, pending := parser.pending.tail }

def openMark (mark : Mark) : Parse Unit :=
  modify fun parser => { parser with marks := mark :: parser.marks }

def failAt {α : Type} (token : Token) (problem : Problem) (activity : Option Activity := none)
    (began : Option Mark := none) : Parse α :=
  throw (.located { activity, began, problem, mark := token.start })

def failInside {α : Type} (activity : Activity) (problem : TokenKind → Problem) : Parse α := do
  let token ← peek
  failAt token (problem token.kind) (some activity) (← get).marks.head?

/-- Ends a collection: the token that closes it is taken. -/
def closeCollection (kind : EventKind) : Parse Event := do
  let token ← take
  resume
  modify fun parser => { parser with marks := parser.marks.tail }
  return ⟨kind, token.start⟩

def emptyScalar (mark : Mark) : Event := ⟨.scalar {} true "", mark⟩

def leaveOut (next : Expecting) (mark : Mark) : Parse Event := do
  expect next
  return emptyScalar mark

/-! ## Nodes -/

def standardHandles : List (String × String) := [("!", "!"), ("!!", "tag:yaml.org,2002:")]

/-- The full tag of a tag as it is written. -/
def fullTag (name : TagName) (nodeStart tagStart : Mark) : Parse String := do
  match name.handle with
  | none => return name.suffix
  | some handle =>
      match (← get).handles.lookup handle with
      | some expansion => return expansion ++ name.suffix
      | none =>
          throw (.located
            { activity := some .node, began := nodeStart, problem := .undefinedHandle handle
              mark := tagStart })

/-- Reads an anchor and a tag in either order. Gives them and where the first of
them is. -/
def properties : Parse (Properties × Option Mark) := do
  let first ← peek
  match first.kind with
  | .anchor name =>
      let _ ← take
      let second ← peek
      match second.kind with
      | .tag tag =>
          let _ ← take
          return (⟨some name, some (← fullTag tag first.start second.start)⟩, some first.start)
      | _ => return (⟨some name, none⟩, some first.start)
  | .tag tag =>
      let _ ← take
      let second ← peek
      match second.kind with
      | .anchor name =>
          let _ ← take
          return (⟨some name, some (← fullTag tag first.start first.start)⟩, some first.start)
      | _ => return (⟨none, some (← fullTag tag first.start first.start)⟩, some first.start)
  | _ => return ({}, none)

/-- Begins a collection whose first token is still to be taken. -/
def beginCollection (kind : EventKind) (start : Mark) (next : Expecting) : Parse Event := do
  expect next
  return ⟨kind, start⟩

/-- Reads the content of a node behind its properties. A block collection stands
only where a block node may, and a sequence without indentation of its own only
inside a mapping. -/
def nodeContent (block indentless : Bool) (props : Properties) (start? : Option Mark) :
    Parse Event := do
  let token ← peek
  let start := start?.getD token.start
  match token.kind with
  | .scalar value plain =>
      let _ ← take
      resume
      let resolves := (plain && props.tag.isNone) || props.tag == some "!"
      return ⟨.scalar props resolves value, start⟩
  | .flowSequenceStart => beginCollection (.sequenceStart props) start .flowSequenceFirst
  | .flowMappingStart => beginCollection (.mappingStart props) start .flowMappingFirst
  | kind =>
      if indentless && kind == .blockEntry then
        beginCollection (.sequenceStart props) start .indentlessEntry
      else if block && kind == .blockSequenceStart then
        beginCollection (.sequenceStart props) start .blockSequenceFirst
      else if block && kind == .blockMappingStart then
        beginCollection (.mappingStart props) start .blockMappingFirst
      else if props.anchor.isSome || props.tag.isSome then
        resume
        return ⟨.scalar props (props.tag.isNone || props.tag == some "!") "", start⟩
      else
        failAt token (.noContent kind) (some (if block then .blockNode else .flowNode)) (some start)

def node (block indentless : Bool) : Parse Event := do
  let token ← peek
  match token.kind with
  | .alias name =>
      let _ ← take
      resume
      return ⟨.alias name, token.start⟩
  | _ =>
      let (props, start?) ← properties
      nodeContent block indentless props start?

/-! ## Documents -/

def directives : Nat → Bool → Parse Unit
  | 0, _ => pure ()
  | bound + 1, versioned => do
      let token ← peek
      match token.kind with
      | .directive value =>
          let _ ← take
          match value with
          | .version major _ =>
              if versioned then failAt token .repeatedVersion
              if major != 1 then failAt token .incompatibleVersion
              directives bound true
          | .tag handle expansion =>
              if ((← get).handles.lookup handle).isSome then
                failAt token (.repeatedHandle handle)
              modify fun parser => { parser with handles := parser.handles ++ [(handle, expansion)] }
              directives bound versioned
          | .reserved => directives bound versioned
      | _ => pure ()

def skipDocumentEnds : Nat → Parse Unit
  | 0 => pure ()
  | bound + 1 => do
      if (← peekKind) == .documentEnd then
        let _ ← take
        skipDocumentEnds bound

/-- Reads the beginning of a document with its directives, or the end of the text. -/
def document : Parse Event := do
  let bound := (← get).lexer.bound
  skipDocumentEnds bound
  let first ← peek
  if first.kind == .streamEnd then
    let _ ← take
    expect .nothing
    return ⟨.streamEnd, first.start⟩
  else
    modify fun parser => { parser with handles := [] }
    directives bound false
    modify fun parser =>
      { parser with
        handles := parser.handles ++
          standardHandles.filter fun (handle, _) => (parser.handles.lookup handle).isNone }
    let token ← peek
    if token.kind != .documentStart then failAt token (.noDocumentStart token.kind)
    let _ ← take
    thenExpect .documentEnd
    expect .documentContent
    return ⟨.documentStart, first.start⟩

/-- Reads the beginning of the first document, which may go without a mark. -/
def firstDocument : Parse Event := do
  let token ← peek
  match token.kind with
  | .directive _ | .documentStart | .streamEnd => document
  | _ =>
      modify fun parser => { parser with handles := standardHandles }
      thenExpect .documentEnd
      expect .blockNode
      return ⟨.documentStart, token.start⟩

def documentEnd : Parse Event := do
  let token ← peek
  if token.kind == .documentEnd then
    let _ ← take
  expect .document
  return ⟨.documentEnd, token.start⟩

def documentContent : Parse Event := do
  let token ← peek
  match token.kind with
  | .directive _ | .documentStart | .documentEnd | .streamEnd =>
      resume
      return emptyScalar token.start
  | _ => node true false

/-! ## Block collections -/

def blockSequenceEntry : Parse Event := do
  match ← peekKind with
  | .blockEntry =>
      let token ← take
      match ← peekKind with
      | .blockEntry | .blockEnd => leaveOut .blockSequenceEntry token.stop
      | _ =>
          thenExpect .blockSequenceEntry
          node true false
  | .blockEnd => closeCollection .sequenceEnd
  | _ => failInside .blockCollection .noBlockEnd

/-- Reads an entry of a sequence that has the indentation of the mapping around
it; the sequence ends with the first token that is no entry. -/
def indentlessEntry : Parse Event := do
  let token ← peek
  if token.kind == .blockEntry then
    let _ ← take
    match ← peekKind with
    | .blockEntry | .key | .value | .blockEnd => leaveOut .indentlessEntry token.stop
    | _ =>
        thenExpect .indentlessEntry
        node true false
  else
    resume
    return ⟨.sequenceEnd, token.start⟩

def blockMappingKey : Parse Event := do
  match ← peekKind with
  | .key =>
      let token ← take
      match ← peekKind with
      | .key | .value | .blockEnd => leaveOut .blockMappingValue token.stop
      | _ =>
          thenExpect .blockMappingValue
          node true true
  | .blockEnd => closeCollection .mappingEnd
  | _ => failInside .blockMapping .noBlockEnd

def blockMappingValue : Parse Event := do
  let token ← peek
  if token.kind == .value then
    let _ ← take
    match ← peekKind with
    | .key | .value | .blockEnd => leaveOut .blockMappingKey token.stop
    | _ =>
        thenExpect .blockMappingKey
        node true true
  else leaveOut .blockMappingKey token.start

/-! ## Flow collections -/

/-- Goes over the comma between two items of a flow collection. -/
def flowComma (first : Bool) (activity : Activity) (problem : TokenKind → Problem) :
    Parse Unit := do
  if !first then
    if (← peekKind) == .flowEntry then
      let _ ← take
    else failInside activity problem

def flowSequenceEntry (first : Bool) : Parse Event := do
  if (← peekKind) == .flowSequenceEnd then closeCollection .sequenceEnd
  else
    flowComma first .flowSequence .noFlowSequenceItem
    let token ← peek
    match token.kind with
    | .key => beginCollection (.mappingStart {}) token.start .flowPairKey
    | .flowSequenceEnd => closeCollection .sequenceEnd
    | _ =>
        thenExpect .flowSequenceEntry
        node false false

/-- Reads the key of a pair that stands as an item of a flow sequence. -/
def flowPairKey : Parse Event := do
  let token ← take
  match ← peekKind with
  | .value | .flowEntry | .flowSequenceEnd => leaveOut .flowPairValue token.stop
  | _ =>
      thenExpect .flowPairValue
      node false false

def flowPairValue : Parse Event := do
  let token ← peek
  if token.kind == .value then
    let _ ← take
    match ← peekKind with
    | .flowEntry | .flowSequenceEnd => leaveOut .flowPairEnd token.stop
    | _ =>
        thenExpect .flowPairEnd
        node false false
  else leaveOut .flowPairEnd token.start

def flowPairEnd : Parse Event := do
  expect .flowSequenceEntry
  return ⟨.mappingEnd, (← peek).start⟩

def flowMappingKey (first : Bool) : Parse Event := do
  if (← peekKind) == .flowMappingEnd then closeCollection .mappingEnd
  else
    flowComma first .flowMapping .noFlowMappingItem
    match ← peekKind with
    | .key =>
        let token ← take
        match ← peekKind with
        | .value | .flowEntry | .flowMappingEnd => leaveOut .flowMappingValue token.stop
        | _ =>
            thenExpect .flowMappingValue
            node false false
    | .flowMappingEnd => closeCollection .mappingEnd
    | _ =>
        thenExpect .flowMappingEmptyValue
        node false false

def flowMappingValue : Parse Event := do
  let token ← peek
  if token.kind == .value then
    let _ ← take
    match ← peekKind with
    | .flowEntry | .flowMappingEnd => leaveOut .flowMappingKey token.stop
    | _ =>
        thenExpect .flowMappingKey
        node false false
  else leaveOut .flowMappingKey token.start

/-- Begins a collection: its first token is taken and remembered as its place. -/
def enter : Parse Unit := do
  openMark (← take).start

def nextEvent : Parse Event := do
  match (← get).expecting with
  | .streamStart =>
      let token ← take
      expect .firstDocument
      return ⟨.streamStart, token.start⟩
  | .firstDocument => firstDocument
  | .document => document
  | .documentContent => documentContent
  | .documentEnd => documentEnd
  | .blockNode => node true false
  | .blockSequenceFirst => do enter; blockSequenceEntry
  | .blockSequenceEntry => blockSequenceEntry
  | .indentlessEntry => indentlessEntry
  | .blockMappingFirst => do enter; blockMappingKey
  | .blockMappingKey => blockMappingKey
  | .blockMappingValue => blockMappingValue
  | .flowSequenceFirst => do enter; flowSequenceEntry true
  | .flowSequenceEntry => flowSequenceEntry false
  | .flowPairKey => flowPairKey
  | .flowPairValue => flowPairValue
  | .flowPairEnd => flowPairEnd
  | .flowMappingFirst => do enter; flowMappingKey true
  | .flowMappingKey => flowMappingKey false
  | .flowMappingValue => flowMappingValue
  | .flowMappingEmptyValue => leaveOut .flowMappingKey (← peek).start
  | .nothing => return ⟨.streamEnd, (← get).lexer.mark⟩

end Parse

end InstructionSet.Yaml
