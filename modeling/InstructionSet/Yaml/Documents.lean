import InstructionSet.Yaml.Graph.Builder
import InstructionSet.Yaml.Value.Construction

/-!
# The documents of a text

A text is a sequence of documents that may end with a fault. Each document is read
and built before the next is looked at, so the documents before a fault are all
there. `readDocuments` gives the whole sequence and `readSingle` the document of a
text that has no more than one.
-/

set_option autoImplicit false

namespace InstructionSet.Yaml

/-- A document and the line where it starts, counted from zero. -/
structure PlacedDocument where
  line : Nat
  document : Document

/-- Documents in order, and the fault that ends them. -/
structure Documents where
  documents : List PlacedDocument
  fault : Option Fault := none

/-- A reader at the beginning of a source. -/
def Parser.ofSource (source : Source) : Parser := { lexer := Lexer.ofSource source }

namespace Parse

def build (graph : Graph) : Parse PlacedDocument :=
  match graph.document with
  | .error fault => throw fault
  | .ok document => return ⟨(graph.node graph.root).mark.line, document⟩

def nextDocument? : Parse (Option PlacedDocument) := do
  match ← nextGraph? with
  | none => return none
  | some graph => return some (← build graph)

end Parse

def documentsFrom : Nat → Parser → Documents
  | 0, _ => ⟨[], none⟩
  | bound + 1, parser =>
      match Parse.nextDocument? parser with
      | .error fault => ⟨[], some fault⟩
      | .ok (none, _) => ⟨[], none⟩
      | .ok (some document, parser) =>
          let rest := documentsFrom bound parser
          { rest with documents := document :: rest.documents }

def readDocuments (source : Source) : Documents :=
  match Parse.nextEvent (Parser.ofSource source) with
  | .error fault => ⟨[], some fault⟩
  | .ok (_, parser) => documentsFrom (source.chars.length + 2) parser

def readSingle (source : Source) : Except Fault (Option Document) := do
  let steps : Parse (Option Document) := do
    let _ ← Parse.nextEvent
    match ← Parse.singleGraph? with
    | none => return none
    | some graph => return some (← Parse.build graph).document
  return (← steps.run (Parser.ofSource source)).1

/-- The account of a fault in a text of the given name. -/
def Fault.message (source : String) : Fault → String
  | .located fault => fault.message source
  | .source fault => fault.message
  | .scalar fault => fault.message

end InstructionSet.Yaml
