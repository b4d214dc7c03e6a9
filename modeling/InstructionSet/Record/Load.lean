import InstructionSet.Record.Decode
import InstructionSet.Yaml.Documents

/-!
# Streams of records

Each document of a text is a record, except that empty documents are skipped. A
record's span has the number of its document and the line where it starts. The
records before a fault are produced before it; a fault of the text itself is
reported at its place in the document that was being read.
-/

set_option autoImplicit false

namespace InstructionSet.Record

open Yaml (Document Documents PlacedDocument)

def spanOf (source : String) (index line : Nat) : Span :=
  { file := source, line := line + 1, document := index }

/-- How a fault of the text ends a stream. A fault in the value of a scalar and one
in the bytes of the text are passed on; the others make the document malformed. -/
def failureOf (source : String) (index : Nat) : Yaml.Fault → Failure
  | .located fault =>
      .ofCause
        { file := source, line := fault.mark.line + 1, column := fault.mark.column + 1
          document := index }
        (.malformedDocument fault.problem.message)
  | .source (.undecodable fault) => .source (.undecodable fault)
  | .source fault =>
      .ofCause { file := source, document := index } (.malformedDocument fault.message)
  | .scalar fault => .scalar fault

/-- The records of documents numbered from `index`, up to the end that follows
them. -/
def ofDocuments (source : String) (end_ : Nat → Trace Record) :
    Nat → List PlacedDocument → Trace Record
  | index, [] => end_ index
  | index, placed :: rest =>
      let span := spanOf source index placed.line
      match placed.document.root with
      | .null =>
          .note ⟨.debug, .schema, span.text ++ ": skipping empty document"⟩
            (ofDocuments source end_ (index + 1) rest)
      | _ => decodeThen placed.document span (ofDocuments source end_ (index + 1) rest)

def ofStream (source : String) (documents : Documents) : Trace Record :=
  let end_ (index : Nat) : Trace Record :=
    match documents.fault with
    | none => .done
    | some fault => .failed (failureOf source index fault)
  ofDocuments source end_ 0 documents.documents

/-- The records of a source that has been opened, or could not be. -/
def ofSource (source : String) : Except Yaml.SourceFault Yaml.Source → Trace Record
  | .error fault => .failed (.source fault)
  | .ok opened => ofStream source (Yaml.readDocuments opened)

def standardInput : String := "<stdin>"

def load (text : String) (source : String := standardInput) : Trace Record :=
  ofSource source (Yaml.Source.ofText text)

/-- The records of a text that arrives in pieces under a name of its own. -/
def loadPieces (name : String) (pieces : Text.Pieces) (source : String := standardInput) :
    Trace Record :=
  ofSource source (Yaml.Source.ofPieces name pieces)

/-- The records of documents that are given as values, numbered in order. -/
def ofValues (source : String) : Nat → List Document → Trace Record
  | _, [] => .done
  | index, document :: rest =>
      decodeThen document { file := source, document := index } (ofValues source (index + 1) rest)

end InstructionSet.Record
