import InstructionSet.Config.Basic
import InstructionSet.Files.Basic
import InstructionSet.Trace
import InstructionSet.Yaml.Documents

/-!
# Configuration files

A configuration file holds one document, or none for the defaults. What cannot be
opened and what is no well-formed text are faults of the configuration; bytes that
are no characters and scalars without a value are passed on.
-/

set_option autoImplicit false

namespace InstructionSet.Config

open Yaml (Value Document)

/-- The text of a document could not be read. -/
def failureOf (source : String) : Yaml.Fault → Failure
  | .source (.undecodable fault) => .source (.undecodable fault)
  | .scalar fault => .scalar fault
  | fault => .ofCause { file := source } (.config (.malformed (fault.message source)))

/-- A file could not be read. -/
def failureOfReading (source : String) : Failure → Failure
  | .file fault => .ofCause { file := source } (.config (.unreadable fault.problem.reason))
  | failure => failure

/-- The document of a file, if it has one that is not null. -/
def document? (files : Files) (path : Path) : Except Failure (Option Document) := do
  let bytes ← (files.read path).mapError (failureOfReading path.text)
  let pieces := Text.filePieces Yaml.Source.pieceLength bytes
  let opened ← (Yaml.Source.ofPieces path.text pieces).mapError fun fault =>
    failureOf path.text (.source fault)
  let document? ← (Yaml.readSingle opened).mapError (failureOf path.text)
  match document? with
  | some ⟨.null, _⟩ | none => return none
  | some document => return some document

def load (files : Files) (path : Path) : Trace Config :=
  match document? files path with
  | .error failure => .failed failure
  | .ok none =>
      .note ⟨.debug, .config, "empty configuration " ++ path.text ++ ", using defaults"⟩
        (.item {} .done)
  | .ok (some document) =>
      match ofSource document path.text with
      | .error failure => .failed failure
      | .ok config =>
          .note ⟨.info, .config, "loaded configuration from " ++ path.text⟩ (.item config .done)

end InstructionSet.Config
