import InstructionSet.Artifact.Cases
import InstructionSet.Artifact.Dispatch
import InstructionSet.Artifact.PrimitiveTable
import InstructionSet.Artifact.Types
import InstructionSet.Layout.Printer

/-!
# Passes

A pass generates one artifact from a trace of records, chunk by chunk: what stands
in front, one chunk for each record that concerns the artifact, and what stands at
the end. A pass keeps its printer, so it can be used again; it begins by dropping
what the printer holds.

A pass without an artifact has nothing in front and at the end and can write no
record.
-/

set_option autoImplicit false

namespace InstructionSet

structure Pass where
  artifact : Option Artifact
  config : Config := {}
  duplicates : DuplicatePolicy := .warn
  rules : RuleTable := .standard

namespace Pass

def mode (pass : Pass) : String := (pass.artifact.map Artifact.mode).getD ""

def selects (pass : Pass) (record : Record) : Bool :=
  match pass.artifact with
  | some artifact => artifact.selects record
  | none => true

def uniqueKeys (pass : Pass) : List TextKey :=
  match pass.artifact with
  | some artifact => artifact.uniqueKeys
  | none => [.inst]

def prologue (pass : Pass) : Layout :=
  match pass.artifact with
  | some .opcodeType => OpcodeType.head pass.config
  | _ => .nothing

def epilogue (pass : Pass) : Layout :=
  match pass.artifact with
  | some .opcodeType => OpcodeType.tail
  | _ => .nothing

def layout (pass : Pass) (record : Record) : Layout :=
  match pass.artifact with
  | none => .stop .noLayout
  | some .dispatch => Dispatch.arm pass.config pass.rules record
  | some .opcodeType => OpcodeType.variant record
  | some .interpreter => Interpreter.case_ pass.config record
  | some .primitiveTable => PrimitiveTable.entry record
  | some .nodeType => NodeType.variant pass.config record
  | some .lowering => Lowering.case_ pass.config record

def printer (pass : Pass) : Printer := { unit := pass.config.indent }

/-- The records that a pass writes, after the checks for repeated identifiers. -/
def checked (pass : Pass) (records : Trace Record) : Trace Record :=
  Record.checkAll pass.uniqueKeys pass.duplicates (records.filter pass.selects)

def summary (pass : Pass) (count : Nat) : Note :=
  ⟨.info, .codegen, pass.mode ++ ": emitted " ++ toString count ++ " record(s)"⟩

/-- A chunk, unless it is empty. -/
def chunk (text : String) (rest : Trace String) : Trace String :=
  if text.isEmpty then rest else .item text rest

/-- Writes the records one by one, and the end after the last. `count` is the number
of records written before. -/
def emitRecords (pass : Pass) : Nat → Trace Record → Printer → Trace String × Printer
  | count, .done, printer =>
      let (printer, _) := printer.run pass.epilogue
      let (text, printer) := printer.flush
      (chunk text (.note (pass.summary count) .done), printer)
  | _, .failed failure, printer => (.failed failure, printer)
  | count, .note entry rest, printer =>
      let (chunks, printer) := pass.emitRecords count rest printer
      (.note entry chunks, printer)
  | count, .item record rest, printer =>
      match printer.run (pass.layout record) with
      | (printer, some failure) => (.failed failure, printer)
      | (printer, none) =>
          let (text, printer) := printer.flush
          let (chunks, printer) := pass.emitRecords (count + 1) rest printer
          (.item text chunks, printer)

/-- Generates the artifact of a trace of records with a printer that may have been
used before. -/
def emitWith (pass : Pass) (records : Trace Record) (printer : Printer) :
    Trace String × Printer :=
  let (printer, _) := printer.flush.2.run pass.prologue
  let (text, printer) := printer.flush
  let (chunks, printer) := pass.emitRecords 0 (pass.checked records) printer
  (chunk text chunks, printer)

def emit (pass : Pass) (records : Trace Record) : Trace String :=
  (pass.emitWith records pass.printer).1

end Pass

/-- The artifact of a mode as one text, or the failure that ends its generation. -/
def generate (pass : Pass) (records : Trace Record) : Except Failure String :=
  let chunks := pass.emit records
  match chunks.failure? with
  | some failure => .error failure
  | none => .ok (String.join chunks.items)

end InstructionSet
