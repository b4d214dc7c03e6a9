import InstructionSet.Layout.Basic
import InstructionSet.Record.Duplicates
import InstructionSet.Rules

/-!
# Artifacts

The six fragments that are generated from the same records. They refer to each
other only by the names that a record's identifier gives. Each artifact takes the
records that concern it, and some keys must not repeat among those.
-/

set_option autoImplicit false

namespace InstructionSet

inductive Artifact where
  | dispatch
  | opcodeType
  | interpreter
  | primitiveTable
  | nodeType
  | lowering
deriving DecidableEq, Repr

namespace Artifact

def mode : Artifact → String
  | .dispatch => "gen-vm"
  | .opcodeType => "gen-insttype"
  | .interpreter => "gen-interps"
  | .primitiveTable => "gen-prims"
  | .nodeType => "gen-attype"
  | .lowering => "gen-ir"

def all : List Artifact :=
  [nodeType, opcodeType, interpreter, lowering, primitiveTable, dispatch]

def ofMode? (mode : String) : Option Artifact := all.find? fun artifact => artifact.mode == mode

def modes : List String := all.map mode

def ofMode (mode : String) : Except Failure Artifact :=
  match ofMode? mode with
  | some artifact => .ok artifact
  | none => .error (.ofCause {} (.usage (.unknownMode mode modes)))

def description : Artifact → String
  | .dispatch => "opcode dispatch arms for the VM"
  | .opcodeType => "variant declarations of the instruction type"
  | .interpreter => "interpreter cases for primitives"
  | .primitiveTable => "primitive table entries"
  | .nodeType => "AST node variants for primitives"
  | .lowering => "AST to opcode lowering cases"

def selects : Artifact → Record → Bool
  | .dispatch, _ | .opcodeType, _ => true
  | .interpreter, record => record.isPrimitive && !record.noInterp
  | .primitiveTable, record => record.isPrimitive && (record.tracked? .name).isSome
  | .nodeType, record | .lowering, record => record.isPrimitive && !record.noIrCode

/-- The keys that must not repeat among the records selected. -/
def uniqueKeys : Artifact → List TextKey
  | .primitiveTable => [.inst, .name]
  | _ => [.inst]

end Artifact

/-- A constructor with what it is applied to, if that is anything. -/
def applied (constructor : String) (arguments : List String) : String :=
  if arguments.isEmpty then constructor
  else constructor ++ "(" ++ ", ".intercalate arguments ++ ")"

def reducerName : String := "reducef"

/-- The binding of beta reduction, if the record needs it. -/
def Record.reducer? (record : Record) (reduction : Expression) : Option Binding :=
  if record.needsReducef then some ⟨reducerName, reduction⟩ else none

def indexed (stem : String) (index : Nat) : String := stem ++ toString index

def numbered (stem : String) (first count : Nat) : List String :=
  (List.range' first count).map (indexed stem)

end InstructionSet
