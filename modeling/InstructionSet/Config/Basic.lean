import InstructionSet.Failure
import InstructionSet.Record.Decode

/-!
# Configurations

The names that generated code refers to, and the unit of indentation. A mapping
may replace any of the defaults; it may have no other keys, and its values are
texts.
-/

set_option autoImplicit false

namespace InstructionSet

structure Config where
  stack : String := "stack"
  environment : String := "env"
  code : String := "code"
  dump : String := "dump"
  vmExec : String := "exec"
  result : String := "ret"
  accessorStem : String := "get_"
  transformPrimitive : String := "transform_primitive"
  vmReducef : String := "exec_application"
  interpReducef : String := "reduce_beta_list"
  interpret : String := "interpret"
  bugReporter : String := "report_bug_vm"
  instructionType : String := "instruction"
  astType : String := "abstract_tree"
  indent : String := "  "
deriving DecidableEq, Repr

inductive ConfigKey where
  | stack
  | environment
  | code
  | dump
  | vmExec
  | result
  | accessorStem
  | transformPrimitive
  | vmReducef
  | interpReducef
  | interpret
  | bugReporter
  | instructionType
  | astType
  | indent
deriving DecidableEq, Repr

namespace ConfigKey

def spelling : ConfigKey → String
  | .stack => "stack"
  | .environment => "environment"
  | .code => "code"
  | .dump => "dump"
  | .vmExec => "vm_exec"
  | .result => "result"
  | .accessorStem => "accessor_prefix"
  | .transformPrimitive => "transform_primitive"
  | .vmReducef => "vm_reducef"
  | .interpReducef => "interp_reducef"
  | .interpret => "interpret"
  | .bugReporter => "bug_reporter"
  | .instructionType => "instruction_type"
  | .astType => "ast_type"
  | .indent => "indent"

def all : List ConfigKey :=
  [stack, environment, code, dump, vmExec, result, accessorStem, transformPrimitive, vmReducef,
    interpReducef, interpret, bugReporter, instructionType, astType, indent]

def ofSpelling? (spelling : String) : Option ConfigKey :=
  all.find? fun key => key.spelling == spelling

end ConfigKey

namespace Config

def get (config : Config) : ConfigKey → String
  | .stack => config.stack
  | .environment => config.environment
  | .code => config.code
  | .dump => config.dump
  | .vmExec => config.vmExec
  | .result => config.result
  | .accessorStem => config.accessorStem
  | .transformPrimitive => config.transformPrimitive
  | .vmReducef => config.vmReducef
  | .interpReducef => config.interpReducef
  | .interpret => config.interpret
  | .bugReporter => config.bugReporter
  | .instructionType => config.instructionType
  | .astType => config.astType
  | .indent => config.indent

def set (config : Config) (key : ConfigKey) (value : String) : Config :=
  match key with
  | .stack => { config with stack := value }
  | .environment => { config with environment := value }
  | .code => { config with code := value }
  | .dump => { config with dump := value }
  | .vmExec => { config with vmExec := value }
  | .result => { config with result := value }
  | .accessorStem => { config with accessorStem := value }
  | .transformPrimitive => { config with transformPrimitive := value }
  | .vmReducef => { config with vmReducef := value }
  | .interpReducef => { config with interpReducef := value }
  | .interpret => { config with interpret := value }
  | .bugReporter => { config with bugReporter := value }
  | .instructionType => { config with instructionType := value }
  | .astType => { config with astType := value }
  | .indent => { config with indent := value }

theorem get_set_self (config : Config) (key : ConfigKey) (value : String) :
    (config.set key value).get key = value := by
  cases key <;> rfl

theorem get_set_of_ne (config : Config) {key other : ConfigKey} (value : String)
    (differs : other ≠ key) : (config.set key value).get other = config.get other := by
  cases key <;> cases other <;> first | rfl | exact absurd rfl differs

open Yaml (Value Document)

def keyOf? : Value → Option ConfigKey
  | .text spelling => ConfigKey.ofSpelling? spelling
  | _ => none

/-- The texts of the keys that no configuration has, in order. -/
def unknownKeys (entries : List (Value × Value)) : Except Failure (List String) :=
  Record.sortedKeys ((entries.map Prod.fst).filter fun key => (keyOf? key).isNone)

def validKeys : List String := Text.sort (ConfigKey.all.map ConfigKey.spelling)

/-- Replaces values one by one; the first that is no text is reported. -/
def override : List (ConfigKey × Value) → Config → Except ConfigFault Config
  | [], config => .ok config
  | (key, .text value) :: rest, config => override rest (config.set key value)
  | (key, _) :: _, _ => .error (.notString key.spelling)

def knownEntries (entries : List (Value × Value)) : List (ConfigKey × Value) :=
  entries.filterMap fun (key, value) => (keyOf? key).map (·, value)

/-- The configuration that a document of a source describes. Unknown keys are
reported before values are looked at. -/
def ofSource (document : Document) (source : String := "") : Except Failure Config := do
  let refuse (fault : ConfigFault) : Failure := .ofCause { file := source } (.config fault)
  match document.resolve document.root with
  | .mapping entries =>
      let unknown ← unknownKeys entries
      if unknown.isEmpty then (override (knownEntries entries) {}).mapError refuse
      else throw (refuse (.unknownKeys unknown validKeys))
  | value => throw (refuse (.notMapping value.typeName))

end Config

end InstructionSet
