import InstructionSet.Artifact.Basic
import InstructionSet.Text.Blank

/-!
# The types of opcodes and of nodes

The type of opcodes has one variant for each opcode with the types of its fields, between
the head of the type and the clause that derives its printer. A record may replace the
printing of its opcode. The type of nodes has one variant for each primitive that is
lowered, with a subtree for each parameter.
-/

set_option autoImplicit false

namespace InstructionSet.OpcodeType

def head (config : Config) : Layout := .line ("and " ++ config.instructionType ++ " =")

def tail : Layout := .lineAt 1 "[@@deriving show]"

def declaration (opcode : String) (fields : Option (List Field)) : String :=
  "| " ++ opcode ++
    match fields with
    | some fields => " of " ++ " * ".intercalate (fields.map Field.type)
    | none => ""

def variant (record : Record) : Layout :=
  .withValue record.opcodeName fun opcode =>
    .lineAt 1 (declaration opcode record.fields) ++
      (if record.suppressPrinter then
        .lineAt 3 ("[@printer (fun fmt _ -> Format.fprintf fmt \x22" ++ opcode ++ "(...)\x22)]")
      else .nothing) ++
      (match record.customPrinter with
        | some printer => .lineAt 3 ("[@printer (" ++ Text.trimmedEnd printer ++ ")]")
        | none => .nothing)

end InstructionSet.OpcodeType

namespace InstructionSet.NodeType

def declaration (config : Config) (node : String) (arity : Nat) : String :=
  "| " ++ node ++
    (if arity = 0 then ""
      else " of " ++ " * ".intercalate (List.replicate arity config.astType))

def variant (config : Config) (record : Record) : Layout :=
  .withValue record.nodeName fun node => .lineAt 1 (declaration config node record.arity)

end InstructionSet.NodeType
