import InstructionSet.Artifact.Basic

/-!
# The table of primitives

Each named primitive has an entry of its public name, the signature of its type,
and a function that builds its node from as many arguments as it has parameters.
-/

set_option autoImplicit false

namespace InstructionSet.PrimitiveTable

def arguments (arity : Nat) : List String := numbered "_v" 1 arity

def wrapperOf (node : String) (arity : Nat) : String :=
  if arity = 0 then "lambda0 (" ++ node ++ ")"
  else
    "lambda" ++ toString arity ++ " (fun " ++ " ".intercalate (arguments arity) ++ " -> " ++
      applied node (arguments arity) ++ ")"

def wrapper (record : Record) : Except Failure String :=
  record.nodeName.map fun node => wrapperOf node record.arity

/-- The public name as it is shown; a record without one is shown as having none. -/
def publicName (record : Record) : String := record.name.getD "None"

def entry (record : Record) : Layout :=
  .withValue (wrapper record) fun wrapper =>
    .withValue (record.require .type) fun signature =>
      .indent 4 ++ .line ("(\x22" ++ publicName record ++ "\x22,") ++ .indent 1 ++
        .block "begin" 1 (.fragment signature) ++
        .line "end," ++ .line wrapper ++ .dedent 1 ++ .line ");"

end InstructionSet.PrimitiveTable
