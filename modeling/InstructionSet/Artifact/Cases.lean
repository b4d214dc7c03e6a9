import InstructionSet.Artifact.Basic

/-!
# Cases of primitives

A primitive that is lowered has one lowering case: its node becomes its opcode applied
to the subtrees in order. Each primitive has one case of the tree-walking interpreter.
Every parameter gets a subterm there, numbered in declared order, which is interpreted;
typed parameters are converted by their accessors, after all value parameters.
-/

set_option autoImplicit false

namespace InstructionSet.Lowering

def subtrees (arity : Nat) : List String := numbered "p" 1 arity

def transformLine (config : Config) (opcode : String) (arity : Nat) : String :=
  config.transformPrimitive ++ " " ++ config.environment ++ " [" ++
    "; ".intercalate (subtrees arity) ++ "] " ++ opcode

def case_ (config : Config) (record : Record) : Layout :=
  .withValue record.nodeName fun node =>
    .withValue record.opcodeName fun opcode =>
      .lineAt 2 ("| " ++ applied node (subtrees record.arity) ++ " ->") ++
        .lineAt 4 (transformLine config opcode record.arity) ++ .blank 1

end InstructionSet.Lowering

namespace InstructionSet.Interpreter

def subterm (index : Nat) : String := indexed "_ast" index

def subterms (arity : Nat) : List String := (List.range arity).map subterm

def interpreted (config : Config) (subterm : String) : Expression :=
  .apply (.apply (.identifier config.interpret) (.identifier config.environment))
    (.identifier subterm)

def valueBinding? (config : Config) : Parameter × String → Option Binding
  | (.value name, subterm) => some ⟨name, interpreted config subterm⟩
  | (.typed _ _, _) => none

def typedBinding? (config : Config) : Parameter × String → Option Binding
  | (.value _, _) => none
  | (.typed name tag, subterm) =>
      some ⟨name, .apply (.identifier (config.accessor tag)) (interpreted config subterm)⟩

def parameterBindings (config : Config) (parameters : List Parameter) : List Binding :=
  let matched := parameters.zip (subterms parameters.length)
  matched.filterMap (valueBinding? config) ++ matched.filterMap (typedBinding? config)

def reduction (config : Config) : Expression := .identifier config.interpReducef

/-- The bindings of a case: those of the parameters, then the reduction. -/
def bindings (config : Config) (record : Record) : List Binding :=
  parameterBindings config record.parameters ++
    (record.reducer? (reduction config)).toList

def case_ (config : Config) (record : Record) : Layout :=
  .withValue record.nodeName fun node =>
    .lineAt 1 ("| " ++ applied node (subterms record.arity) ++ " ->") ++ .indent 3 ++
      .lines ((bindings config record).map Binding.line) ++ .indent 1 ++
      .block "begin" 1 (.withValue record.interpBody .fragment) ++
      .line "end" ++ .blank 1

end InstructionSet.Interpreter
