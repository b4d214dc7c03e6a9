import InstructionSet.Artifact.Basic

/-!
# Settings

What can be set on the command line, and how each setting is spelled. A setting is
shown by all its spellings.
-/

set_option autoImplicit false

namespace InstructionSet.Command

/-- What a run does: it generates an artifact, splices files into a source or shows
the rules. -/
inductive Mode where
  | artifact (artifact : Artifact)
  | splice
  | rules
deriving DecidableEq, Repr

namespace Mode

def name : Mode → String
  | .artifact chosen => chosen.mode
  | .splice => "pp-include"
  | .rules => "list-rules"

def all : List Mode := Artifact.all.map artifact ++ [splice, rules]

def spelling (mode : Mode) : String := "--" ++ mode.name

def suggested : List String := (all.filter (· != rules)).map spelling

end Mode

inductive Setting where
  | help
  | version
  | verbose
  | mode (mode : Mode)
  | config
  | duplicates
deriving DecidableEq, Repr

namespace Setting

def spellings : List (String × Setting) :=
  [("-h", help), ("--help", help), ("--version", version), ("-v", verbose), ("--verbose", verbose)] ++
    Mode.all.map (fun chosen => (chosen.spelling, mode chosen)) ++
    [("-c", config), ("--config", config), ("--duplicates", duplicates)]

def ofSpelling? (spelling : List Char) : Option Setting :=
  (spellings.find? fun (known, _) => known.toList == spelling).map Prod.snd

def title (setting : Setting) : String :=
  "/".intercalate ((spellings.filter fun (_, known) => known == setting).map Prod.fst)

def takesValue : Setting → Bool
  | .config | .duplicates => true
  | _ => false

end Setting

end InstructionSet.Command
