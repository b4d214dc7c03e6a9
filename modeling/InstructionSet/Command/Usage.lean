import InstructionSet.Command.Setting

/-!
# Usage

What the command says about itself. Every row has its title in a column of its own,
and a title that does not fit there stands alone on its line.
-/

set_option autoImplicit false

namespace InstructionSet.Command

def padded (width : Nat) (text : String) : String :=
  text ++ String.ofList (List.replicate (width - text.length) ' ')

namespace Usage

def column : Nat := 24

def row (title : String) (explanation : List String) : List String :=
  let titled := "  " ++ title
  let indented := explanation.map fun line => padded column "" ++ line
  match explanation, indented with
  | first :: _, _ :: rest =>
      if titled.length + 2 ≤ column then (padded column titled ++ first) :: rest
      else titled :: indented
  | _, _ => [titled]

def explanation : Mode → List String
  | .artifact artifact => ["Emit " ++ artifact.description ++ "."]
  | .splice => ["Splice include directives of FILE and mark it", "generated."]
  | .rules => ["List the inline destructuring rules."]

def ended (lines : List String) : String := String.join (lines.map (· ++ "\n"))

def summary : String :=
  ended [
    "usage: vmgen [-h] [--version] [-v]",
    "             [" ++ " | ".intercalate (Mode.all.map Mode.spelling) ++ "]",
    "             [-c FILE] [--duplicates \x7ballow,warn,reject\x7d]",
    "             [FILE ...]"]

def version : String := "vmgen 0.1.0\n"

def help : String :=
  summary ++ ended (
    ["",
      "Generate VM instruction-set source fragments from YAML",
      "instruction records, or splice fragments into a template.",
      "",
      "positional arguments:"] ++
    row "FILE" ["Record files (default: stdin), or the source file for", "--pp-include."] ++
    ["", "options:"] ++
    row "-h, --help" ["show this help message and exit"] ++
    row "--version" ["show program's version number and exit"] ++
    row "-v, --verbose" ["Increase verbosity (-v info, -vv debug)."] ++
    row "-c FILE, --config FILE" ["YAML file overriding target-language names."] ++
    row "--duplicates \x7ballow,warn,reject\x7d"
      ["Handling of repeated inst/name values (default: warn)."] ++
    ["", "modes (exactly one):"] ++
    Mode.all.flatMap (fun mode => row mode.spelling (explanation mode)) ++
    ["",
      "examples:",
      "  vmgen --gen-vm instructions.yaml > vminstrs.gen.ml",
      "  vmgen --gen-prims primitives.yaml > primitives.gen.ml",
      "  vmgen --pp-include src/vm.cppo.ml > src/vm.ml"])

/-- What is said about a command line that cannot be read. -/
def complaint (account : String) : String := summary ++ "vmgen: error: " ++ account ++ "\n"

end Usage

end InstructionSet.Command
