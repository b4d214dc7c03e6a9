import InstructionSet.Failure
import InstructionSet.Files.Path

/-!
# Files

The files that a run can read: each path has its bytes, or a reason why it cannot be
opened. Nothing is ever written, so the files stay the same during a run.
-/

set_option autoImplicit false

namespace InstructionSet

structure Files where
  contents : Path → Except FileProblem (List UInt8)

namespace Files

/-- A path with a null character names nothing that could be opened. -/
def hasNull (path : Path) : Bool := path.names.any fun name => name.toList.contains '\x00'

def isNameable (path : Path) : Bool :=
  (Text.nameFault? 0 (Text.codes path.text.toList)).isNone && !hasNull path

def read (files : Files) (path : Path) : Except Failure (List UInt8) :=
  match Text.nameFault? 0 (Text.codes path.text.toList) with
  | some fault => .error (.unnameable fault)
  | none =>
      if hasNull path then .error .nullInPath
      else (files.contents path).mapError fun problem => .file ⟨problem, path.text⟩

end Files

end InstructionSet
