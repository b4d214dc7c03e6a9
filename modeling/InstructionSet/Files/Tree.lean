import InstructionSet.Files.Basic

/-!
# Trees of files

A tree is given by the paths of some files and directories; the directories above
them are there, too. A path is followed name by name: each name but the last must
lead to a directory, and double dots lead back up. Above the current directory
nothing is known but that there are directories.
-/

set_option autoImplicit false

namespace InstructionSet

inductive FileEntry where
  | file (bytes : List UInt8)
  | directory
deriving DecidableEq, Repr

/-- Files and directories by their paths; of two entries of a path the first counts. -/
structure FileTree where
  entries : List (Path × FileEntry)

namespace FileTree

def nameLimit : Nat := 255

def pathLimit : Nat := 4095

def sameRoot (first second : Path) : Bool := first.isAbsolute == second.isAbsolute

/-- What is found at a place that is written without double dots, except for places
above the current directory. -/
def entryAt? (tree : FileTree) (place : Path) : Option FileEntry :=
  match tree.entries.find? fun (path, _) => sameRoot path place && path.names == place.names with
  | some (_, entry) => some entry
  | none =>
      let isAbove := tree.entries.any fun (path, _) =>
        sameRoot path place && place.names.isPrefixOf path.names
      if isAbove || place.names.all (· == "..") then some .directory else none

def step (place : Path) (name : String) : Path :=
  if name != ".." then place.enter name
  else if place.names.all (· == "..") then
    if place.isAbsolute then place else place.enter ".."
  else place.parent

def follow (tree : FileTree) (place : Path) :
    FileEntry → List String → Except FileProblem (List UInt8)
  | .file bytes, [] => .ok bytes
  | .directory, [] => .error .isDirectory
  | .file _, _ :: _ => .error .notDirectory
  | .directory, name :: rest =>
      if nameLimit < Text.nameSize name then .error .nameTooLong
      else
        let next := step place name
        match tree.entryAt? next with
        | none => .error .notFound
        | some entry => tree.follow next entry rest

def files (tree : FileTree) : Files where
  contents path :=
    if pathLimit < Text.nameSize path.text then .error .nameTooLong
    else tree.follow { root := path.root } .directory path.names

end FileTree

end InstructionSet
