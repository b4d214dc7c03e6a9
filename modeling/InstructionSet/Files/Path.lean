import InstructionSet.Text.Blank

/-!
# Paths

A path has a root and the names below it. Empty names and single dots say nothing
and are dropped; double dots are names like any other. A path begins at the current
directory, at the root, or, when it is written with exactly two slashes, at a root
of its own.
-/

set_option autoImplicit false

namespace InstructionSet

inductive PathRoot where
  | here
  | single
  | double
deriving DecidableEq, Repr

def PathRoot.text : PathRoot → String
  | .here => ""
  | .single => "/"
  | .double => "//"

structure Path where
  root : PathRoot := .here
  names : List String := []
deriving DecidableEq, Repr

namespace Path

/-- The texts between slashes, of which there is one more than slashes. -/
def cutAtSlashes : List Char → List (List Char)
  | [] => [[]]
  | c :: rest =>
      if c == '/' then [] :: cutAtSlashes rest
      else match cutAtSlashes rest with
        | [] => [[c]]
        | name :: names => (c :: name) :: names

def rootOf (chars : List Char) : PathRoot :=
  match (chars.takeWhile (· == '/')).length with
  | 0 => .here
  | 2 => .double
  | _ => .single

/-- Whether a text between slashes is a name. -/
def isName (name : List Char) : Bool := !name.isEmpty && name != ['.']

def ofText (text : String) : Path :=
  { root := rootOf text.toList
    names := ((cutAtSlashes text.toList).filter isName).map String.ofList }

/-- The written path; the current directory itself is written as a dot. -/
def text (path : Path) : String :=
  let written := path.root.text ++ "/".intercalate path.names
  if written.isEmpty then "." else written

def isAbsolute (path : Path) : Bool := path.root != .here

def name (path : Path) : String := path.names.getLast?.getD ""

def parent (path : Path) : Path := { path with names := path.names.dropLast }

/-- The path one name further; nothing further for an empty name. -/
def enter (path : Path) (name : String) : Path :=
  if name.isEmpty then path else { path with names := path.names ++ [name] }

theorem names_enter_of_ne (path : Path) {name : String} (given : name ≠ "") :
    (path.enter name).names = path.names ++ [name] := by
  simp [enter, String.isEmpty_iff, given]

end Path

end InstructionSet
