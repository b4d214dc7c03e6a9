import InstructionSet.Text.Blocks
import InstructionSet.Text.Digit

/-!
# Sources of characters

A source is a text of which only acceptable code points may be read. A text given
as a whole is checked before anything is read. A text that arrives in pieces is
checked piece by piece: the first two when the source is opened, the others when
the reader gets to them, so a fault there ends the text that can be read.
-/

set_option autoImplicit false

namespace InstructionSet.Yaml

inductive SourceFault where
  | unacceptable (code : Nat) (source : String) (position : Nat)
  | undecodable (fault : Text.Utf8.Fault)
deriving DecidableEq, Repr

def SourceFault.message : SourceFault → String
  | .unacceptable code source position =>
      "unacceptable character #x" ++ Text.hexText 4 code ++
        ": special characters are not allowed\n  in \"" ++ source ++ "\", position " ++
        toString position
  | .undecodable fault => fault.message

/-- Whether a code point may stand in a text. -/
def isAcceptable (code : Nat) : Bool :=
  code == 9 || code == 10 || code == 13 || (32 ≤ code && code ≤ 126) || code == 0x85 ||
    (0xa0 ≤ code && code ≤ 0xd7ff) || (0xe000 ≤ code && code ≤ 0xfffd) || 0x10000 ≤ code

structure Source where
  name : String
  chars : List Char
  fault : Option SourceFault := none

namespace Source

/-- The first code point that is not acceptable, with its position. -/
def firstUnacceptable? (position : Nat) : List Nat → Option (Nat × Nat)
  | [] => none
  | code :: rest =>
      if isAcceptable code then firstUnacceptable? (position + 1) rest else some (code, position)

/-- The fault that a piece of text has at its position in the whole. -/
def check (name : String) (position : Nat) (piece : List Nat) : Option SourceFault :=
  (firstUnacceptable? position piece).map fun (code, place) => .unacceptable code name place

/-- The name of a text that is given as a whole. -/
def textName : String := "<unicode string>"

def ofText (text : String) : Except SourceFault Source :=
  let codes := Text.codes text.toList
  match check textName 0 codes with
  | some fault => .error fault
  | none => .ok { name := textName, chars := codes.map Char.ofNat }

/-- The characters of the pieces behind `position` up to the first fault. -/
def readable (name : String) (end_ : Option SourceFault) :
    Nat → List (List Nat) → List Char × Option SourceFault
  | _, [] => ([], end_)
  | position, piece :: rest =>
      match check name position piece with
      | some fault => ([], some fault)
      | none =>
          let (chars, fault) := readable name end_ (position + piece.length) rest
          (piece.map Char.ofNat ++ chars, fault)

/-- The number of characters of a piece. -/
def pieceLength : Nat := 4096

/-- Opens a text that arrives in pieces. A fault met while the first two pieces
are read or checked is met on opening. -/
def ofPieces (name : String) (pieces : Text.Pieces) : Except SourceFault Source :=
  let late := pieces.fault.map SourceFault.undecodable
  let first := (pieces.texts.take 2).flatten
  match (if pieces.texts.length < 2 then late else none) with
  | some fault => .error fault
  | none =>
      match check name 0 first with
      | some fault => .error fault
      | none =>
          let (chars, fault) := readable name late first.length (pieces.texts.drop 2)
          .ok { name, chars := first.map Char.ofNat ++ chars, fault }

end Source

end InstructionSet.Yaml
