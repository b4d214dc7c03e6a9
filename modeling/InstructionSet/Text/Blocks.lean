import InstructionSet.Text.CodePoint
import InstructionSet.Text.Lines
import InstructionSet.Text.Utf8

/-!
# Files read in blocks

An open text file is decoded block by block, so a fault in its bytes is met only
when the block that holds it is read, and its position counts from the bytes that
the decoder was given: those left over from the block before, and the block. A
carriage return at the end of a block waits for the next block, because a line
feed there belongs to it. `pieces` hands the text out in pieces of a fixed length,
`fileLines` line by line.
-/

set_option autoImplicit false

namespace InstructionSet.Text

/-- The number of bytes of a block, unless the last block needed more bytes for
the characters that are still wanted. -/
def blockSize : Nat := 8192

/-- An open text file: the bytes not read yet, the bytes of an unfinished
sequence, whether a carriage return waits, the characters decoded but not handed
out, and the sizes of the last block in bytes and in characters. -/
structure BlockReader where
  bytes : List UInt8
  carry : List UInt8 := []
  heldReturn : Bool := false
  ready : List Char := []
  lastBytes : Nat := 0
  lastChars : Nat := 0

namespace BlockReader

/-- The number of bytes to read when `wanted` characters are missing. -/
def nextSize (reader : BlockReader) (wanted : Nat) : Nat :=
  if reader.lastChars = 0 then blockSize
  else max blockSize (reader.lastBytes * wanted / reader.lastChars)

def splitHeldReturn (chars : List Char) : List Char × Bool :=
  match chars.reverse with
  | '\r' :: front => (front.reverse, true)
  | _ => (chars, false)

/-- Reads and decodes one block. The answer says whether the end of the file has
not been met yet. -/
def readBlock (reader : BlockReader) (wanted : Nat) : Except Utf8.Fault (BlockReader × Bool) := do
  let size := reader.nextSize wanted
  let block := reader.bytes.take size
  let final := block.isEmpty
  let decoded ← Utf8.decode final (reader.carry ++ block)
  let joined :=
    if reader.heldReturn && (final || !decoded.chars.isEmpty) then '\r' :: decoded.chars
    else decoded.chars
  let stillHeld := reader.heldReturn && !final && decoded.chars.isEmpty
  let (text, held) := if final then (joined, false) else splitHeldReturn joined
  let chars := normalizeNewlines text
  return ({ bytes := reader.bytes.drop size, carry := decoded.rest, heldReturn := held || stillHeld,
            ready := reader.ready ++ chars, lastBytes := block.length, lastChars := chars.length },
          !final || !chars.isEmpty)

/-- Reads blocks until `count` characters are ready or the file ends. The bound
is the number of blocks that may be read. -/
def fill (count : Nat) : Nat → BlockReader → Except Utf8.Fault BlockReader
  | 0, reader => .ok reader
  | bound + 1, reader =>
      if count ≤ reader.ready.length then .ok reader
      else do
        let (reader, more) ← reader.readBlock (count - reader.ready.length)
        if more then fill count bound reader else return reader

/-- A bound on the number of blocks of a file: each block but two takes a byte. -/
def bound (reader : BlockReader) : Nat := reader.bytes.length + 3

end BlockReader

/-- The code points of a text handed out in pieces, up to its end or to a fault. -/
structure Pieces where
  texts : List (List Nat)
  fault : Option Utf8.Fault := none

/-- The pieces of at most `count` characters of what a reader has not handed out. -/
def piecesFrom (count : Nat) : Nat → BlockReader → Pieces
  | 0, _ => ⟨[], none⟩
  | bound + 1, reader =>
      match BlockReader.fill count reader.bound reader with
      | .error fault => ⟨[], some fault⟩
      | .ok reader =>
          if reader.ready.isEmpty then ⟨[], none⟩
          else
            let rest := piecesFrom count bound { reader with ready := reader.ready.drop count }
            { rest with texts := (reader.ready.take count).map Char.toNat :: rest.texts }

def filePieces (count : Nat) (bytes : List UInt8) : Pieces :=
  piecesFrom count (bytes.length + 2) { bytes }

def textPieces (count : Nat) (text : String) : Pieces :=
  let codes := codes text.toList
  ⟨cutInto codes.length codes, none⟩
where
  cutInto : Nat → List Nat → List (List Nat)
    | 0, _ => []
    | _, [] => []
    | bound + 1, rest => rest.take count :: cutInto bound (rest.drop count)

def decodedBlocks : Nat → BlockReader → List Char × Option Utf8.Fault
  | 0, reader => (reader.ready, none)
  | bound + 1, reader =>
      match reader.readBlock 0 with
      | .error fault => (reader.ready, some fault)
      | .ok (next, more) => if more then decodedBlocks bound next else (next.ready, none)

/-- The lines of a file as they are handed out one by one: at a fault, the lines
that the blocks before it complete. -/
def fileLines (bytes : List UInt8) : List String × Option Utf8.Fault :=
  let reader : BlockReader := { bytes }
  match decodedBlocks reader.bound reader with
  | (chars, none) => ((feedLines chars).map ofPlain, none)
  | (chars, some fault) =>
      (((feedLines chars).filter fun line => line.getLast? == some '\n').map ofPlain, some fault)

def fileText (bytes : List UInt8) : Except Utf8.Fault String :=
  (Utf8.decodeWhole bytes).map fun chars => ofPlain (normalizeNewlines chars)

end InstructionSet.Text
