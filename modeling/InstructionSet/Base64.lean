/-!
# Base64

Lenient decoding: characters outside the alphabet are skipped, and the first
complete padding ends the data. What is left incomplete at the end is a fault.
-/

set_option autoImplicit false

namespace InstructionSet.Base64

inductive Fault where
  | loneCharacter (count : Nat)
  | incorrectPadding
deriving DecidableEq, Repr

def Fault.message : Fault → String
  | .loneCharacter count =>
      "Invalid base64-encoded string: number of data characters (" ++ toString count ++
        ") cannot be 1 more than a multiple of 4"
  | .incorrectPadding => "Incorrect padding"

def value? (c : Char) : Option Nat :=
  let n := c.toNat
  if 65 ≤ n && n ≤ 90 then some (n - 65)
  else if 97 ≤ n && n ≤ 122 then some (n - 71)
  else if 48 ≤ n && n ≤ 57 then some (n + 4)
  else if c == '+' then some 62
  else if c == '/' then some 63
  else none

/-- Progress through the data: the bytes found, last first, the characters of the
current group of four and the bits they have left over, and the padding seen since
the last character. -/
structure Progress where
  bytes : List UInt8 := []
  place : Nat := 0
  left : Nat := 0
  padding : Nat := 0

def Progress.push (progress : Progress) (bits : Nat) : Progress :=
  let left := progress.left
  let emit (byte : Nat) : List UInt8 := byte.toUInt8 :: progress.bytes
  match progress.place with
  | 0 => { progress with place := 1, left := bits, padding := 0 }
  | 1 => { bytes := emit (left * 4 + bits / 16), place := 2, left := bits % 16, padding := 0 }
  | 2 => { bytes := emit (left * 16 + bits / 4), place := 3, left := bits % 4, padding := 0 }
  | _ => { bytes := emit (left * 64 + bits), place := 0, left := 0, padding := 0 }

def Progress.finish (progress : Progress) : Except Fault (List UInt8) :=
  match progress.place with
  | 0 => .ok progress.bytes.reverse
  | 1 => .error (.loneCharacter (progress.bytes.length / 3 * 4 + 1))
  | _ => .error .incorrectPadding

def decodeFrom (progress : Progress) : List Char → Except Fault (List UInt8)
  | [] => progress.finish
  | c :: rest =>
      if c == '=' then
        if progress.place < 2 then decodeFrom progress rest
        else
          let padding := progress.padding + 1
          if 4 ≤ progress.place + padding then .ok progress.bytes.reverse
          else decodeFrom { progress with padding } rest
      else match value? c with
        | none => decodeFrom progress rest
        | some bits => decodeFrom (progress.push bits) rest

def decode (chars : List Char) : Except Fault (List UInt8) := decodeFrom {} chars

end InstructionSet.Base64
