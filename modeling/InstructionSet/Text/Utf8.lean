import InstructionSet.Text.Digit

/-!
# Strict UTF-8

Bytes are read as characters one sequence at a time. A sequence that cannot be
completed to a character is a fault, which names the bytes it covers: the lead
byte and the continuation bytes that still fit. A sequence that only lacks its
last bytes is left over when more bytes may follow, and is a fault at the end.
-/

set_option autoImplicit false

namespace InstructionSet.Text.Utf8

inductive Reason where
  | invalidStart
  | invalidContinuation
  | unexpectedEnd
deriving DecidableEq, Repr

/-- The bytes at fault, by their positions from `start` up to and without `stop`. -/
structure Fault where
  start : Nat
  stop : Nat
  byte : UInt8
  reason : Reason
deriving DecidableEq, Repr

def Reason.message : Reason → String
  | .invalidStart => "invalid start byte"
  | .invalidContinuation => "invalid continuation byte"
  | .unexpectedEnd => "unexpected end of data"

/-- One byte at fault is shown, several are only located. -/
def Fault.message (fault : Fault) : String :=
  if fault.stop = fault.start + 1 then
    "'utf-8' codec can't decode byte 0x" ++ hexText 2 fault.byte.toNat ++ " in position " ++
      toString fault.start ++ ": " ++ fault.reason.message
  else
    "'utf-8' codec can't decode bytes in position " ++ toString fault.start ++ "-" ++
      toString (fault.stop - 1) ++ ": " ++ fault.reason.message

inductive Sequence where
  | character (c : Char) (width : Nat) (rest : List UInt8)
  | incomplete
  | invalid (length : Nat) (reason : Reason)

def isContinuation (byte : UInt8) : Bool := byte &&& 0xc0 == 0x80

/-- Whether a byte may come second after a lead byte: the second byte of a
longer sequence must rule out short forms, surrogates and codes past the last. -/
def isSecond (lead byte : UInt8) : Bool :=
  isContinuation byte &&
    !(lead == 0xe0 && byte < 0xa0) && !(lead == 0xed && 0xa0 ≤ byte) &&
    !(lead == 0xf0 && byte < 0x90) && !(lead == 0xf4 && 0x90 ≤ byte)

/-- The six bits that a continuation byte adds. -/
def extend (code : Nat) (byte : UInt8) : Nat := code * 64 + (byte &&& 0x3f).toNat

def sequence (lead : UInt8) (rest : List UInt8) : Sequence :=
  if lead < 0x80 then .character (Char.ofNat lead.toNat) 1 rest
  else if lead < 0xc2 || 0xf5 ≤ lead then .invalid 1 .invalidStart
  else match rest with
    | [] => .incomplete
    | second :: rest =>
        if !isSecond lead second then .invalid 1 .invalidContinuation
        else if lead < 0xe0 then
          .character (Char.ofNat (extend (lead &&& 0x1f).toNat second)) 2 rest
        else match rest with
          | [] => .incomplete
          | third :: rest =>
              if !isContinuation third then .invalid 2 .invalidContinuation
              else if lead < 0xf0 then
                .character (Char.ofNat (extend (extend (lead &&& 0x0f).toNat second) third)) 3 rest
              else match rest with
                | [] => .incomplete
                | fourth :: rest =>
                    if !isContinuation fourth then .invalid 3 .invalidContinuation
                    else .character
                      (Char.ofNat (extend (extend (extend (lead &&& 0x07).toNat second) third)
                        fourth)) 4 rest

/-- The characters read, and the bytes of a sequence that is not complete yet. -/
structure Decoded where
  chars : List Char
  rest : List UInt8

/-- Decodes with a bound on the number of sequences; every sequence takes at
least one byte, so the number of bytes is bound enough. -/
def decodeFrom (final : Bool) : Nat → Nat → List Char → List UInt8 → Except Fault Decoded
  | 0, _, done, rest => .ok ⟨done.reverse, rest⟩
  | _ + 1, _, done, [] => .ok ⟨done.reverse, []⟩
  | bound + 1, position, done, lead :: rest =>
      match sequence lead rest with
      | .character c width remaining =>
          decodeFrom final bound (position + width) (c :: done) remaining
      | .invalid length reason => .error ⟨position, position + length, lead, reason⟩
      | .incomplete =>
          if final then .error ⟨position, position + rest.length + 1, lead, .unexpectedEnd⟩
          else .ok ⟨done.reverse, lead :: rest⟩

/-- Decodes bytes that more may follow, unless they are the final ones. -/
def decode (final : Bool) (bytes : List UInt8) : Except Fault Decoded :=
  decodeFrom final bytes.length 0 [] bytes

def decodeWhole (bytes : List UInt8) : Except Fault (List Char) :=
  (decode true bytes).map Decoded.chars

end InstructionSet.Text.Utf8
