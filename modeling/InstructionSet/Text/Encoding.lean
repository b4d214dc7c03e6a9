import InstructionSet.Text.Quoted

/-!
# Texts as bytes

Not every text can be written as bytes: ASCII has no code points from 128 on, and
UTF-8 has no surrogates. A text that cannot be written is at fault from the first
code point that has no bytes; all that follow it in one run are at fault with it.
-/

set_option autoImplicit false

namespace InstructionSet.Text

/-- A way of writing texts as bytes. -/
inductive Charset where
  | ascii
  | utf8
deriving DecidableEq, Repr

namespace Charset

def label : Charset → String
  | .ascii => "ascii"
  | .utf8 => "utf-8"

/-- What is wrong with a code point that has no bytes. -/
def reason : Charset → String
  | .ascii => "ordinal not in range(128)"
  | .utf8 => "surrogates not allowed"

/-- Whether a code point has no bytes. -/
def lacks : Charset → Nat → Bool
  | .ascii, code => 128 ≤ code
  | .utf8, code => isSurrogate code

end Charset

/-- The run of code points, beginning at a position, that cannot be written. -/
structure EncodingFault where
  charset : Charset
  codes : List Nat
  start : Nat
deriving DecidableEq, Repr

/-- A single code point at fault is shown, several are only located. -/
def EncodingFault.message (fault : EncodingFault) : String :=
  let lead := "'" ++ fault.charset.label ++ "' codec can't encode character"
  let place := match fault.codes with
    | [code] => " '" ++ codeEscape code ++ "' in position " ++ toString fault.start
    | codes => "s in position " ++ toString fault.start ++ "-" ++
        toString (fault.start + codes.length - 1)
  lead ++ place ++ ": " ++ fault.charset.reason

/-- The fault of code points that begin at a position. -/
def encodingFault? (charset : Charset) (start : Nat) : List Nat → Option EncodingFault
  | [] => none
  | code :: rest =>
      if charset.lacks code then some ⟨charset, code :: rest.takeWhile charset.lacks, start⟩
      else encodingFault? charset (start + 1) rest

theorem encodingFault?_eq_none_iff (charset : Charset) (start : Nat) (codes : List Nat) :
    encodingFault? charset start codes = none ↔ ∀ code ∈ codes, charset.lacks code = false := by
  induction codes generalizing start with
  | nil => simp [encodingFault?]
  | cons code rest ih =>
      rw [encodingFault?, List.forall_mem_cons]
      cases charset.lacks code <;> simp [ih]

/-- Whether a surrogate stands for a byte that is no part of a character. -/
def isStrayByte (code : Nat) : Bool := 0xdc80 ≤ code && code ≤ 0xdcff

/-- The fault of the name of a file. A surrogate that stands for a stray byte has
its byte there. -/
def nameFault? (start : Nat) : List Nat → Option EncodingFault
  | [] => none
  | code :: rest =>
      if isSurrogate code && !isStrayByte code then encodingFault? .utf8 start (code :: rest)
      else nameFault? (start + 1) rest

/-- The number of bytes of a code point in the name of a file. -/
def nameBytes (code : Nat) : Nat :=
  if code < 0x80 || isStrayByte code then 1
  else if code < 0x800 then 2
  else if code < 0x10000 then 3
  else 4

/-- The number of bytes of the name of a file. -/
def nameSize (name : String) : Nat :=
  (codes name.toList).foldl (fun size code => size + nameBytes code) 0

end InstructionSet.Text
