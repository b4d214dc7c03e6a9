import InstructionSet.Text.CodePoint
import InstructionSet.Text.Digit
import InstructionSet.Text.Printable

/-!
# Quoted literals

A text is shown between apostrophes, or between double quotes when it has an
apostrophe and no double quote. Inside, the chosen quote and the backslash are
escaped, and so is every code point that is not printable. Bytes are shown the
same way, one byte at a time, behind the letter `b`.
-/

set_option autoImplicit false

namespace InstructionSet.Text

/-- The quote that a literal of these code points stands between. -/
def chosenQuote (codes : List Nat) : Char :=
  if codes.contains 0x27 && !codes.contains 0x22 then '\x22' else '\x27'

def codeEscape (code : Nat) : String :=
  if code < 0x100 then "\\x" ++ hexText 2 code
  else if code < 0x10000 then "\\u" ++ hexText 4 code
  else "\\U" ++ hexText 8 code

/-- One code point inside a literal: the named escapes, the escapes by code for
what is not printable, and all else as its character. -/
def escapedCode (quote : Char) (code : Nat) : String :=
  if code = quote.toNat || code = 0x5c then String.ofList ['\x5c', Char.ofNat code]
  else if code = 9 then "\\t"
  else if code = 10 then "\\n"
  else if code = 13 then "\\r"
  else if isPrintable code then String.singleton (Char.ofNat code)
  else codeEscape code

/-- The literal of a list of code points. -/
def quotedCodes (codes : List Nat) : String :=
  let quote := chosenQuote codes
  String.singleton quote ++ String.join (codes.map (escapedCode quote)) ++ String.singleton quote

def quotedChars (chars : List Char) : String := quotedCodes (codes chars)

def quoted (text : String) : String := quotedChars text.toList

def quotedChar (c : Char) : String := quotedCodes [c.toNat]

def escapedByte (quote : Char) (byte : UInt8) : String :=
  if byte < 0x80 then escapedCode quote byte.toNat else codeEscape byte.toNat

def quotedBytes (bytes : List UInt8) : String :=
  let quote := chosenQuote (bytes.map UInt8.toNat)
  "b" ++ String.singleton quote ++ String.join (bytes.map (escapedByte quote)) ++
    String.singleton quote

end InstructionSet.Text
