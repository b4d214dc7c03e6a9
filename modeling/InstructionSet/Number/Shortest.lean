/-!
# Shortest decimals

The decimal text of a floating-point number has the fewest digits that read back
as the same number. The number is taken apart into a significand and a power of
two; every real between two bounds, the halves of the gaps to its neighbours,
reads back as it. For one, two, and up to seventeen digits the two decimals
around the number are tried against these bounds in exact arithmetic.
-/

set_option autoImplicit false

namespace InstructionSet.Number

/-- A positive number `digits · 10 ^ exponent`. -/
structure Decimal where
  digits : Nat
  exponent : Int
deriving DecidableEq, Repr

/-- A positive binary number `significand · 2 ^ exponent`; `atPowerOfTwo` says
that the neighbour below is only half as far as the one above. -/
structure Binary where
  significand : Nat
  exponent : Int
  atPowerOfTwo : Bool
deriving DecidableEq, Repr

/-- A number and its two bounds over one denominator. The bounds themselves read
back as the number exactly when its significand is even. -/
structure Range where
  value : Nat
  low : Nat
  high : Nat
  denominator : Nat
  closed : Bool

namespace Binary

/-- The parts of a finite positive double, from its bits. -/
def ofBits (bits : UInt64) : Binary :=
  let field := ((bits >>> 52) &&& 0x7ff).toNat
  let fraction := (bits &&& 0xfffffffffffff).toNat
  if field = 0 then ⟨fraction, -1074, false⟩
  else ⟨0x10000000000000 + fraction, (field : Int) - 1075, fraction = 0 && 1 < field⟩

/-- The range of the reals that read back as a binary number. Everything is
multiplied by four so that the half and quarter gaps are whole. -/
def range (binary : Binary) : Range :=
  let up := Nat.pow 2 binary.exponent.toNat
  let four := 4 * binary.significand
  { value := four * up
    low := (four - if binary.atPowerOfTwo then 1 else 2) * up
    high := (four + 2) * up
    denominator := 4 * Nat.pow 2 (-binary.exponent).toNat
    closed := binary.significand % 2 = 0 }

end Binary

namespace Range

/-- The exponent of the leading decimal digit of a fraction below one: the first
power of ten that lifts it to one or more. -/
def leadingBelowOne (numerator denominator : Nat) : Nat → Nat → Nat
  | 0, steps => steps
  | bound + 1, steps =>
      if denominator ≤ numerator * Nat.pow 10 steps then steps
      else leadingBelowOne numerator denominator bound (steps + 1)

/-- The exponent of the leading decimal digit. -/
def leading (range : Range) : Int :=
  if range.denominator ≤ range.value then
    ((Nat.toDigits 10 (range.value / range.denominator)).length : Int) - 1
  else -(leadingBelowOne range.value range.denominator 400 1 : Int)

/-- Whether a decimal reads back as the number. -/
def holds (range : Range) (decimal : Decimal) : Bool :=
  let scaled := decimal.digits * Nat.pow 10 decimal.exponent.toNat * range.denominator
  let unit := Nat.pow 10 (-decimal.exponent).toNat
  if range.closed then range.low * unit ≤ scaled && scaled ≤ range.high * unit
  else range.low * unit < scaled && scaled < range.high * unit

/-- The better of the decimals next to the number among those with their last
digit at `exponent`, if one of them reads back. The nearer one is better, and at
equal distance the one with an even last digit. -/
def nearest (range : Range) (exponent : Int) : Option Decimal :=
  let numerator := range.value * Nat.pow 10 (-exponent).toNat
  let denominator := range.denominator * Nat.pow 10 exponent.toNat
  let below := numerator / denominator
  let remainder := numerator % denominator
  let preferBelow :=
    2 * remainder < denominator || (2 * remainder = denominator && below % 2 = 0)
  let first := if preferBelow then below else below + 1
  let second := if preferBelow then below + 1 else below
  if range.holds ⟨first, exponent⟩ then some ⟨first, exponent⟩
  else if range.holds ⟨second, exponent⟩ then some ⟨second, exponent⟩
  else none

def search (range : Range) (leading : Int) : Nat → Nat → Decimal
  | 0, count => ⟨range.value / range.denominator, (count : Int) - count⟩
  | bound + 1, count =>
      match range.nearest (leading - count) with
      | some decimal => decimal
      | none => search range leading bound (count + 1)

end Range

def Decimal.reduceWith : Nat → Decimal → Decimal
  | 0, decimal => decimal
  | bound + 1, decimal =>
      if decimal.digits ≠ 0 ∧ decimal.digits % 10 = 0 then
        reduceWith bound ⟨decimal.digits / 10, decimal.exponent + 1⟩
      else decimal

/-- The shortest decimal that reads back as a positive binary number. -/
def shortest (binary : Binary) : Decimal :=
  let range := binary.range
  (range.search range.leading 17 0).reduceWith 20

/-- The text of digits with the point after `whole` of them, filled up with zeros
on either side. -/
def positional (digits : List Char) (whole : Int) : String :=
  if whole ≤ 0 then
    "0." ++ String.ofList (List.replicate (-whole).toNat '0' ++ digits)
  else
    let count := whole.toNat
    let before := digits.take count ++ List.replicate (count - digits.length) '0'
    let after := digits.drop count
    String.ofList before ++ "." ++ (if after.isEmpty then "0" else String.ofList after)

/-- The text of digits with the point after the first and a power of ten. -/
def scientific (digits : List Char) (power : Int) : String :=
  let exponentDigits := Nat.toDigits 10 power.natAbs
  let padded := if exponentDigits.length < 2 then '0' :: exponentDigits else exponentDigits
  String.ofList (digits.take 1) ++ (if digits.length ≤ 1 then "" else ".") ++
    String.ofList (digits.drop 1) ++ "e" ++ (if power < 0 then "-" else "+") ++
    String.ofList padded

/-- Numbers from a ten-thousandth up to sixteen digits are written with their
point, all others with a power of ten. -/
def Decimal.text (decimal : Decimal) : String :=
  let digits := Nat.toDigits 10 decimal.digits
  let power := decimal.exponent + digits.length - 1
  if -4 ≤ power ∧ power < 16 then positional digits (power + 1) else scientific digits power

def floatText (value : Float) : String :=
  if value.isNaN then "nan"
  else
    let bits := value.toBits
    let sign := if bits >>> 63 = 0 then "" else "-"
    let magnitude := bits &&& 0x7fffffffffffffff
    if magnitude = 0 then sign ++ "0.0"
    else if value.isInf then sign ++ "inf"
    else sign ++ (shortest (Binary.ofBits magnitude)).text

end InstructionSet.Number
