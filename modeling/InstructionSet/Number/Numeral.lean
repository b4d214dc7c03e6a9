import InstructionSet.Text.Blank
import InstructionSet.Text.Quoted

/-!
# Reading numerals

Whole numbers are read in a given base, with blanks around them, a sign, and the
base's own marker in front of the digits. Decimal fractions have a point or an
exponent; they are read to the nearest floating-point number. Digits and blanks of
every script count as those of ASCII.
-/

set_option autoImplicit false

namespace InstructionSet.Number

inductive NumeralFault where
  | notWhole (base : Nat) (text : List Char)
  | tooLong (digits : Nat)
  | tooLongToWrite
  | notFractional (text : List Char)
deriving DecidableEq, Repr

/-- A whole number that is read or written in base ten has at most this many digits. -/
def digitLimit : Nat := 4300

def limitMessage (account : String) : String :=
  "Exceeds the limit (" ++ toString digitLimit ++ " digits) for integer string conversion" ++
    account ++ "; use sys.set_int_max_str_digits() to increase the limit"

/-- The wording of a fault; a rejected text is shown up to its two hundredth
character. -/
def NumeralFault.message : NumeralFault → String
  | .notWhole base text =>
      "invalid literal for int() with base " ++ toString base ++ ": " ++
        String.ofList ((Text.quotedChars text).toList.take 200)
  | .tooLong digits => limitMessage (": value has " ++ toString digits ++ " digits")
  | .tooLongToWrite => limitMessage ""
  | .notFractional text => "could not convert string to float: " ++ Text.quotedChars text

def splitSign : List Char → Bool × List Char
  | '-' :: rest => (true, rest)
  | '+' :: rest => (false, rest)
  | chars => (false, chars)

/-- The text of a whole number in base ten, unless it has too many digits. -/
def wholeText? (number : Int) : Option String :=
  if number.natAbs < Nat.pow 10 digitLimit then some (toString number) else none

theorem wholeText?_of_lt {number : Int} {digits : Nat} (short : number.natAbs < Nat.pow 10 digits)
    (within : digits ≤ digitLimit) : wholeText? number = some (toString number) := by
  unfold wholeText?
  generalize digitLimit = limit at within ⊢
  exact if_pos (Nat.lt_of_lt_of_le short (Nat.pow_le_pow_right (by decide) within))

def isSpace (c : Char) : Bool := c == ' ' || ('\t' ≤ c && c ≤ '\r')

/-- The ASCII character that a character counts as: a digit or blank of another
script counts as one of ASCII. -/
def folded (c : Char) : Char :=
  if c.toNat < 128 then c
  else if Text.isBlank c then ' '
  else match Text.decimalDigit? c with
    | some digit => Char.ofNat (48 + digit)
    | none => c

/-- The characters of a numeral, without the blanks in front of it. -/
def unpadded (text : List Char) : List Char := (text.map folded).dropWhile isSpace

def digitIn? (base : Nat) (c : Char) : Option Nat := (Text.digitValue? c).filter (· < base)

def ofDigits (base : Nat) (digits : List Nat) : Nat :=
  digits.foldl (fun value digit => value * base + digit) 0

/-- Drops the marker that numerals of base two, eight and sixteen may carry. -/
def dropMarker (base : Nat) (chars : List Char) : List Char :=
  match chars with
  | '0' :: mark :: rest =>
      let expected := if base = 2 then ['b', 'B'] else if base = 8 then ['o', 'O']
        else if base = 16 then ['x', 'X'] else []
      if expected.contains mark then rest else chars
  | _ => chars

/-- Reads a whole number. A number of too many digits is rejected whatever stands
behind its digits. -/
def readWhole (base : Nat) (text : List Char) : Except NumeralFault Int :=
  let (negative, unsigned) := splitSign (unpadded text)
  let numeral := dropMarker base unsigned
  let isDigit (c : Char) : Bool := (digitIn? base c).isSome
  let digits := (numeral.takeWhile isDigit).filterMap (digitIn? base)
  if base = 10 ∧ digitLimit < digits.length then .error (.tooLong digits.length)
  else if digits.isEmpty || !(numeral.dropWhile isDigit).all isSpace then
    .error (.notWhole base text)
  else
    let value : Int := ofDigits base digits
    .ok (if negative then -value else value)

/-- The floating-point number nearest to `digits · 10 ^ exponent`. Powers far
outside the range of floating point are settled before any is computed. -/
def nearestFloat (digits : Nat) (exponent : Int) : Float :=
  let size : Int := (Nat.toDigits 10 digits).length
  if digits = 0 then 0.0
  else if 400 < size + exponent then 1.0 / 0.0
  else if size + exponent < -400 then 0.0
  else if exponent < 0 then Float.ofScientific digits true exponent.natAbs
  else Float.ofScientific digits false exponent.natAbs

def spanDigits : List Char → List Nat × List Char
  | [] => ([], [])
  | c :: rest =>
      match Text.decimalDigit? c with
      | none => ([], c :: rest)
      | some digit =>
          let (digits, remaining) := spanDigits rest
          (digit :: digits, remaining)

def readExponent? : List Char → Option Int
  | [] => some 0
  | mark :: rest =>
      if mark == 'e' || mark == 'E' then
        let (negative, unsigned) := splitSign rest
        match spanDigits unsigned with
        | ([], _) => none
        | (digits, []) =>
            let value : Int := ofDigits 10 digits
            some (if negative then -value else value)
        | _ => none
      else none

def readUnsigned? (chars : List Char) : Option Float :=
  let (whole, rest) := spanDigits chars
  let (fraction, rest) := match rest with
    | '.' :: rest => spanDigits rest
    | rest => ([], rest)
  if whole.isEmpty && fraction.isEmpty then none
  else (readExponent? rest).map fun exponent =>
    nearestFloat (ofDigits 10 (whole ++ fraction)) (exponent - fraction.length)

/-- Reads a floating-point number, or the name of an infinity or of the value
that is no number. -/
def readFloat (text : List Char) : Except NumeralFault Float :=
  let padded := unpadded text
  let (negative, unsigned) := splitSign (padded.reverse.dropWhile isSpace).reverse
  let name := String.ofList (unsigned.map Char.toLower)
  let magnitude? :=
    if name == "inf" || name == "infinity" then some (1.0 / 0.0)
    else if name == "nan" then some (0.0 / 0.0)
    else readUnsigned? unsigned
  match magnitude? with
  | none => .error (.notFractional text)
  | some magnitude => .ok (if negative then -magnitude else magnitude)

end InstructionSet.Number
