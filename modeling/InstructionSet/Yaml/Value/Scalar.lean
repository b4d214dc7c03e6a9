import InstructionSet.Text.Lowercase
import InstructionSet.Yaml.Fault
import InstructionSet.Yaml.Tag
import InstructionSet.Yaml.Value

/-!
# Values of scalars

Each standard tag of a scalar reads the scalar's text in its own way. Underscores
in numbers are left out, a number by sixties adds up its parts, and a timestamp
without a time of day is a date.
-/

set_option autoImplicit false

namespace InstructionSet.Yaml

namespace ScalarValue

def splitColons (chars : List Char) : List (List Char) :=
  (String.ofList chars).splitOn ":" |>.map String.toList

/-- Drops the underscores of a number and splits off its sign. -/
def signed (chars : List Char) : Except ScalarFault (Bool × List Char) :=
  match chars.filter (· != '_') with
  | [] => .error .emptyNumeral
  | '-' :: rest => .ok (true, rest)
  | '+' :: rest => .ok (false, rest)
  | chars => .ok (false, chars)

def whole (base : Nat) (chars : List Char) : Except ScalarFault Int :=
  (Number.readWhole base chars).mapError .numeral

/-- Reads an unsigned whole number: in base two or sixteen behind its marker, in
base eight behind a zero, by sixties between colons, else in base ten. -/
def unsignedInt (chars : List Char) : Except ScalarFault Int :=
  match chars with
  | [] => .error .emptyNumeral
  | ['0'] => .ok 0
  | '0' :: 'b' :: rest => whole 2 rest
  | '0' :: 'x' :: rest => whole 16 rest
  | '0' :: rest => whole 8 ('0' :: rest)
  | chars =>
      if chars.contains ':' then do
        let parts ← (splitColons chars).mapM (whole 10)
        return parts.foldl (fun total part => total * 60 + part) 0
      else whole 10 chars

def int (chars : List Char) : Except ScalarFault Value := do
  let (negative, unsigned) ← signed chars
  let value ← unsignedInt unsigned
  return .int (if negative then -value else value)

def fraction (chars : List Char) : Except ScalarFault Float :=
  (Number.readFloat chars).mapError .numeral

/-- The sum of parts, the last of which counts once, the one before it sixty times,
and so on, as long as what a part counts for is within the range of floating point. -/
def sumBySixties (parts : List Float) : Except ScalarFault Float := do
  let (total, _) ← parts.reverse.foldlM (fun (total, unit) part =>
    let factor := Float.ofNat unit
    if factor.isInf then .error .tooManySixties
    else .ok (total + part * factor, unit * 60)) ((0.0 : Float), 1)
  return total

def unsignedFloat (chars : List Char) : Except ScalarFault Float :=
  if chars == ".inf".toList then .ok (1.0 / 0.0)
  else if chars.contains ':' then do
    sumBySixties (← (splitColons chars).mapM fraction)
  else fraction chars

def float (node : Nat) (chars : List Char) : Except ScalarFault Value := do
  let (negative, unsigned) ← signed (Text.lowerCase chars)
  if unsigned == ".nan".toList then return .undefined none
  let value ← unsignedFloat unsigned
  return .ofFloat (some node) (if negative then -value else value)

def bool (value : String) : Except ScalarFault Value :=
  let word := String.ofList (Text.lowerCase value.toList)
  if ["yes", "true", "on"].contains word then .ok (.bool true)
  else if ["no", "false", "off"].contains word then .ok (.bool false)
  else .error (.noBoolean word)

def number (digits : List Char) : Nat := Number.ofDigits 10 (digits.map fun c => c.toNat - 48)

/-- The microseconds of a fraction of a second, as far as six digits go. -/
def microseconds (fraction : List Char) : Nat :=
  let digits := fraction.take 6
  number (digits ++ List.replicate (6 - digits.length) '0')

/-- The offset that a time zone denotes, in seconds. -/
def offset (text : Plain.TimestampText) : Except ScalarFault (Option Int) :=
  match text.zone with
  | none => .ok (if text.universal then some 0 else none)
  | some (sign, hours, minutes) =>
      let size : Int := number hours * 3600 + number minutes * 60
      ((Calendar.checkOffset (if sign == '-' then -size else size)).mapError .calendar).map some

def timestamp (chars : List Char) : Except ScalarFault Value := do
  match Plain.timestamp? true (Plain.dropLastFeed chars) with
  | none => throw .noTimestamp
  | some text =>
      let year := number text.year
      let month := number text.month
      let day := number text.day
      match text.time with
      | none => return .date (← (Calendar.Date.make year month day).mapError .calendar)
      | some (hour, minute, second) =>
          let offset ← offset text
          let moment ← (Calendar.Moment.make year month day (number hour) (number minute)
            (number second) (microseconds text.fraction) offset).mapError .calendar
          return .moment moment

end ScalarValue

end InstructionSet.Yaml
