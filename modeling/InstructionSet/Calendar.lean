import InstructionSet.Text.Digit

/-!
# Dates and times

Days of the proleptic calendar from year 1 to 9999, times of day down to the
microsecond, and an optional offset from universal time of less than a day. Two
moments with an offset are the same when they denote the same instant; a moment
without an offset is never the same as one with.
-/

set_option autoImplicit false

namespace InstructionSet.Calendar

structure Date where
  year : Nat
  month : Nat
  day : Nat
deriving DecidableEq, Repr

/-- A date, a time of day, and the offset from universal time in seconds. -/
structure Moment where
  date : Date
  hour : Nat
  minute : Nat
  second : Nat
  microsecond : Nat
  offset : Option Int
deriving DecidableEq, Repr

inductive Fault where
  | year (value : Nat)
  | month
  | day
  | hour
  | minute
  | second
  | offset (seconds : Int)
deriving DecidableEq, Repr

def isLeapYear (year : Nat) : Bool := year % 4 = 0 && (year % 100 ≠ 0 || year % 400 = 0)

def daysInMonth (year month : Nat) : Nat :=
  if month = 2 then (if isLeapYear year then 29 else 28)
  else if month = 4 ∨ month = 6 ∨ month = 9 ∨ month = 11 then 30
  else 31

/-- A span of time in whole days and the seconds left, which are not negative. -/
def spanText (seconds : Int) : String :=
  let days := seconds / 86400
  let rest := seconds % 86400
  let parts := (if days = 0 then [] else ["days=" ++ toString days]) ++
    (if rest = 0 then [] else ["seconds=" ++ toString rest])
  "datetime.timedelta(" ++ (if parts.isEmpty then "0" else ", ".intercalate parts) ++ ")"

def Fault.message : Fault → String
  | .year value => "year " ++ toString value ++ " is out of range"
  | .month => "month must be in 1..12"
  | .day => "day is out of range for month"
  | .hour => "hour must be in 0..23"
  | .minute => "minute must be in 0..59"
  | .second => "second must be in 0..59"
  | .offset seconds =>
      "offset must be a timedelta strictly between -timedelta(hours=24) and " ++
        "timedelta(hours=24), not " ++ spanText seconds ++ "."

def Date.make (year month day : Nat) : Except Fault Date :=
  if year < 1 ∨ 9999 < year then .error (.year year)
  else if month < 1 ∨ 12 < month then .error .month
  else if day < 1 ∨ daysInMonth year month < day then .error .day
  else .ok ⟨year, month, day⟩

def checkOffset (seconds : Int) : Except Fault Int :=
  if seconds ≤ -86400 ∨ 86400 ≤ seconds then .error (.offset seconds) else .ok seconds

def Moment.make (year month day hour minute second microsecond : Nat) (offset : Option Int) :
    Except Fault Moment := do
  let date ← Date.make year month day
  if 23 < hour then throw .hour
  if 59 < minute then throw .minute
  if 59 < second then throw .second
  return ⟨date, hour, minute, second, microsecond, offset⟩

/-- The days of the years and months before a date, and its day. -/
def Date.dayNumber (date : Date) : Nat :=
  let years := date.year - 1
  let months := (List.range (date.month - 1)).map fun index => daysInMonth date.year (index + 1)
  years * 365 + years / 4 - years / 100 + years / 400 + months.foldl (· + ·) 0 + date.day

/-- Microseconds on one time line. -/
def Moment.position (moment : Moment) : Int :=
  let seconds : Int := moment.date.dayNumber * 86400 + moment.hour * 3600 + moment.minute * 60 +
    moment.second
  (seconds - moment.offset.getD 0) * 1000000 + moment.microsecond

def Moment.same (left right : Moment) : Bool :=
  left.offset.isSome == right.offset.isSome && left.position == right.position

def Date.text (date : Date) : String :=
  Text.paddedDecimal 4 date.year ++ "-" ++ Text.paddedDecimal 2 date.month ++ "-" ++
    Text.paddedDecimal 2 date.day

/-- Hours and minutes of an offset behind its sign, with seconds only if there
are any. -/
def offsetText (seconds : Int) : String :=
  let size := seconds.natAbs
  (if seconds < 0 then "-" else "+") ++ Text.paddedDecimal 2 (size / 3600) ++ ":" ++
    Text.paddedDecimal 2 (size / 60 % 60) ++
    (if size % 60 = 0 then "" else ":" ++ Text.paddedDecimal 2 (size % 60))

def Moment.text (moment : Moment) : String :=
  moment.date.text ++ " " ++ Text.paddedDecimal 2 moment.hour ++ ":" ++
    Text.paddedDecimal 2 moment.minute ++ ":" ++ Text.paddedDecimal 2 moment.second ++
    (if moment.microsecond = 0 then "" else "." ++ Text.paddedDecimal 6 moment.microsecond) ++
    (moment.offset.map offsetText).getD ""

def Date.literal (date : Date) : String :=
  "datetime.date(" ++
    ", ".intercalate [toString date.year, toString date.month, toString date.day] ++ ")"

def offsetLiteral (seconds : Int) : String :=
  if seconds = 0 then "datetime.timezone.utc"
  else "datetime.timezone(" ++ spanText seconds ++ ")"

/-- The constructor form of a moment; seconds and microseconds are left out when
they and all after them are zero. -/
def Moment.literal (moment : Moment) : String :=
  let date := moment.date
  let tail := if moment.microsecond ≠ 0 then [moment.second, moment.microsecond]
    else if moment.second ≠ 0 then [moment.second] else []
  let numbers := [date.year, date.month, date.day, moment.hour, moment.minute] ++ tail
  let zone := match moment.offset with
    | none => []
    | some seconds => ["tzinfo=" ++ offsetLiteral seconds]
  "datetime.datetime(" ++ ", ".intercalate (numbers.map toString ++ zone) ++ ")"

end InstructionSet.Calendar
