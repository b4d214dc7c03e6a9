import InstructionSet.Yaml.Token.Character

/-!
# Tags of plain scalars

The tag of a plain scalar follows from its text: whole numbers in four bases and
by sixties, fractions, truth values, the null value, dates, and the two special
keys. Every other text is text.
-/

set_option autoImplicit false

namespace InstructionSet.Yaml

inductive StandardTag where
  | null
  | bool
  | int
  | float
  | binary
  | timestamp
  | omap
  | pairs
  | set
  | str
  | seq
  | map
  | merge
  | value
deriving DecidableEq, Repr

namespace StandardTag

/-- What all standard tags begin with. -/
def family : String := "tag:yaml.org,2002:"

def suffix : StandardTag → String
  | .null => "null"
  | .bool => "bool"
  | .int => "int"
  | .float => "float"
  | .binary => "binary"
  | .timestamp => "timestamp"
  | .omap => "omap"
  | .pairs => "pairs"
  | .set => "set"
  | .str => "str"
  | .seq => "seq"
  | .map => "map"
  | .merge => "merge"
  | .value => "value"

def name (tag : StandardTag) : String := family ++ tag.suffix

def all : List StandardTag :=
  [null, bool, int, float, binary, timestamp, omap, pairs, set, str, seq, map, merge, value]

def ofName? (name : String) : Option StandardTag := all.find? fun tag => tag.name == name

end StandardTag

namespace Plain

def truthWords : List String :=
  ["yes", "Yes", "YES", "no", "No", "NO", "true", "True", "TRUE", "false", "False", "FALSE",
    "on", "On", "ON", "off", "Off", "OFF"]

def nullWords : List String := ["", "~", "null", "Null", "NULL"]

def isDigitOrGap (c : Char) : Bool := isDigit c || c == '_'

def dropSign : List Char → List Char
  | c :: rest => if c == '+' || c == '-' then rest else c :: rest
  | [] => []

def isDigits : List Char → Bool
  | c :: rest => isDigit c && rest.all isDigitOrGap
  | [] => false

/-- Whether the text is one or more groups of a colon and a number below sixty. -/
def isSixties : List Char → Bool
  | [':', a] => isDigit a
  | ':' :: a :: b :: rest =>
      if b == ':' then isDigit a && isSixties (b :: rest)
      else '0' ≤ a && a ≤ '5' && isDigit b && (rest.isEmpty || isSixties rest)
  | _ => false

/-- Whether the text is an exponent, which has a sign. -/
def isExponent : List Char → Bool
  | mark :: sign :: rest =>
      (mark == 'e' || mark == 'E') && (sign == '+' || sign == '-') && !rest.isEmpty &&
        rest.all isDigit
  | _ => false

/-- Whether the text is digits and underscores and perhaps an exponent. -/
def isFraction (chars : List Char) : Bool :=
  let rest := chars.dropWhile isDigitOrGap
  rest.isEmpty || isExponent rest

/-- Whether the text is a number with a point. A number that begins with its point
has no sign, and is an infinity only with one optional. -/
def isFloat (chars : List Char) : Bool :=
  let unsigned := dropSign chars
  let whole := unsigned.takeWhile fun c => c != '.' && c != ':'
  let rest := unsigned.drop whole.length
  match rest with
  | '.' :: fraction =>
      if whole.isEmpty then
        fraction == "inf".toList || fraction == "Inf".toList || fraction == "INF".toList ||
          (chars.head? == some '.' &&
            (fraction == "nan".toList || fraction == "NaN".toList || fraction == "NAN".toList ||
              ((fraction.head?.map isDigit).getD false && isFraction fraction)))
      else isDigits whole && isFraction fraction
  | ':' :: _ =>
      let groups := rest.takeWhile (· != '.')
      match rest.drop groups.length with
      | '.' :: fraction => isDigits whole && isSixties groups && fraction.all isDigitOrGap
      | _ => false
  | _ => false

/-- Whether the text is not empty and of a class. -/
def isSome (inClass : Char → Bool) (chars : List Char) : Bool :=
  !chars.isEmpty && chars.all inClass

def isHexOrGap (c : Char) : Bool :=
  isDigitOrGap c || ('a' ≤ c && c ≤ 'f') || ('A' ≤ c && c ≤ 'F')

def isInt (chars : List Char) : Bool :=
  match dropSign chars with
  | ['0'] => true
  | '0' :: 'b' :: rest => isSome (fun c => c == '0' || c == '1' || c == '_') rest
  | '0' :: 'x' :: rest => isSome isHexOrGap rest
  | '0' :: rest => isSome (fun c => ('0' ≤ c && c ≤ '7') || c == '_') rest
  | unsigned =>
      let whole := unsigned.takeWhile (· != ':')
      let rest := unsigned.drop whole.length
      isDigits whole && (rest.isEmpty || isSixties rest)

/-! ## Timestamps -/

/-- Takes between `least` and `most` digits at the front, as many as there are. -/
def takeDigits? (least most : Nat) (chars : List Char) : Option (List Char × List Char) :=
  let digits := (chars.take most).takeWhile isDigit
  if digits.length < least then none else some (digits, chars.drop digits.length)

def takeChar? (expected : Char) : List Char → Option (List Char)
  | c :: rest => if c == expected then some rest else none
  | [] => none

structure TimestampText where
  year : List Char
  month : List Char
  day : List Char
  time : Option (List Char × List Char × List Char) := none
  fraction : List Char := []
  zone : Option (Char × List Char × List Char) := none
  universal : Bool := false
deriving Repr

def zone? (text : TimestampText) (chars : List Char) : Option TimestampText := do
  let chars := chars.dropWhile isSpaceOrTab
  match chars with
  | ['Z'] => return { text with universal := true }
  | sign :: rest =>
      if sign != '+' && sign != '-' then none
      let (hours, rest) ← takeDigits? 1 2 rest
      match rest with
      | [] => return { text with zone := some (sign, hours, []) }
      | _ =>
          let rest ← takeChar? ':' rest
          let (minutes, rest) ← takeDigits? 2 2 rest
          if rest.isEmpty then return { text with zone := some (sign, hours, minutes) } else none
  | [] => none

def time? (text : TimestampText) (chars : List Char) : Option TimestampText := do
  let (hour, rest) ← takeDigits? 1 2 chars
  let rest ← takeChar? ':' rest
  let (minute, rest) ← takeDigits? 2 2 rest
  let rest ← takeChar? ':' rest
  let (second, rest) ← takeDigits? 2 2 rest
  let text := { text with time := some (hour, minute, second) }
  let (text, rest) := match rest with
    | '.' :: rest =>
        ({ text with fraction := rest.takeWhile isDigit }, rest.dropWhile isDigit)
    | _ => (text, rest)
  if rest.isEmpty then return text else zone? text rest

/-- Reads the parts of a timestamp. `short` allows one digit for the month and the
day of a date that stands alone. -/
def timestamp? (short : Bool) (chars : List Char) : Option TimestampText := do
  let (year, rest) ← takeDigits? 4 4 chars
  let rest ← takeChar? '-' rest
  let (month, rest) ← takeDigits? 1 2 rest
  let rest ← takeChar? '-' rest
  let (day, rest) ← takeDigits? 1 2 rest
  let text : TimestampText := { year, month, day }
  match rest with
  | [] => if short || (month.length == 2 && day.length == 2) then return text else none
  | c :: after =>
      if c == 'T' || c == 't' then time? text after
      else if isSpaceOrTab c then time? text (after.dropWhile isSpaceOrTab)
      else none

def dropLastFeed (chars : List Char) : List Char :=
  if chars.getLast? == some '\n' then chars.dropLast else chars

/-- The tag of a plain scalar, or of another one that is to be read like it. One
line feed may stand behind the text; a line feed alone is text. -/
def tag (value : String) : StandardTag :=
  let chars := dropLastFeed value.toList
  let word := String.ofList chars
  if value == "\n" then .str
  else if truthWords.contains word then .bool
  else if isFloat chars then .float
  else if isInt chars then .int
  else if word == "<<" then .merge
  else if nullWords.contains word then .null
  else if (timestamp? false chars).isSome then .timestamp
  else if word == "=" then .value
  else .str

end Plain

end InstructionSet.Yaml
