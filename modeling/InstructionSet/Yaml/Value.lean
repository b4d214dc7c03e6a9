import InstructionSet.Calendar
import InstructionSet.Number.Numeral
import InstructionSet.Number.Shortest
import InstructionSet.Text.Quoted

/-!
# Values

What a document denotes. A collection that contains itself is written as a
reference to one of the document's loops; all other sharing is written out. A
mapping keeps its entries in the order in which their keys came first.

`Document.literal?` is the literal of a value: containers that are met again inside
themselves are shown as an ellipsis. A value has no literal when a whole number in
it is too long to be written.
-/

set_option autoImplicit false

namespace InstructionSet.Yaml

/-- An undefined number has a node of its own, unless it was written by its name. -/
inductive Value where
  | null
  | bool (value : Bool)
  | int (value : Int)
  | float (value : Float)
  | undefined (node : Option Nat)
  | text (value : String)
  | bytes (value : List UInt8)
  | date (value : Calendar.Date)
  | moment (value : Calendar.Moment)
  | list (items : List Value)
  | pair (first second : Value)
  | set (members : List Value)
  | mapping (entries : List (Value × Value))
  | loop (label : Nat)

/-- A value with the collections that contain themselves, by their labels. -/
structure Document where
  root : Value
  loops : List (Nat × Value) := []

namespace Value

def ofFloat (node : Option Nat) (result : Float) : Value :=
  if result.isNaN then .undefined node else .float result

def sameNumber (whole : Int) (fraction : Float) : Bool :=
  if fraction.isInf then false
  else if fraction == 0.0 then whole == 0
  else
    let bits := fraction.toBits
    let binary := Number.Binary.ofBits (bits &&& 0x7fffffffffffffff)
    let size : Int := (binary.significand * Nat.pow 2 binary.exponent.toNat : Nat)
    let signed := if bits >>> 63 = 0 then size else -size
    whole * (Nat.pow 2 (-binary.exponent).toNat : Nat) == signed

/-- A truth value counts as a number when keys are compared. -/
def wholeNumber? : Value → Option Int
  | .bool value => some (if value then 1 else 0)
  | .int value => some value
  | _ => none

/-- Whether two scalars are the same key. Numbers of different types are the same
key when they are equal; an undefined number is the same key only as itself. -/
def sameKey (left right : Value) : Bool :=
  match left.wholeNumber?, right.wholeNumber? with
  | some a, some b => a == b
  | some a, none => match right with
      | .float b => sameNumber a b
      | _ => false
  | none, some b => match left with
      | .float a => sameNumber b a
      | _ => false
  | none, none => match left, right with
      | .null, .null => true
      | .float a, .float b => a == b
      | .undefined a, .undefined b => a == b
      | .text a, .text b => a == b
      | .bytes a, .bytes b => a == b
      | .date a, .date b => a == b
      | .moment a, .moment b => a.same b
      | _, _ => false

/-- Puts an entry into a mapping: a key that is there already keeps its place and
gets the new value. -/
def insertEntry {α : Type} (key : Value) (value : α) :
    List (Value × α) → List (Value × α)
  | [] => [(key, value)]
  | (other, old) :: rest =>
      if other.sameKey key then (other, value) :: rest else (other, old) :: insertEntry key value rest

def isCollection : Value → Bool
  | .list _ | .set _ | .mapping _ | .pair _ _ | .loop _ => true
  | _ => false

/-- The name of a value's type. A loop has the type of its collection. -/
def typeName : Value → String
  | .null => "NoneType"
  | .bool _ => "bool"
  | .int _ => "int"
  | .float _ | .undefined _ => "float"
  | .text _ => "str"
  | .bytes _ => "bytes"
  | .date _ => "date"
  | .moment _ => "datetime"
  | .list _ => "list"
  | .pair _ _ => "tuple"
  | .set _ => "set"
  | .mapping _ => "dict"
  | .loop _ => "loop"

def ellipsis : Value → String
  | .set _ => "set(...)"
  | .mapping _ => "\x7b...\x7d"
  | _ => "[...]"

mutual

/-- The literal of a value; `loopLiteral` gives the literals of loops. -/
def literalWith (loopLiteral : Nat → Option String) : Value → Option String
  | .null => some "None"
  | .bool value => some (if value then "True" else "False")
  | .int value => Number.wholeText? value
  | .float value => some (Number.floatText value)
  | .undefined _ => some "nan"
  | .text value => some (Text.quoted value)
  | .bytes value => some (Text.quotedBytes value)
  | .date value => some value.literal
  | .moment value => some value.literal
  | .list items => do
      let literals ← literalsWith loopLiteral items
      return "[" ++ ", ".intercalate literals ++ "]"
  | .pair first second => do
      let first ← literalWith loopLiteral first
      let second ← literalWith loopLiteral second
      return "(" ++ first ++ ", " ++ second ++ ")"
  | .set [] => some "set()"
  | .set (first :: rest) => do
      let literals ← literalsWith loopLiteral (first :: rest)
      return "\x7b" ++ ", ".intercalate literals ++ "\x7d"
  | .mapping entries => do
      let literals ← entryLiteralsWith loopLiteral entries
      return "\x7b" ++ ", ".intercalate literals ++ "\x7d"
  | .loop label => loopLiteral label

def literalsWith (loopLiteral : Nat → Option String) : List Value → Option (List String)
  | [] => some []
  | value :: rest => do
      let literal ← literalWith loopLiteral value
      return literal :: (← literalsWith loopLiteral rest)

def entryLiteralsWith (loopLiteral : Nat → Option String) :
    List (Value × Value) → Option (List String)
  | [] => some []
  | (key, value) :: rest => do
      let keyLiteral ← literalWith loopLiteral key
      let literal ← literalWith loopLiteral value
      return (keyLiteral ++ ": " ++ literal) :: (← entryLiteralsWith loopLiteral rest)

end

/-- The text of a key in a message: a text as it is, a date or time in the usual
order, everything else as its literal. -/
def keyText? : Value → Option String
  | .text value => some value
  | .date value => some value.text
  | .moment value => some value.text
  | value => value.literalWith fun _ => some ""

end Value

namespace Document

/-- The value that a reference to a loop stands for; any other value stands for
itself. -/
def resolve (document : Document) : Value → Value
  | .loop label => (document.loops.lookup label).getD .null
  | value => value

/-- The literal of a loop inside the loops of `seen`. The bound is the number of
loops that may still be entered. -/
def loopLiteral (document : Document) : Nat → List Nat → Nat → Option String
  | 0, _, label => some (document.resolve (.loop label)).ellipsis
  | bound + 1, seen, label =>
      let value := document.resolve (.loop label)
      if seen.contains label then some value.ellipsis
      else value.literalWith (loopLiteral document bound (label :: seen))

def literal? (document : Document) (value : Value) : Option String :=
  value.literalWith (document.loopLiteral (document.loops.length + 1) [])

def typeName (document : Document) (value : Value) : String := (document.resolve value).typeName

end Document

end InstructionSet.Yaml
