import InstructionSet.Number.Numeral
import InstructionSet.Text.Digit

/-!
# Diagnostic codes

A code has a prefix and a number; its text joins them, with at least four digits.
A number that has too many digits to be written leaves the code without a text. Two
codes are the same when prefix and number are. A code also says what kind of fault it
stands for, in which phase it arises and how severe it is unless stated otherwise.
-/

set_option autoImplicit false

namespace InstructionSet

inductive Severity where
  | fatal
  | error
  | warning
  | info
deriving DecidableEq, Repr

def Severity.text : Severity → String
  | .fatal => "fatal"
  | .error => "error"
  | .warning => "warning"
  | .info => "info"

def Severity.all : List Severity := [.fatal, .error, .warning, .info]

def Severity.ofText? (text : String) : Option Severity :=
  Severity.all.find? fun severity => severity.text == text

inductive Phase where
  | config
  | decode
  | emit
  | inclusion
  | usage
  | internal
deriving DecidableEq, Repr

def Phase.text : Phase → String
  | .config => "config"
  | .decode => "decode"
  | .emit => "emit"
  | .inclusion => "include"
  | .usage => "usage"
  | .internal => "internal"

def Phase.ofText? (text : String) : Option Phase :=
  [Phase.config, .decode, .emit, .inclusion, .usage, .internal].find? fun phase =>
    phase.text == text

inductive Category where
  | invalidConfig
  | malformedDocument
  | invalidRecord
  | missingKey
  | duplicateIdentifier
  | fileAccess
  | invalidUsage
  | internalError
deriving DecidableEq, Repr

def Category.text : Category → String
  | .invalidConfig => "INVALID_CONFIG"
  | .malformedDocument => "MALFORMED_DOCUMENT"
  | .invalidRecord => "INVALID_RECORD"
  | .missingKey => "MISSING_KEY"
  | .duplicateIdentifier => "DUPLICATE_IDENTIFIER"
  | .fileAccess => "FILE_ACCESS"
  | .invalidUsage => "INVALID_USAGE"
  | .internalError => "INTERNAL_ERROR"

def Category.ofText? (text : String) : Option Category :=
  [Category.invalidConfig, .malformedDocument, .invalidRecord, .missingKey, .duplicateIdentifier,
    .fileAccess, .invalidUsage, .internalError].find? fun category => category.text == text

structure Code where
  family : String
  number : Int
  category : Category
  phase : Phase
  severity : Severity := .error
deriving DecidableEq, Repr

namespace Code

/-- A number of at least four characters, filled up with zeros behind its sign. -/
def numberText (number : Int) : String :=
  if number < 0 then "-" ++ Text.paddedDecimal 3 number.natAbs
  else Text.paddedDecimal 4 number.natAbs

/-- The family, a hyphen, and the number in four characters or more, however long it is. This is
what the text of a code would be without a limit on digits. -/
def spelling (code : Code) : String := code.family ++ "-" ++ numberText code.number

/-- The text of a code, unless its number has too many digits. -/
def text? (code : Code) : Option String :=
  (Number.wholeText? code.number).map fun _ => code.spelling

/-- Whether two codes are the same, whatever else they say. -/
def same (left right : Code) : Bool := left.family == right.family && left.number == right.number

/-- Whether a text is that of a code. A code without a text gives no answer. -/
def hasText? (code : Code) (text : String) : Option Bool := code.text?.map (· == text)

def literal? (code : Code) : Option String :=
  code.text?.map fun text => "ErrorCode(" ++ Text.quoted text ++ ", " ++ code.category.text ++ ")"

theorem isSome_text?_of_lt {code : Code} (short : code.number.natAbs < Nat.pow 10 4) :
    code.text?.isSome = true := by
  rw [text?, Number.wholeText?_of_lt short (by decide)]
  rfl

/-! ## The codes in use -/

def own (number : Int) (category : Category) (phase : Phase) (severity : Severity := .error) :
    Code :=
  { family := "VMG", number, category, phase, severity }

def invalidConfig : Code := own 100 .invalidConfig .config
def unknownConfigKey : Code := own 101 .invalidConfig .config
def malformedDocument : Code := own 1000 .malformedDocument .decode
def invalidRecord : Code := own 1001 .invalidRecord .decode
def invalidParameter : Code := own 1002 .invalidRecord .decode
def invalidField : Code := own 1003 .invalidRecord .decode
def invalidFlag : Code := own 1004 .invalidRecord .decode
def missingInst : Code := own 1100 .missingKey .emit
def missingField : Code := own 1101 .missingKey .emit
def duplicateInst : Code := own 1200 .duplicateIdentifier .emit
def duplicateName : Code := own 1201 .duplicateIdentifier .emit
def includeNotFound : Code := own 2000 .fileAccess .inclusion
def includeUnreadable : Code := own 2001 .fileAccess .inclusion
def noMode : Code := own 3000 .invalidUsage .usage .fatal
def badArguments : Code := own 3001 .invalidUsage .usage .fatal
def internalError : Code := own 9000 .internalError .internal .fatal

/-- The codes in use with their names, in the order of the names. -/
def named : List (String × Code) := [
  ("BAD_ARGUMENTS", badArguments),
  ("DUPLICATE_INST", duplicateInst),
  ("DUPLICATE_NAME", duplicateName),
  ("INCLUDE_NOT_FOUND", includeNotFound),
  ("INCLUDE_UNREADABLE", includeUnreadable),
  ("INTERNAL_ERROR", internalError),
  ("INVALID_CONFIG", invalidConfig),
  ("INVALID_FIELD", invalidField),
  ("INVALID_FLAG", invalidFlag),
  ("INVALID_PARAMETER", invalidParameter),
  ("INVALID_RECORD", invalidRecord),
  ("MALFORMED_DOCUMENT", malformedDocument),
  ("MISSING_FIELD", missingField),
  ("MISSING_INST", missingInst),
  ("NO_MODE", noMode),
  ("UNKNOWN_CONFIG_KEY", unknownConfigKey)]

end Code

end InstructionSet
