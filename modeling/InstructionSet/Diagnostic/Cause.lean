import InstructionSet.Diagnostic.Code
import InstructionSet.Diagnostic.Span

/-!
# Causes

What a diagnostic can be about. A cause has its message, its code and, where there
is advice to give, its hint. Causes with a free description stand for what a user
of the library reports in the same family.
-/

set_option autoImplicit false

namespace InstructionSet

/-- How a document violates the schema of records. Literals and names of types are
those of the values at fault. -/
inductive RecordFault where
  | notMapping (typeName : String)
  | notText (key typeName literal : String)
  | notFlag (key literal : String)
  | parametersNotList (typeName : String)
  | parameterNotSingle (literal : String)
  | parameterNotText (literal : String)
  | fieldsNotList
  | fieldNotSingle (literal : String)
  | fieldNotText (literal : String)
  | described (body : String)
deriving DecidableEq, Repr

namespace RecordFault

def body : RecordFault → String
  | .notMapping typeName => "record must be a mapping, got " ++ typeName
  | .notText key typeName literal =>
      "'" ++ key ++ "' must be text, got " ++ typeName ++ ": " ++ literal
  | .notFlag key literal => "flag '" ++ key ++ "' must be a boolean, got " ++ literal
  | .parametersNotList typeName => "'params' must be a list, got " ++ typeName
  | .parameterNotSingle literal =>
      "parameter must be an identifier or a single-entry mapping, got " ++ literal
  | .parameterNotText literal => "parameter entry must map text to text, got " ++ literal
  | .fieldsNotList => "'fields' must be a non-empty list of single-entry mappings"
  | .fieldNotSingle literal => "field must be a single-entry mapping, got " ++ literal
  | .fieldNotText literal => "field entry must map text to text, got " ++ literal
  | .described body => body

def code : RecordFault → Code
  | .notMapping _ | .notText _ _ _ | .described _ => .invalidRecord
  | .notFlag _ _ => .invalidFlag
  | .parametersNotList _ | .parameterNotSingle _ | .parameterNotText _ | .fieldNotText _ =>
      .invalidParameter
  | .fieldsNotList | .fieldNotSingle _ => .invalidField

def hint : RecordFault → String
  | .notText _ _ _ => "quote the value in the YAML document"
  | _ => ""

end RecordFault

inductive ConfigFault where
  | notMapping (typeName : String)
  | unknownKeys (keys valid : List String)
  | notString (key : String)
  | unreadable (reason : String)
  | malformed (account : String)
  | described (body : String)
deriving DecidableEq, Repr

namespace ConfigFault

def body : ConfigFault → String
  | .notMapping typeName => "configuration must be a mapping, got " ++ typeName
  | .unknownKeys keys _ => "unknown configuration key(s): " ++ ", ".intercalate keys
  | .notString key => "configuration key '" ++ key ++ "' must be a string"
  | .unreadable reason => "cannot read configuration: " ++ reason
  | .malformed account => "malformed configuration: " ++ account
  | .described body => body

def code : ConfigFault → Code
  | .unknownKeys _ _ => .unknownConfigKey
  | _ => .invalidConfig

def hint : ConfigFault → String
  | .unknownKeys _ valid => "valid keys: " ++ ", ".intercalate valid
  | _ => ""

end ConfigFault

inductive UsageFault where
  | noMode (choices : List String)
  | unknownMode (mode : String) (choices : List String)
  | sourceCount (count : Nat)
  | described (body : String)
deriving DecidableEq, Repr

namespace UsageFault

def body : UsageFault → String
  | .noMode _ => "no generation mode selected"
  | .unknownMode mode _ => "unknown generation mode '" ++ mode ++ "'"
  | .sourceCount count =>
      "--pp-include takes exactly one source file, got " ++ toString count
  | .described body => body

def code : UsageFault → Code
  | .noMode _ | .unknownMode _ _ => .noMode
  | _ => .badArguments

def hint : UsageFault → String
  | .noMode choices => "pass one of: " ++ ", ".intercalate choices
  | .unknownMode _ choices => "choose one of: " ++ ", ".intercalate choices
  | _ => ""

end UsageFault

inductive Cause where
  | general (body : String)
  | config (fault : ConfigFault)
  | record (fault : RecordFault)
  | malformedDocument (body : String)
  | missingInst
  | missingField (key inst : String)
  | duplicate (key value : String) (first : Span)
  | inclusion (path : String) (found : Bool)
  | usage (fault : UsageFault)
deriving DecidableEq, Repr

namespace Cause

def body : Cause → String
  | .general body | .malformedDocument body => body
  | .config fault => fault.body
  | .record fault => fault.body
  | .missingInst => "record has no 'inst'; cannot derive an identifier"
  | .missingField key inst =>
      if inst.isEmpty then "record is missing '" ++ key ++ "'"
      else "record '" ++ inst ++ "' is missing '" ++ key ++ "'"
  | .duplicate key value first =>
      "duplicate " ++ key ++ " '" ++ value ++ "' (first defined at " ++ first.text ++ ")"
  | .inclusion path _ => "cannot include '" ++ path ++ "'"
  | .usage fault => fault.body

/-- A file that is there but cannot be read has another code than one that is not. -/
def code : Cause → Code
  | .general _ => .internalError
  | .config fault => fault.code
  | .record fault => fault.code
  | .malformedDocument _ => .malformedDocument
  | .missingInst => .missingInst
  | .missingField _ _ => .missingField
  | .duplicate key _ _ => if key == "name" then .duplicateName else .duplicateInst
  | .inclusion _ found => if found then .includeUnreadable else .includeNotFound
  | .usage fault => fault.code

theorem isSome_text?_code (cause : Cause) : cause.code.text?.isSome = true := by
  refine Code.isSome_text?_of_lt (Nat.le_of_ble_eq_true ?_)
  cases cause with
  | general | malformedDocument | missingInst | missingField => rfl
  | config fault => cases fault <;> rfl
  | record fault => cases fault <;> rfl
  | duplicate key => by_cases isName : key == "name" <;> simp only [code, isName] <;> rfl
  | inclusion _ found => cases found <;> rfl
  | usage fault => cases fault <;> rfl

def hint : Cause → String
  | .config fault => fault.hint
  | .record fault => fault.hint
  | .usage fault => fault.hint
  | _ => ""

end Cause

end InstructionSet
