import InstructionSet.Record.Basic
import InstructionSet.Trace
import InstructionSet.Yaml.Value

/-!
# Records from documents

A document is a record when it is a mapping whose known keys have values of the
right shape; a null value counts as an absent key. The keys are checked in a fixed
order, so of several faults the first in that order is reported. Unknown keys are
noted and otherwise ignored.
-/

set_option autoImplicit false

namespace InstructionSet.Record

open Yaml (Value Document)

/-- The value under a text key; null and absent are one. -/
def lookup? (entries : List (Value × Value)) (key : String) : Option Value :=
  let found := entries.find? fun entry =>
    match entry.1 with
    | .text text => text == key
    | _ => false
  match found with
  | some (_, .null) | none => none
  | some (_, value) => some value

/-- Whether a key is one of the keys of a record. -/
def isKnownKey : Value → Bool
  | .text text =>
      TextKey.all.any (fun key => key.spelling == text) ||
        Flag.all.any (fun flag => flag.spelling == text) || text == "params" || text == "fields"
  | _ => false

/-- A whole number in a value is too long for the value to be shown. -/
def unshown : Failure := .scalar (.numeral .tooLongToWrite)

def sortedKeys (keys : List Value) : Except Failure (List String) :=
  match keys.mapM Value.keyText? with
  | none => .error unshown
  | some texts => .ok (Text.sort texts)

def unknownKeys (entries : List (Value × Value)) : Except Failure (List String) :=
  sortedKeys ((entries.map Prod.fst).filter fun key => !isKnownKey key)

section Decode

variable (document : Document) (span : Span)

def refuse {α : Type} (fault : String → RecordFault) (value : Value) : Except Failure α :=
  match document.literal? value with
  | none => .error unshown
  | some literal => .error (.ofCause span (.record (fault literal)))

/-- Refuses a value for a fault that does not show it. -/
def refuseUnseen {α : Type} (fault : RecordFault) : Except Failure α :=
  .error (.ofCause span (.record fault))

def entries? (value : Value) : Option (List (Value × Value)) :=
  match document.resolve value with
  | .mapping entries => some entries
  | _ => none

def items? (value : Value) : Option (List Value) :=
  match document.resolve value with
  | .list items => some items
  | _ => none

def decodeText (entries : List (Value × Value)) (key : TextKey) :
    Except Failure (Option String) :=
  match lookup? entries key.spelling with
  | none => .ok none
  | some (.text text) => .ok (some text)
  | some value => refuse document span (.notText key.spelling (document.typeName value)) value

def decodeFlag (entries : List (Value × Value)) (flag : Flag) : Except Failure Bool :=
  match lookup? entries flag.spelling with
  | none => .ok false
  | some (.bool value) => .ok value
  | some value => refuse document span (.notFlag flag.spelling) value

def singleEntry? (value : Value) : Option (Value × Value) :=
  match entries? document value with
  | some [entry] => some entry
  | _ => none

def decodeParameter (value : Value) : Except Failure Parameter :=
  match value with
  | .text name => .ok (.value name)
  | _ =>
      match singleEntry? document value with
      | none => refuse document span .parameterNotSingle value
      | some (.text name, .text tag) => .ok (.typed name tag)
      | some _ => refuse document span .parameterNotText value

def decodeParameters (entries : List (Value × Value)) : Except Failure (List Parameter) :=
  match lookup? entries "params" with
  | none => .ok []
  | some value =>
      match items? document value with
      | none => refuseUnseen span (.parametersNotList (document.typeName value))
      | some items => items.mapM (decodeParameter document span)

def decodeField (value : Value) : Except Failure Field :=
  match singleEntry? document value with
  | none => refuse document span .fieldNotSingle value
  | some (.text name, .text type) => .ok ⟨name, type⟩
  | some _ => refuse document span .fieldNotText value

def decodeFields (entries : List (Value × Value)) : Except Failure (Option (List Field)) :=
  match lookup? entries "fields" with
  | none => .ok none
  | some value =>
      match items? document value with
      | none | some [] => refuseUnseen span .fieldsNotList
      | some items => (items.mapM (decodeField document span)).map some

/-- The record of a mapping: first the texts are checked, then the flags, the
parameters and the fields. -/
def ofEntries (entries : List (Value × Value)) : Except Failure Record := do
  let name ← decodeText document span entries .name
  let inst ← decodeText document span entries .inst
  let type ← decodeText document span entries .type
  let code ← decodeText document span entries .code
  let codeInterp ← decodeText document span entries .codeInterp
  let customPrinter ← decodeText document span entries .customPrinter
  let isPrimitive ← decodeFlag document span entries .isPrimitive
  let noInterp ← decodeFlag document span entries .noInterp
  let noIrCode ← decodeFlag document span entries .noIrCode
  let needsReducef ← decodeFlag document span entries .needsReducef
  let separated ← decodeFlag document span entries .separated
  let suppressPrinter ← decodeFlag document span entries .suppressPrinter
  let parameters ← decodeParameters document span entries
  let fields ← decodeFields document span entries
  return { inst, name, parameters, fields, type, code, codeInterp, customPrinter, isPrimitive,
           noInterp, noIrCode, needsReducef, separated, suppressPrinter, span }

end Decode

/-- The record of a document, with what is noted about it. -/
def ofDocument (document : Document) (span : Span := {}) :
    Except Failure (Record × List Note) := do
  match entries? document document.root with
  | none => refuseUnseen span (.notMapping (document.typeName document.root))
  | some entries =>
      let record ← ofEntries document span entries
      let keys ← unknownKeys entries
      if keys.isEmpty then return (record, [])
      else
        return (record,
          [⟨.debug, .schema, span.text ++ ": ignoring unknown key(s) " ++ ", ".intercalate keys⟩])

def decodeThen (document : Document) (span : Span) (rest : Trace Record) : Trace Record :=
  match ofDocument document span with
  | .error failure => .failed failure
  | .ok (record, notes) => (rest |> Trace.item record).withNotes notes

end InstructionSet.Record
