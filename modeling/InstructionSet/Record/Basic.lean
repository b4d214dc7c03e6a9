import InstructionSet.Failure

/-!
# Instruction records

A record defines one instruction. Its parameters are taken from the stack: the
declared order is the order in which they are pushed. A value parameter is
evaluated before the body sees it, a typed one is converted from a raw value by its
tag. Fields are what the opcode itself carries. The texts are copied into generated
code as they are.
-/

set_option autoImplicit false

namespace InstructionSet

inductive Parameter where
  | value (name : String)
  | typed (name tag : String)
deriving DecidableEq, Repr

def Parameter.name : Parameter → String
  | .value name => name
  | .typed name _ => name

structure Field where
  name : String
  type : String
deriving DecidableEq, Repr

inductive TextKey where
  | name
  | inst
  | type
  | code
  | codeInterp
  | customPrinter
deriving DecidableEq, Repr

namespace TextKey

def spelling : TextKey → String
  | .name => "name"
  | .inst => "inst"
  | .type => "type"
  | .code => "code"
  | .codeInterp => "code-interp"
  | .customPrinter => "custom-pp"

def all : List TextKey := [name, inst, type, code, codeInterp, customPrinter]

def ofSpelling? (spelling : String) : Option TextKey :=
  all.find? fun key => key.spelling == spelling

end TextKey

inductive Flag where
  | isPrimitive
  | noInterp
  | noIrCode
  | needsReducef
  | separated
  | suppressPrinter
deriving DecidableEq, Repr

namespace Flag

def spelling : Flag → String
  | .isPrimitive => "is-primitive"
  | .noInterp => "no-interp"
  | .noIrCode => "no-ircode"
  | .needsReducef => "needs-reducef"
  | .separated => "separated"
  | .suppressPrinter => "suppress-pp"

def all : List Flag := [isPrimitive, noInterp, noIrCode, needsReducef, separated, suppressPrinter]

end Flag

structure Record where
  inst : Option String := none
  name : Option String := none
  parameters : List Parameter := []
  fields : Option (List Field) := none
  type : Option String := none
  code : Option String := none
  codeInterp : Option String := none
  customPrinter : Option String := none
  isPrimitive : Bool := false
  noInterp : Bool := false
  noIrCode : Bool := false
  needsReducef : Bool := false
  separated : Bool := false
  suppressPrinter : Bool := false
  span : Span := {}
deriving DecidableEq, Repr

namespace Record

def text? (record : Record) : TextKey → Option String
  | .name => record.name
  | .inst => record.inst
  | .type => record.type
  | .code => record.code
  | .codeInterp => record.codeInterp
  | .customPrinter => record.customPrinter

def flag (record : Record) : Flag → Bool
  | .isPrimitive => record.isPrimitive
  | .noInterp => record.noInterp
  | .noIrCode => record.noIrCode
  | .needsReducef => record.needsReducef
  | .separated => record.separated
  | .suppressPrinter => record.suppressPrinter

def arity (record : Record) : Nat := record.parameters.length

/-- Whether two records say the same, wherever they stand. -/
def same (left right : Record) : Bool :=
  { left with span := {} } == { right with span := ({} : Span) }

/-- The identifier that every derived name starts from. It is missing when it is
empty. -/
def requireInst (record : Record) : Except Failure String :=
  match record.inst with
  | none => .error (.ofCause record.span .missingInst)
  | some inst => if inst.isEmpty then .error (.ofCause record.span .missingInst) else .ok inst

/-- The text under a key, which may be empty but not missing. -/
def require (record : Record) (key : TextKey) : Except Failure String :=
  match record.text? key with
  | some text => .ok text
  | none =>
      .error (.ofCause record.span (.missingField key.spelling (record.inst.getD "")))

/-- The text under a key as a document spells it. -/
def requireSpelled (record : Record) (spelling : String) : Except Failure String :=
  match TextKey.ofSpelling? spelling with
  | some key => record.require key
  | none => .error (.unknownKey spelling)

def interpKey (record : Record) : TextKey := if record.separated then .codeInterp else .code

def interpBody (record : Record) : Except Failure String := record.require record.interpKey

def opcodeName (record : Record) : Except Failure String := record.requireInst.map ("Op" ++ ·)

/-- The constructor of the syntax node. -/
def nodeName (record : Record) : Except Failure String := record.requireInst

end Record

end InstructionSet
