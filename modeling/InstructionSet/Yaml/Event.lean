import InstructionSet.Yaml.Token

/-!
# Events

The structure of a text in the order in which it is met: the documents, the
collections and scalars in them, and the aliases. A scalar without a tag that is
not quoted is plain, and its tag follows from its text.
-/

set_option autoImplicit false

namespace InstructionSet.Yaml

structure Properties where
  anchor : Option String := none
  tag : Option String := none
deriving DecidableEq, Repr

inductive EventKind where
  | streamStart
  | streamEnd
  | documentStart
  | documentEnd
  | alias (name : String)
  | scalar (properties : Properties) (plain : Bool) (value : String)
  | sequenceStart (properties : Properties)
  | sequenceEnd
  | mappingStart (properties : Properties)
  | mappingEnd
deriving DecidableEq, Repr

structure Event where
  kind : EventKind
  mark : Mark
deriving DecidableEq, Repr

end InstructionSet.Yaml
