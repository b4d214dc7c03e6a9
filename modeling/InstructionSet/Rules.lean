import InstructionSet.Config.Basic
import InstructionSet.Syntax

/-!
# Destructuring rules

A typed parameter whose tag has a rule is matched against the rule's constructor;
for every other tag a temporary is converted by the tag's accessor. A missing rule
is no fault.
-/

set_option autoImplicit false

namespace InstructionSet

/-- The constructors of tags. -/
abbrev RuleTable := List (String × String)

namespace RuleTable

/-- The rules that are used unless others are given. -/
def standard : RuleTable := [
  ("int", "IntegerConstant"),
  ("bool", "BooleanConstant"),
  ("context", "Context"),
  ("float", "FloatConstant"),
  ("horz", "Horz"),
  ("vert", "Vert"),
  ("length", "LengthConstant"),
  ("math", "MathValue"),
  ("path_value", "PathValue"),
  ("prepath", "PrePathValue"),
  ("regexp", "RegExpConstant")]

/-- The pattern for a parameter of a tag, if the tag has a rule. -/
def cell? (rules : RuleTable) (tag name : String) : Option Pattern :=
  (rules.lookup tag).map fun constructor => .constructed constructor name

/-- How the pattern for a parameter of a tag is written, if the tag has a rule. -/
def pattern? (rules : RuleTable) (tag name : String) : Option String :=
  (rules.cell? tag name).map Pattern.text

/-- Each tag with a sample of its pattern, in the order of the tags. -/
def samples (rules : RuleTable) : List (String × String) :=
  (rules.mergeSort fun a b => !Text.precedes b.1 a.1).map fun (tag, constructor) =>
    (tag, (Pattern.constructed constructor "v").text)

end RuleTable

/-- The function that converts a value of a tag. -/
def Config.accessor (config : Config) (tag : String) : String := config.accessorStem ++ tag

end InstructionSet
