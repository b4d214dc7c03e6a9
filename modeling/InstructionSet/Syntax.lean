/-!
# Syntax of generated code

The patterns, expressions and bindings that parameters are taken apart with, and how
each is written. An application is written without parentheses, so only an argument
that is itself an application has them.
-/

set_option autoImplicit false

namespace InstructionSet

/-- A pattern binds one name: to the whole value, or to what a constructor was
applied to. -/
inductive Pattern where
  | whole (name : String)
  | constructed (constructor name : String)
deriving DecidableEq, Repr

namespace Pattern

def name : Pattern → String
  | .whole name => name
  | .constructed _ name => name

def text : Pattern → String
  | .whole name => name
  | .constructed constructor name => constructor ++ "(" ++ name ++ ")"

end Pattern

inductive Expression where
  | identifier (name : String)
  | apply (function argument : Expression)
deriving DecidableEq, Repr

def Expression.text : Expression → String
  | .identifier name => name
  | .apply function (.identifier name) => function.text ++ " " ++ name
  | .apply function argument => function.text ++ " (" ++ argument.text ++ ")"

/-- A name bound to a value for all that follows. -/
structure Binding where
  name : String
  value : Expression
deriving DecidableEq, Repr

def Binding.line (binding : Binding) : String :=
  "let " ++ binding.name ++ " = " ++ binding.value.text ++ " in"

end InstructionSet
