import InstructionSet.Diagnostic.Cause

/-!
# Diagnostics

A diagnostic is a cause at a span. Its code and its hint are those of the cause and
its severity is that of the code, unless they are given. A code has a text where it is
reported; those of the causes do.
-/

set_option autoImplicit false

namespace InstructionSet

structure Message where
  code : Code
  shown : code.text?.isSome = true
  body : String
  span : Span := {}
  severity : Severity := code.severity
  hint : String := ""
deriving Repr

/-- Span, severity, body and code on one line, and the hint on the next. -/
def Message.text (message : Message) : String :=
  message.span.text ++ ": " ++ message.severity.text ++ ": " ++ message.body ++ " [" ++
    message.code.text?.get message.shown ++ "]" ++
    (if message.hint.isEmpty then "" else "\nhint: " ++ message.hint)

structure Diagnostic where
  cause : Cause
  span : Span := {}
  code : Code := cause.code
  shown : code.text?.isSome = true := by exact Cause.isSome_text?_code _
  severity : Severity := code.severity
  hint : String := cause.hint
deriving DecidableEq, Repr

namespace Diagnostic

def message (diagnostic : Diagnostic) : Message :=
  { code := diagnostic.code, shown := diagnostic.shown, body := diagnostic.cause.body
    span := diagnostic.span, severity := diagnostic.severity, hint := diagnostic.hint }

def text (diagnostic : Diagnostic) : String := diagnostic.message.text

def withHint (hint : String) (diagnostic : Diagnostic) : Diagnostic := { diagnostic with hint }

end Diagnostic

end InstructionSet
