import InstructionSet.Diagnostic.Basic
import InstructionSet.Yaml.Fault

/-!
# Failures

What can end a run: a diagnostic, or a fault that is passed on as it is. Those are
faults in the text of a source, in the value of a scalar, in opening a file and in
writing a text, and requests for something that is not there.
-/

set_option autoImplicit false

namespace InstructionSet

inductive FileProblem where
  | notFound
  | isDirectory
  | notDirectory
  | nameTooLong
  | permissionDenied
  | other (number : Nat) (reason : String)
deriving DecidableEq, Repr

namespace FileProblem

def number : FileProblem → Nat
  | .notFound => 2
  | .isDirectory => 21
  | .notDirectory => 20
  | .nameTooLong => 36
  | .permissionDenied => 13
  | .other number _ => number

def reason : FileProblem → String
  | .notFound => "No such file or directory"
  | .isDirectory => "Is a directory"
  | .notDirectory => "Not a directory"
  | .nameTooLong => "File name too long"
  | .permissionDenied => "Permission denied"
  | .other _ reason => reason

end FileProblem

structure FileFault where
  problem : FileProblem
  path : String
deriving DecidableEq, Repr

def FileFault.message (fault : FileFault) : String :=
  "[Errno " ++ toString fault.problem.number ++ "] " ++ fault.problem.reason ++ ": " ++
    Text.quoted fault.path

inductive Failure where
  | diagnostic (diagnostic : Diagnostic)
  | source (fault : Yaml.SourceFault)
  | scalar (fault : Yaml.ScalarFault)
  | file (fault : FileFault)
  | nullInPath
  | unnameable (fault : Text.EncodingFault)
  /-- A text that is written has characters for which there are no bytes. -/
  | unwritable (fault : Text.EncodingFault)
  | unknownKey (key : String)
  | unknownPolicy (text : String)
  | noPolicy
  | unknownSeverity (text : String)
  | noLayout
deriving DecidableEq, Repr

namespace Failure

def message : Failure → String
  | .diagnostic report => report.text
  | .source fault => fault.message
  | .scalar fault => fault.message
  | .file fault => fault.message
  | .nullInPath => "embedded null byte"
  | .unnameable fault | .unwritable fault => fault.message
  | .unknownKey key => Text.quoted key
  | .unknownPolicy text => Text.quoted text ++ " is not a valid DuplicatePolicy"
  | .noPolicy => "[] is not a valid DuplicatePolicy"
  | .unknownSeverity text => Text.quoted text ++ " is not a valid ErrorSeverity"
  | .noLayout => ""

def ofCause (span : Span) (cause : Cause) : Failure := .diagnostic { cause, span }

end Failure

end InstructionSet
