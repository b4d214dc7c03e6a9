import InstructionSet.Record.Basic
import InstructionSet.Trace

/-!
# Repeated identifiers

Records pass a check one by one. A record repeats a key when an earlier one has the
same text under it, and the text is not empty. What happens then is the policy's
choice; the first record with a text is the one that is cited.
-/

set_option autoImplicit false

namespace InstructionSet

inductive DuplicatePolicy where
  | allow
  | warn
  | reject
deriving DecidableEq, Repr

namespace DuplicatePolicy

def text : DuplicatePolicy → String
  | .allow => "allow"
  | .warn => "warn"
  | .reject => "reject"

def all : List DuplicatePolicy := [allow, warn, reject]

def ofText (text : String) : Except Failure DuplicatePolicy :=
  match all.find? fun policy => policy.text == text with
  | some policy => .ok policy
  | none => .error (.unknownPolicy text)

end DuplicatePolicy

namespace TextKey

/-- The name of a key where it is a property of the record. -/
def property : TextKey → String
  | .name => "name"
  | .inst => "inst"
  | .type => "type"
  | .code => "code"
  | .codeInterp => "code_interp"
  | .customPrinter => "custom_pp"

def ofProperty? (property : String) : Option TextKey :=
  all.find? fun key => key.property == property

end TextKey

namespace Record

/-- The text that a key is tracked by; empty texts are not tracked. -/
def tracked? (record : Record) (key : TextKey) : Option String :=
  (record.text? key).filter fun text => !text.isEmpty

def duplicateNote (key : TextKey) (record : Record) (value : String) (first : Span) : Note :=
  ⟨.warning, .schema, record.span.text ++ ": " ++
    (Cause.duplicate key.property value first).body⟩

/-- Checks records that come after those of `seen`, which has the span of the first
record for each text. -/
def checkDuplicatesFrom (key : TextKey) (policy : DuplicatePolicy) :
    List (String × Span) → Trace Record → Trace Record
  | _, .done => .done
  | _, .failed failure => .failed failure
  | seen, .note entry rest => .note entry (checkDuplicatesFrom key policy seen rest)
  | seen, .item record rest =>
      match policy, record.tracked? key with
      | .allow, _ | _, none => .item record (checkDuplicatesFrom key policy seen rest)
      | _, some value =>
          match seen.lookup value with
          | none =>
              .item record (checkDuplicatesFrom key policy ((value, record.span) :: seen) rest)
          | some first =>
              if policy == .reject then
                .failed (.ofCause record.span (.duplicate key.property value first))
              else
                .note (duplicateNote key record value first)
                  (.item record (checkDuplicatesFrom key policy seen rest))

def checkDuplicates (key : TextKey) (policy : DuplicatePolicy) (records : Trace Record) :
    Trace Record :=
  checkDuplicatesFrom key policy [] records

/-- Checks the records of a trace for several keys; each record passes the checks in
the order of the keys. -/
def checkAll (keys : List TextKey) (policy : DuplicatePolicy) (records : Trace Record) :
    Trace Record :=
  keys.foldl (fun records key => checkDuplicates key policy records) records

end Record

end InstructionSet
