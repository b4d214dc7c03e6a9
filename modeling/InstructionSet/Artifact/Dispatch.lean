import InstructionSet.Artifact.Basic

/-!
# Dispatch arms

One arm of the machine's step function for each opcode. All parameters are popped
by one pattern, the last declared first. A typed parameter with a rule is matched
against its constructor; the others are bound to temporaries, numbered in declared
order, and converted after the match.
-/

set_option autoImplicit false

namespace InstructionSet.Dispatch

/-- A parameter that is converted after the match from a temporary. -/
structure Conversion where
  name : String
  accessor : String
  temporary : String
deriving DecidableEq, Repr

/-- What a list of parameters is matched with, and what is converted afterwards. -/
structure Destructured where
  cells : List Pattern
  deferred : List Conversion
deriving DecidableEq, Repr

/-- The patterns as they are written, in declared order. -/
def Destructured.patterns (parts : Destructured) : List String := parts.cells.map Pattern.text

def temporary (index : Nat) : String := indexed "_tmp" index

/-- Destructures parameters of which `used` before them have got temporaries. -/
def destructureFrom (config : Config) (rules : RuleTable) :
    Nat → List Parameter → Destructured
  | _, [] => ⟨[], []⟩
  | used, .value name :: rest =>
      let tail := destructureFrom config rules used rest
      { tail with cells := .whole name :: tail.cells }
  | used, .typed name tag :: rest =>
      match rules.cell? tag name with
      | some cell =>
          let tail := destructureFrom config rules used rest
          { tail with cells := cell :: tail.cells }
      | none =>
          let tail := destructureFrom config rules (used + 1) rest
          { cells := .whole (temporary used) :: tail.cells
            deferred := ⟨name, config.accessor tag, temporary used⟩ :: tail.deferred }

def destructure (config : Config) (rules : RuleTable) (record : Record) : Destructured :=
  destructureFrom config rules 0 record.parameters

def Conversion.binding (conversion : Conversion) : Binding :=
  ⟨conversion.name, .apply (.identifier conversion.accessor) (.identifier conversion.temporary)⟩

def patternLine (config : Config) (patterns : List String) : String :=
  "| " ++ " :: ".intercalate patterns.reverse ++ " :: " ++ config.stack ++ " ->"

/-- The first line of an arm: the opcode with the names of its fields. -/
def headLine (opcode : String) (fields : Option (List Field)) : String :=
  "| " ++ opcode ++
    (match fields with
      | some fields => "(" ++ ", ".intercalate (fields.map Field.name) ++ ")"
      | none => "") ++ " ->"

/-- The lines that open the match, unless there is nothing to match. -/
def opening (config : Config) (patterns : List String) : Layout :=
  if patterns.isEmpty then .nothing
  else .line ("match " ++ config.stack ++ " with") ++ .line (patternLine config patterns)

/-- The line for a stack that does not match, unless there is nothing to match. -/
def mismatch (config : Config) (opcode : String) (patterns : List String) : Layout :=
  if patterns.isEmpty then .nothing
  else .line ("| _ -> " ++ config.bugReporter ++ " \x22invalid argument for " ++ opcode ++ "\x22")

def spliced (record : Record) (key : TextKey) : Layout :=
  .withValue (record.require key) .fragment

/-- The code of a record: a primitive's result is pushed and execution goes on,
any other code stands alone. -/
def body (config : Config) (record : Record) : Layout :=
  if record.isPrimitive then
    .block ("let " ++ config.result ++ " =") 1 (spliced record .code) ++
      .line ("in " ++ config.vmExec ++ " (" ++ config.result ++ " :: " ++ config.stack ++ ") " ++
        config.environment ++ " " ++ config.code ++ " " ++ config.dump)
  else .block "begin" 1 (spliced record .code) ++ .line "end"

def reduction (config : Config) : Expression :=
  .apply (.identifier config.vmReducef) (.identifier config.environment)

/-- The bindings of an arm: the conversions in declared order, then the reduction. -/
def bindings (config : Config) (rules : RuleTable) (record : Record) : List Binding :=
  (destructure config rules record).deferred.map Conversion.binding ++
    (record.reducer? (reduction config)).toList

def arm (config : Config) (rules : RuleTable) (record : Record) : Layout :=
  .withValue record.opcodeName fun opcode =>
    let parts := destructure config rules record
    .lineAt 1 (headLine opcode record.fields) ++ .indent 3 ++
      .block "begin" 1
        (opening config parts.patterns ++ .indent 2 ++
          .lines ((bindings config rules record).map Binding.line) ++
          body config record ++ .dedent 2 ++ .blank 1 ++ mismatch config opcode parts.patterns) ++
      .line "end" ++ .blank 1

end InstructionSet.Dispatch
