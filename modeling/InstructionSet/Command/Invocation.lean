import InstructionSet.Command.Word
import InstructionSet.Record.Duplicates

/-!
# Invocations

What a command line asks for. Files may stand in one place only, before, between or
behind the settings; words in a second place are not recognized. Modes exclude each
other, but the same mode may be given twice. Short settings may be written together,
and only the last of them can have a value.
-/

set_option autoImplicit false

namespace InstructionSet.Command

structure Invocation where
  mode : Option Mode := none
  verbosity : Nat := 0
  files : List String := []
  config : Option String := none
  duplicates : Option DuplicatePolicy := some .warn
deriving DecidableEq, Repr

/-- Why nothing is run: help or the version is asked for, or the command line cannot
be read. -/
inductive Refusal where
  | help
  | version
  | problem (problem : LineProblem)
deriving DecidableEq, Repr

/-- Settings that are given with their values, and a last one whose value is still
to come. -/
structure Given where
  complete : List (Setting × Option String) := []
  wanting : Option Setting := none

namespace Given

def bundle (setting : Setting) : List Char → Except LineProblem Given
  | [] =>
      if setting.takesValue then .ok { wanting := some setting }
      else .ok { complete := [(setting, none)] }
  | letter :: rest =>
      if setting.takesValue then
        .ok { complete := [(setting, some (String.ofList (letter :: rest)))] }
      else match Setting.ofSpelling? ['-', letter] with
        | none => .error (.unexpectedValue setting (letter :: rest))
        | some next => do
            let given ← bundle next rest
            return { given with complete := (setting, none) :: given.complete }

def ofSpelled (spelled : SpelledSetting) : Except LineProblem Given :=
  match spelled.attached with
  | none => bundle spelled.setting []
  | some value =>
      if spelled.setting.takesValue then
        .ok { complete := [(spelled.setting, some (String.ofList value))] }
      else if spelled.spelling.length == 2 && !value.isEmpty then bundle spelled.setting value
      else .error (.unexpectedValue spelled.setting value)

end Given

namespace Invocation

/-- The policy of a value. Two hyphens are no value. -/
def policyOf (value : String) : Except Refusal (Option DuplicatePolicy) :=
  if value == "--" then .ok none
  else match DuplicatePolicy.all.find? fun policy => policy.text == value with
    | some policy => .ok (some policy)
    | none =>
        .error (.problem (.unknownChoice value (DuplicatePolicy.all.map DuplicatePolicy.text)))

def apply (invocation : Invocation) : Setting × Option String → Except Refusal Invocation
  | (.help, _) => .error .help
  | (.version, _) => .error .version
  | (.verbose, _) => .ok { invocation with verbosity := invocation.verbosity + 1 }
  | (.mode mode, _) =>
      match invocation.mode with
      | none => .ok { invocation with mode := some mode }
      | some other =>
          if other = mode then .ok invocation else .error (.problem (.conflict mode other))
  | (.config, value) => .ok { invocation with config := value.filter (· != "--") }
  | (.duplicates, value) => do
      return { invocation with duplicates := ← policyOf (value.getD "") }

end Invocation

/-- A command line that has been read in part. The files are unknown as long as no
word for them has been met, and complete as soon as a setting follows them. -/
structure Reading where
  invocation : Invocation := {}
  files : Option (List String) := none
  complete : Bool := false
  unrecognized : List String := []

namespace Reading

def addText (reading : Reading) (text : String) : Reading :=
  if reading.complete then { reading with unrecognized := reading.unrecognized ++ [text] }
  else { reading with files := some (reading.files.getD [] ++ [text]) }

def close (reading : Reading) : Reading := { reading with complete := reading.files.isSome }

def applyAll (reading : Reading) (settings : List (Setting × Option String)) :
    Except Refusal Reading := do
  return { reading.close with invocation := ← settings.foldlM Invocation.apply reading.invocation }

def consume : List Word → Reading → Except Refusal Reading
  | [], reading => .ok reading
  | .text text :: rest, reading => consume rest (reading.addText text)
  | .separator :: rest, reading => consume rest (reading.addText "--")
  | .unknown text :: rest, reading =>
      let reading := reading.close
      consume rest { reading with unrecognized := reading.unrecognized ++ [text] }
  | .setting spelled :: rest, reading =>
      match Given.ofSpelled spelled with
      | .error problem => .error (.problem problem)
      | .ok given =>
          match given.wanting, rest with
          | none, rest =>
              match reading.applyAll given.complete with
              | .error refusal => .error refusal
              | .ok reading => consume rest reading
          | some setting, .text value :: rest =>
              match reading.applyAll (given.complete ++ [(setting, some value)]) with
              | .error refusal => .error refusal
              | .ok reading => consume rest reading
          | some setting, _ => .error (.problem (.missingValue setting))

def finish (reading : Reading) : Except Refusal Invocation :=
  if reading.unrecognized.isEmpty then
    .ok { reading.invocation with files := (reading.files.getD []).erase "--" }
  else .error (.problem (.unrecognized reading.unrecognized))

end Reading

def Invocation.ofArguments (arguments : List String) : Except Refusal Invocation := do
  let words ← (Word.ofTexts arguments).mapError Refusal.problem
  (← Reading.consume words {}).finish

end InstructionSet.Command
