import InstructionSet.Command.Run
import Std.Time.Format

/-!
# The command

Reads the files that a command line names, and those that a source includes, runs
the command on them, and writes what it says. What it writes are bytes of UTF-8; in
what it reports a surrogate is shown by its escape.
-/

set_option autoImplicit false

namespace InstructionSet.Command

def problemOf (error : IO.Error) : FileProblem :=
  match error with
  | .noFileOrDirectory _ _ _ => .notFound
  | .noSuchThing _ number reason | .inappropriateType _ number reason
  | .permissionDenied _ number reason | .invalidArgument _ number reason
  | .resourceExhausted _ number reason =>
      match [FileProblem.notFound, .isDirectory, .notDirectory, .nameTooLong,
          .permissionDenied].find? fun problem => problem.number == number.toNat with
      | some problem => problem
      | none => .other number.toNat reason
  | error => .other 5 (toString error)

/-- Files by their paths, as far as they have been looked at. -/
abbrev KnownFiles := List (Path × Except FileProblem (List UInt8))

def KnownFiles.files (known : KnownFiles) : Files where
  contents path := (known.lookup path).getD (.error .notFound)

def shown (text : String) : String := String.ofList (Text.plain text)

def escaped (text : String) : String :=
  String.join ((Text.codes text.toList).map fun code =>
    if Text.isSurrogate code then Text.codeEscape code else String.singleton (Char.ofNat code))

def look (path : Path) : IO (Path × Except FileProblem (List UInt8)) := do
  let answer ← (IO.FS.readBinFile (shown path.text)).toBaseIO
  return (path, (answer.mapError problemOf).map ByteArray.toList)

def lookAround (invocation : Invocation) : IO KnownFiles := do
  let paths := (invocation.config.toList ++ invocation.files).map Path.ofText
  let known ← (paths.filter Files.isNameable).mapM look
  if invocation.mode == some .splice then
    let targets := known.flatMap fun (path, answer) =>
      match answer with
      | .ok bytes => Include.targets path bytes
      | .error _ => []
    return known ++ (← (targets.filter Files.isNameable).mapM look)
  else return known

def timeOfDay : IO String := do
  let time ← Std.Time.PlainTime.now
  let parts := [time.hour.val, time.minute.val, time.second.val]
  return ":".intercalate (parts.map fun part => Text.paddedDecimal 2 part.toNat)

def perform (words : List String) : IO UInt32 := do
  let arguments := words.map fun word => Text.ofPlain word.toList
  let known ← match Invocation.ofArguments arguments with
    | .ok invocation => lookAround invocation
    | .error _ => pure []
  let waitsForInput := match Invocation.ofArguments arguments with
    | .ok invocation => invocation.files.isEmpty && match invocation.mode with
        | some (.artifact _) => true
        | _ => false
    | .error _ => false
  let input ← if waitsForInput then (← IO.getStdin).readBinToEnd else pure ByteArray.empty
  let pieces := Text.filePieces Yaml.Source.pieceLength input.toList
  let outcome := run (.bytes .utf8) (← timeOfDay) arguments known.files pieces
  IO.print (shown outcome.output)
  IO.eprint (escaped outcome.errors)
  match outcome.ending with
  | .exit code | .refused code => return code.toUInt32
  | .raised failure =>
      IO.eprintln (escaped failure.message)
      return 1

end InstructionSet.Command

def main (arguments : List String) : IO UInt32 := InstructionSet.Command.perform arguments
