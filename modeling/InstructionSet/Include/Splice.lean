import InstructionSet.Files.Basic
import InstructionSet.Include.Directive
import InstructionSet.Text.Blocks
import InstructionSet.Trace

/-!
# Splicing files into a source

The lines of a source are copied, except that the lines of another file take the
place of each directive. Those are copied as they are, directives among them too. A
banner in front marks the result as generated, and every line of it ends with a line
feed.
-/

set_option autoImplicit false

namespace InstructionSet.Include

def banner : List String := [
  "(***********************************************************)",
  "(*                                                         *)",
  "(*                                                         *)",
  "(*                                                         *)",
  "(*                   AUTO-GENERATED FILE                   *)",
  "(*                      DO NOT MODIFY                      *)",
  "(*                                                         *)",
  "(*                                                         *)",
  "(*                                                         *)",
  "(***********************************************************)"]

def terminated (line : String) : String :=
  if line.toList.getLast? == some '\n' then line else line ++ "\n"

/-- The file that a directive names. An absolute path is taken as it is; of any other
path only the name counts, and the file stands in the directory of the source. -/
def resolve (base : Path) (target : String) : Path :=
  let path := Path.ofText target
  if path.isAbsolute then path else base.enter path.name

def failureOf (span : Span) : Failure → Failure
  | .file ⟨.notFound, path⟩ => .ofCause span (.inclusion path false)
  | .file ⟨problem, path⟩ =>
      .diagnostic
        ((Diagnostic.withHint problem.reason { cause := .inclusion path true, span := span }))
  | failure => failure

def textOf (files : Files) (path : Path) (span : Span) : Except Failure String := do
  let bytes ← (files.read path).mapError (failureOf span)
  (Text.fileText bytes).mapError fun fault => .source (.undecodable fault)

def splicedLines (text : String) : List String := (Text.linesWithEndings text).map terminated

def spliceLine (files : Files) (base : Path) (source : String) (number : Nat) (line : String) :
    Trace String :=
  match directive? line with
  | none => .item (terminated line) .done
  | some target =>
      let path := resolve base target
      .note ⟨.debug, .inclusion, shownFile source ++ ":" ++ toString number ++ ": including " ++
          path.text⟩
        (match textOf files path { file := source, line := number } with
          | .error failure => .failed failure
          | .ok text => Trace.withItems (splicedLines text) .done)

/-- What takes the place of lines that are numbered from `number`. -/
def spliceFrom (files : Files) (base : Path) (source : String) : Nat → List String → Trace String
  | _, [] => .done
  | number, line :: rest =>
      spliceLine files base source number line ++ spliceFrom files base source (number + 1) rest

/-- The banner in front of a result. -/
def withBanner (rest : Trace String) : Trace String :=
  Trace.withItems (banner.map (· ++ "\n")) rest

def ofLines (files : Files) (base : Path) (source : String) (lines : List String) :
    Trace String :=
  withBanner (spliceFrom files base source 1 lines)

def ofText (files : Files) (base : Path) (source text : String) : Trace String :=
  ofLines files base source (Text.linesWithEndings text)

/-- The result for a source in a file. The file is read while the result is made, so
the lines before a fault in its bytes are there. -/
def ofFile (files : Files) (path : Path) : Trace String :=
  .note ⟨.info, .inclusion, "preprocessing " ++ path.text⟩
    (match files.read path with
      | .error failure => .failed failure
      | .ok bytes =>
          let (lines, fault) := Text.fileLines bytes
          let ending : Trace String :=
            match fault with
            | none => .done
            | some fault => .failed (.source (.undecodable fault))
          ofLines files path.parent path.text lines ++ ending)

def targets (path : Path) (bytes : List UInt8) : List Path :=
  (Text.fileLines bytes).1.filterMap fun line => (directive? line).map (resolve path.parent)

end InstructionSet.Include
