import InstructionSet.Artifact.Pass
import InstructionSet.Command.Invocation
import InstructionSet.Command.Usage
import InstructionSet.Config.Load
import InstructionSet.Include.Splice
import InstructionSet.Record.Load
import InstructionSet.Text.Encoding

/-!
# Runs

A run does what an invocation asks for: it is a trace of the texts that it writes.
They go to a channel one by one, and a text that the channel does not take ends the
run. How it ended is told by an exit code, except for failures that are none of its
own, which are passed on. Verbosity decides which notes are shown, and nothing else.
-/

set_option autoImplicit false

namespace InstructionSet.Command

open Text (Pieces)

/-! ## What is written -/

/-- The records of a file. It is opened when its first record is asked for. -/
def fileRecords (files : Files) (path : Path) : Trace Record :=
  match files.read path with
  | .error failure => .failed failure
  | .ok bytes =>
      .note ⟨.debug, .program, "reading records from " ++ path.text⟩
        (Record.loadPieces path.text (Text.filePieces Yaml.Source.pieceLength bytes) path.text)

def chainedRecords (files : Files) : List Path → Trace Record
  | [] => .done
  | path :: rest => fileRecords files path ++ chainedRecords files rest

def records (files : Files) (input : Pieces) (paths : List String) : Trace Record :=
  if paths.isEmpty then Record.loadPieces Record.standardInput input
  else chainedRecords files (paths.map Path.ofText)

def config (files : Files) : Option String → Trace Config
  | none => .item {} .done
  | some path => if path.isEmpty then .item {} .done else Config.load files (Path.ofText path)

/-- The lines that show the rules and what is done without one. -/
def ruleLines (config : Config) : List String :=
  (RuleTable.standard.samples ++ [("<other>", config.accessor "<tag>" ++ " v")]).map
    fun (tag, sample) => padded 12 tag ++ " " ++ sample ++ "\n"

def chunks (invocation : Invocation) (files : Files) (input : Pieces) : Trace String :=
  match invocation.mode with
  | none => .failed (.ofCause {} (.usage (.noMode Mode.suggested)))
  | some .splice =>
      match invocation.files with
      | [path] => Include.ofFile files (Path.ofText path)
      | paths => .failed (.ofCause {} (.usage (.sourceCount paths.length)))
  | some .rules =>
      (config files invocation.config).flatMap fun config =>
        Trace.withItems (ruleLines config) .done
  | some (.artifact artifact) =>
      (config files invocation.config).flatMap fun config =>
        match invocation.duplicates with
        | none => .failed .noPolicy
        | some duplicates =>
            Pass.emit { artifact := some artifact, config, duplicates }
              (records files input invocation.files)

/-! ## Where it is written -/

/-- A channel takes a text as a whole, or finds a fault in it and takes nothing of it. What a
device does, such as running full, is not told of. -/
structure Channel where
  fault? : String → Option Text.EncodingFault

namespace Channel

/-- A channel of bytes takes the texts that a charset has bytes for. -/
def bytes (charset : Text.Charset) : Channel where
  fault? text := Text.encodingFault? charset 0 (Text.codes text.toList)

/-- What comes of texts on a channel. Nothing more is asked for behind a text that is not taken. -/
def through (channel : Channel) : Trace String → Trace String
  | .done => .done
  | .failed failure => .failed failure
  | .note entry rest => .note entry (channel.through rest)
  | .item text rest =>
      match channel.fault? text with
      | some fault => .failed (.unwritable fault)
      | none => .item text (channel.through rest)

end Channel

/-! ## How it ended -/

inductive Ending where
  /-- The run is over, and its exit code tells how it went. -/
  | exit (code : Nat)
  /-- Nothing was run. -/
  | refused (code : Nat)
  /-- A failure was passed on. -/
  | raised (failure : Failure)
deriving DecidableEq, Repr

structure Outcome where
  ending : Ending
  output : String := ""
  errors : String := ""
deriving DecidableEq, Repr

/-- What is reported of a failure, and its exit code, unless it is passed on. -/
def report? : Failure → Option (String × Nat)
  | .diagnostic diagnostic =>
      match diagnostic.cause with
      | .usage _ => some (diagnostic.text, 2)
      | _ => some (diagnostic.text, 1)
  | .file fault => some (fault.path ++ ": " ++ fault.problem.reason, 2)
  | _ => none

def isUsage : Failure → Bool
  | .diagnostic diagnostic =>
      match diagnostic.cause with
      | .usage _ => true
      | _ => false
  | _ => false

def threshold (verbosity : Nat) : Level :=
  match verbosity with
  | 0 => .warning
  | 1 => .info
  | _ => .debug

/-- The line for a note, with five characters for its level. -/
def logLine (time : String) (entry : Note) : String :=
  time ++ " [" ++ String.ofList ((padded 5 entry.level.text).toList.take 5) ++ "] " ++
    entry.topic.text ++ ": " ++ entry.body ++ "\n"

/-- The lines for the notes that are shown. -/
def log (time : String) (verbosity : Nat) (entries : List Note) : String :=
  String.join
    ((entries.filter fun entry => (threshold verbosity).rank ≤ entry.level.rank).map
      (logLine time))

def outcome (time : String) (verbosity : Nat) (written : Trace String) : Outcome :=
  let output := String.join written.items
  match written.failure? with
  | none => { ending := .exit 0, output, errors := log time verbosity written.notes }
  | some failure =>
      match report? failure with
      | none => { ending := .raised failure, output, errors := log time verbosity written.notes }
      | some (account, code) =>
          { ending := .exit code, output
            errors := log time verbosity (written.notes ++ [⟨.error, .program, account⟩]) ++
              (if isUsage failure then Usage.summary else "") }

/-- The outcome where nothing is run. Every charset has the characters of what is written then,
which are those of ASCII, so no channel is asked. -/
def Refusal.outcome : Refusal → Outcome
  | .help => { ending := .refused 0, output := Usage.help }
  | .version => { ending := .refused 0, output := Usage.version }
  | .problem found => { ending := .refused 2, errors := Usage.complaint found.message }

/-- The outcome of a command line. Every line of the log begins with the time. -/
def run (channel : Channel) (time : String) (arguments : List String) (files : Files)
    (input : Pieces) : Outcome :=
  match Invocation.ofArguments arguments with
  | .error refusal => refusal.outcome
  | .ok invocation =>
      outcome time invocation.verbosity (channel.through (chunks invocation files input))

end InstructionSet.Command
