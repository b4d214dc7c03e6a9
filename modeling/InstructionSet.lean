import InstructionSet.Text.Blank
import InstructionSet.Text.Blocks
import InstructionSet.Text.Lines
import InstructionSet.Text.Lowercase
import InstructionSet.Text.Pattern
import InstructionSet.Text.Quoted
import InstructionSet.Number.Shortest
import InstructionSet.Number.Numeral
import InstructionSet.Calendar
import InstructionSet.Base64
import InstructionSet.Yaml.Graph.Builder
import InstructionSet.Yaml.Value.Construction
import InstructionSet.Yaml.Documents
import InstructionSet.Trace
import InstructionSet.Record.Load
import InstructionSet.Record.Duplicates
import InstructionSet.Layout.Printer
import InstructionSet.Artifact.Pass
import InstructionSet.Config.Load
import InstructionSet.Files.Tree
import InstructionSet.Include.Splice
import InstructionSet.Command.Run
import InstructionSet.Main
import InstructionSet.Text.Encoding
import InstructionSet.Proofs.Rows
import InstructionSet.Proofs.ArtifactRows
import InstructionSet.Proofs.Admission
import InstructionSet.Proofs.Emission
import InstructionSet.Proofs.Evaluation
import InstructionSet.Proofs.Names
import InstructionSet.Proofs.Binding.Call
import InstructionSet.Proofs.Binding.Arm
import InstructionSet.Proofs.Binding.Case
import InstructionSet.Proofs.ParameterBinding
import InstructionSet.Proofs.Reading.Tokens
import InstructionSet.Proofs.Reading.Readers
import InstructionSet.Proofs.Reading.Nodes
import InstructionSet.Proofs.Reading.Chunks
import InstructionSet.Proofs.NodeAgreement
import InstructionSet.Proofs.Reading.Components
import InstructionSet.Proofs.Decoding
import InstructionSet.Proofs.OpcodeArguments
import InstructionSet.Proofs.Text.Patterns
import InstructionSet.Proofs.Include.Directives
import InstructionSet.Proofs.Include.Copies
import InstructionSet.Proofs.Text.Blocks
import InstructionSet.Proofs.Include.Sources
import InstructionSet.Proofs.Streams
import InstructionSet.Proofs.Places
import InstructionSet.Proofs.Command.Generations
import InstructionSet.Proofs.Sessions
import InstructionSet.Proofs.Yaml.Values
import InstructionSet.Proofs.Record.Schema
import InstructionSet.Proofs.Record.Rewording
import InstructionSet.Proofs.Yaml.Scanning
import InstructionSet.Proofs.Yaml.Construction
import InstructionSet.Proofs.Yaml.Parsing
import InstructionSet.Proofs.Record.Loading
import InstructionSet.Proofs.Command.Endings
import InstructionSet.Proofs.Dependence
import InstructionSet.Proofs.Policies
import InstructionSet.Proofs.Command.Verbosity
import InstructionSet.Proofs.Command.DiagnosticSettings
import InstructionSet.Proofs.Binding.Destructuring
import InstructionSet.Proofs.Binding.Freshness
import InstructionSet.Proofs.Record.Repetitions
import InstructionSet.Proofs.Obstacles
import InstructionSet.Proofs.Record.Faults
import InstructionSet.Proofs.Record.Positions
import InstructionSet.Proofs.Include.Substitution
import InstructionSet.Proofs.Include.Settled
import InstructionSet.Proofs.Include.Resolution
import InstructionSet.Proofs.Text.Marks
import InstructionSet.Proofs.Fragments
import InstructionSet.Proofs.Outlines
import InstructionSet.Proofs.Indentation
import InstructionSet.Proofs.Reading.StringLiterals
import InstructionSet.Proofs.PublicNames
import InstructionSet.Proofs.Configurations
import InstructionSet.Proofs.Diagnostics
