import InfoFlow.Assertion
import InfoFlow.Main
import InfoFlow.Schedule
import InfoFlow.Proofs.Evaluation.Violations
import InfoFlow.Proofs.Grammar.Acceptance
import InfoFlow.Proofs.Obligation.Checkpoint
import InfoFlow.Session
import InfoFlow.Proofs.Run.Pool
import InfoFlow.Proofs.Evaluation.Modes
import InfoFlow.Proofs.Run.Modes
import InfoFlow.Proofs.Evaluation.Unknown
import InfoFlow.Proofs.Grammar.Markers
import InfoFlow.Proofs.Obligation.Meaning
import InfoFlow.Proofs.Grammar.Meaning
import InfoFlow.Proofs.Run.Faults
import InfoFlow.Proofs.Grammar.Lexing
import InfoFlow.Proofs.Grammar.Rendering
import InfoFlow.Proofs.Evaluation.Kinds
import InfoFlow.Proofs.Run.Journal
import InfoFlow.Proofs.Evaluation.Agreement
import InfoFlow.Proofs.Command.Arguments
import InfoFlow.Proofs.Text.Terminal
import InfoFlow.Proofs.Command.Completion
import InfoFlow.Proofs.Command.Report
import InfoFlow.Proofs.Command.Lines
import InfoFlow.Proofs.Evaluation.Calls
import InfoFlow.Proofs.Evaluation.Targets
import InfoFlow.Proofs.Evaluation.Declaring
import InfoFlow.Proofs.Graph.Avoiding
import InfoFlow.Proofs.Grammar.Layout
import InfoFlow.Proofs.Grammar.Closing
import InfoFlow.Proofs.Grammar.Places
import InfoFlow.Proofs.Grammar.Lexemes
import InfoFlow.Proofs.Grammar.Cutting
import InfoFlow.Proofs.Grammar.Making
import InfoFlow.Proofs.Grammar.Refusals
import InfoFlow.Proofs.Grammar.Joining
import InfoFlow.Proofs.Grammar.Reporting
import InfoFlow.Proofs.Grammar.Placement
import InfoFlow.Proofs.Grammar.Naming
import InfoFlow.Proofs.Grammar.Variants
import InfoFlow.Proofs.Obligation.Growth
import InfoFlow.Proofs.Evaluation.DataFlow
import InfoFlow.Proofs.Evaluation.Strength
import InfoFlow.Proofs.Graph.Snapshot
import InfoFlow.Proofs.Json.Oversized
import InfoFlow.Proofs.Json.Plain
import InfoFlow.Proofs.Toml.Oversized
import InfoFlow.Proofs.Toml.Plain
import InfoFlow.Proofs.Loading
import InfoFlow.Proofs.Settings.Level
import InfoFlow.Proofs.Evaluation.Pairs
import InfoFlow.Proofs.Evaluation.Rounds
import InfoFlow.Proofs.Obligation.Visits
import InfoFlow.Proofs.Obligation.Trees
import InfoFlow.Proofs.Graph.Closure
import InfoFlow.Proofs.Node.Ordering
import InfoFlow.Proofs.Settings.Options
