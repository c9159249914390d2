import PlanCycle.Agent.Basic
import PlanCycle.Agent.Command
import PlanCycle.Agent.Conversation
import PlanCycle.Agent.Output
import PlanCycle.Agent.Process
import PlanCycle.Agent.Setup
import PlanCycle.Change.AffectedSpecs
import PlanCycle.Change.Artifact
import PlanCycle.Change.Documents
import PlanCycle.Change.Folder
import PlanCycle.Change.Phase
import PlanCycle.Change.Record
import PlanCycle.Change.Request
import PlanCycle.Change.Validation
import PlanCycle.CommandLine.Arguments
import PlanCycle.CommandLine.Display
import PlanCycle.CommandLine.Execution
import PlanCycle.CommandLine.Invocation
import PlanCycle.Cycle.Call
import PlanCycle.Cycle.Lifecycle
import PlanCycle.Cycle.Outcome
import PlanCycle.Cycle.Project
import PlanCycle.Cycle.Prompt
import PlanCycle.Cycle.Round
import PlanCycle.Cycle.Step
import PlanCycle.Cycle.World
import PlanCycle.Failure
import PlanCycle.Json.Basic
import PlanCycle.Json.Reading
import PlanCycle.Json.Writing
import PlanCycle.Main
import PlanCycle.Number.Binary64
import PlanCycle.Number.Decimal
import PlanCycle.Number.DecimalText
import PlanCycle.Number.Numeral
import PlanCycle.Number.Reading
import PlanCycle.Number.Scaling
import PlanCycle.Number.Shortest
import PlanCycle.Proofs.AgentCall
import PlanCycle.Proofs.Agreement
import PlanCycle.Proofs.Billing
import PlanCycle.Proofs.CheckedPlan
import PlanCycle.Proofs.Critique
import PlanCycle.Proofs.CritiqueFile
import PlanCycle.Proofs.CritiqueRound
import PlanCycle.Proofs.Dialogue
import PlanCycle.Proofs.Execution
import PlanCycle.Proofs.Guarantee
import PlanCycle.Proofs.History
import PlanCycle.Proofs.KeptFiles
import PlanCycle.Proofs.LastMarker
import PlanCycle.Proofs.Lines
import PlanCycle.Proofs.Markers
import PlanCycle.Proofs.Project
import PlanCycle.Proofs.Rerun
import PlanCycle.Proofs.Standing
import PlanCycle.Proofs.Surroundings
import PlanCycle.Proofs.UsageRecords
import PlanCycle.Proofs.Validity
import PlanCycle.Proofs.WrittenBody
import PlanCycle.Proofs.WrittenReview
import PlanCycle.Review.Basic
import PlanCycle.Review.Finding
import PlanCycle.Review.Keyword
import PlanCycle.Review.Marker
import PlanCycle.Review.Reading
import PlanCycle.Review.Rendering
import PlanCycle.Settings.Basic
import PlanCycle.Settings.Dotenv
import PlanCycle.Settings.Path
import PlanCycle.Settings.Reading
import PlanCycle.Store.Basic
import PlanCycle.Store.Operation
import PlanCycle.Store.Script
import PlanCycle.Store.Session
import PlanCycle.TaskGraph.Basic
import PlanCycle.TaskGraph.Checking
import PlanCycle.TaskGraph.Document
import PlanCycle.TaskGraph.Order
import PlanCycle.Text.Blank
import PlanCycle.Text.Caseless
import PlanCycle.Text.CodeRange
import PlanCycle.Text.Digit
import PlanCycle.Text.Fence
import PlanCycle.Text.Heading
import PlanCycle.Text.Line
import PlanCycle.Text.LowerCase
import PlanCycle.Text.Printable
import PlanCycle.Text.Quoted
import PlanCycle.Text.Resemblance
import PlanCycle.Text.ShellWords
import PlanCycle.Text.Surrogate
import PlanCycle.Text.Utf8
import PlanCycle.Text.Within
import PlanCycle.Text.WordCharacter
import PlanCycle.Usage.Ledger
import PlanCycle.Usage.Pricing
import PlanCycle.Yaml.Cursor
import PlanCycle.Yaml.Loading
import PlanCycle.Yaml.Moment
import PlanCycle.Yaml.Node
import PlanCycle.Yaml.Scalar
import PlanCycle.Yaml.Tag
import PlanCycle.Yaml.Token
import PlanCycle.Yaml.Value
import PlanCycle.Proofs.Dependencies
import PlanCycle.Proofs.WorkingOrder
import PlanCycle.Proofs.AcceptedTasks
import PlanCycle.Proofs.TaskFaults
import PlanCycle.Proofs.ValidatingCycle
import PlanCycle.Proofs.PhaseOutcome
import PlanCycle.Proofs.RoundRecords
import PlanCycle.Proofs.Interruption
import PlanCycle.Proofs.JsonText
import PlanCycle.Proofs.JsonReading
import PlanCycle.Proofs.EventStream
import PlanCycle.Proofs.Conduct
import PlanCycle.Proofs.StepLog
import PlanCycle.Proofs.Implementation
import PlanCycle.Proofs.Resumption
import PlanCycle.Proofs.Generation
import PlanCycle.Proofs.PhaseWalk
import PlanCycle.Proofs.JsonFaults
import PlanCycle.Proofs.ReadableOutput
import PlanCycle.Proofs.ReadBack
import PlanCycle.Proofs.OfferedVerdict
import PlanCycle.Proofs.CommittedSessions
import PlanCycle.Proofs.RejectedAnswers
import PlanCycle.Proofs.Effort
import PlanCycle.Proofs.SeparateChanges
import PlanCycle.Proofs.SpecNames
import PlanCycle.Proofs.CompletePlan
import PlanCycle.Proofs.ListedSessions
import PlanCycle.Proofs.Attempts
import PlanCycle.Proofs.SpecsLabel
import PlanCycle.Proofs.NamedSpecs
import PlanCycle.Proofs.FirstLabel
import PlanCycle.Proofs.DocumentPaths
import PlanCycle.Proofs.WrittenDocuments
import PlanCycle.Proofs.DecimalReading
import PlanCycle.Proofs.DecimalValue
import PlanCycle.Proofs.ExactCost
import PlanCycle.Proofs.UsageTotals
import PlanCycle.Proofs.CostOrder
import PlanCycle.Proofs.RecordedUsage
import PlanCycle.Proofs.PriceLookup
import PlanCycle.Proofs.MarkerSpelling
import PlanCycle.Proofs.IssueSection
import PlanCycle.Proofs.JoinedOutput
import PlanCycle.Proofs.FailedImplementation
