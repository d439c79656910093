import RouteFlow.Clock
import RouteFlow.Command.Basic
import RouteFlow.Command.Execute
import RouteFlow.Command.Line
import RouteFlow.Command.Output
import RouteFlow.Decimal.Binary
import RouteFlow.Decimal.Reading
import RouteFlow.Decimal.Shortest
import RouteFlow.Document.Basic
import RouteFlow.Document.Declaration
import RouteFlow.Document.Format
import RouteFlow.Document.Step
import RouteFlow.Document.Validation
import RouteFlow.Entries
import RouteFlow.Files.Load
import RouteFlow.Files.Path
import RouteFlow.Files.Tree
import RouteFlow.Http.Date
import RouteFlow.Http.Exchange
import RouteFlow.Http.Method
import RouteFlow.Json.Basic
import RouteFlow.Json.Fault
import RouteFlow.Json.Printer
import RouteFlow.Json.Refusal
import RouteFlow.Json.Shape
import RouteFlow.Json.Source.Basic
import RouteFlow.Json.Source.Number
import RouteFlow.Json.Source.Place
import RouteFlow.Json.Source.Reading
import RouteFlow.Json.Source.Text
import RouteFlow.Main
import RouteFlow.OpenApi.Model
import RouteFlow.OpenApi.Projection
import RouteFlow.Pipeline.Basic
import RouteFlow.Pipeline.Registry
import RouteFlow.Proofs.Command.Directory
import RouteFlow.Proofs.Command.LocalRun
import RouteFlow.Proofs.Command.Output
import RouteFlow.Proofs.Command.Serving
import RouteFlow.Proofs.Document.Announcements
import RouteFlow.Proofs.Document.Declarations
import RouteFlow.Proofs.Document.Expressions
import RouteFlow.Proofs.Document.Reading
import RouteFlow.Proofs.Document.Validity
import RouteFlow.Proofs.Document.Violations
import RouteFlow.Proofs.Entries
import RouteFlow.Proofs.Fallible
import RouteFlow.Proofs.Files.Components
import RouteFlow.Proofs.Files.Containment
import RouteFlow.Proofs.Files.Loading
import RouteFlow.Proofs.Json.Lexemes
import RouteFlow.Proofs.Json.ReadBack
import RouteFlow.Proofs.Json.Records
import RouteFlow.Proofs.Json.Spacing
import RouteFlow.Proofs.Json.Spelling
import RouteFlow.Proofs.Json.WellFormed
import RouteFlow.Proofs.Last
import RouteFlow.Proofs.OpenApi.Inputs
import RouteFlow.Proofs.OpenApi.Paths
import RouteFlow.Proofs.OpenApi.Printing
import RouteFlow.Proofs.OpenApi.Projection
import RouteFlow.Proofs.OpenApi.Wire
import RouteFlow.Proofs.Pipeline.Binding
import RouteFlow.Proofs.Pipeline.FirstFault
import RouteFlow.Proofs.Pipeline.Refusals
import RouteFlow.Proofs.Pipeline.StandardTasks
import RouteFlow.Proofs.Retry.Backoff
import RouteFlow.Proofs.Retry.Decision
import RouteFlow.Proofs.Retry.Requested
import RouteFlow.Proofs.Run.Acceptance
import RouteFlow.Proofs.Run.Assignments
import RouteFlow.Proofs.Run.Attempts
import RouteFlow.Proofs.Run.Budget
import RouteFlow.Proofs.Run.Course
import RouteFlow.Proofs.Run.Deadline
import RouteFlow.Proofs.Run.Exchange
import RouteFlow.Proofs.Run.Faults
import RouteFlow.Proofs.Run.Naming
import RouteFlow.Proofs.Run.Notices
import RouteFlow.Proofs.Run.Origin
import RouteFlow.Proofs.Run.Results
import RouteFlow.Proofs.Run.Rules
import RouteFlow.Proofs.Run.Signals
import RouteFlow.Proofs.Run.Survival
import RouteFlow.Proofs.Run.Targets
import RouteFlow.Proofs.Run.Templates
import RouteFlow.Proofs.Run.Variables
import RouteFlow.Proofs.Run.Waits
import RouteFlow.Proofs.Run.Walk
import RouteFlow.Proofs.Service.Dispatch
import RouteFlow.Proofs.Service.Histories
import RouteFlow.Proofs.Service.Routes
import RouteFlow.Proofs.Service.Tables
import RouteFlow.Proofs.Template.Faults
import RouteFlow.Proofs.Template.NormalForm
import RouteFlow.Proofs.Template.Path
import RouteFlow.Proofs.Template.Substitution
import RouteFlow.Proofs.Text.Octets
import RouteFlow.Proofs.Text.Reading
import RouteFlow.Proofs.Url.Escape
import RouteFlow.Release.EnvFile.Basic
import RouteFlow.Release.EnvFile.Entry
import RouteFlow.Release.EnvFile.Value
import RouteFlow.Release.Version
import RouteFlow.Retry.Backoff
import RouteFlow.Retry.Decision
import RouteFlow.Retry.Policy
import RouteFlow.Retry.Requested
import RouteFlow.Run.Action
import RouteFlow.Run.Cause
import RouteFlow.Run.Engine
import RouteFlow.Run.Event
import RouteFlow.Run.Failure
import RouteFlow.Run.Request
import RouteFlow.Run.Task
import RouteFlow.Service.RouteTable
import RouteFlow.Service.Server
import RouteFlow.Service.Target
import RouteFlow.Template.Basic
import RouteFlow.Template.Evaluation
import RouteFlow.Template.Path
import RouteFlow.Text.Alphanumeric
import RouteFlow.Text.Blank
import RouteFlow.Text.CodeRange
import RouteFlow.Text.Composition
import RouteFlow.Text.Composition.Order
import RouteFlow.Text.Composition.Pairs
import RouteFlow.Text.Numeral
import RouteFlow.Text.Quoted
import RouteFlow.Text.Table
import RouteFlow.Text.Unseen
import RouteFlow.Text.Utf8
import RouteFlow.Url.Basic
import RouteFlow.Url.Domain.Basic
import RouteFlow.Url.Domain.Direction
import RouteFlow.Url.Domain.Excluded
import RouteFlow.Url.Domain.Joining
import RouteFlow.Url.Domain.Mapping
import RouteFlow.Url.Domain.Mark
import RouteFlow.Url.Escape
import RouteFlow.Url.Host
import RouteFlow.Url.Path
import RouteFlow.Url.Punycode
import RouteFlow.Yaml.Fault
import RouteFlow.Yaml.Glyph
import RouteFlow.Yaml.Node
import RouteFlow.Yaml.Scalar
import RouteFlow.Yaml.Token
import RouteFlow.Yaml.Value
