import Workflow.Calendar.Basic
import Workflow.Calendar.Layout
import Workflow.Calendar.Parser
import Workflow.Capability
import Workflow.Chat.Retry
import Workflow.Chat.Wire
import Workflow.Code.Process
import Workflow.Command.Capability
import Workflow.Command.Execution
import Workflow.Command.Line
import Workflow.Command.Report
import Workflow.Command.Site
import Workflow.Definition
import Workflow.Event.Basic
import Workflow.Event.Bus
import Workflow.Event.Format
import Workflow.EventStream.Decoder
import Workflow.EventStream.Parser
import Workflow.Executor
import Workflow.Executor.Basic
import Workflow.Executor.Call
import Workflow.Executor.Chat
import Workflow.Executor.Control
import Workflow.Failure
import Workflow.Failure.Format
import Workflow.Gateway.Address
import Workflow.Gateway.Basic
import Workflow.Gateway.Service
import Workflow.Graph.Basic
import Workflow.Graph.Compile
import Workflow.Graph.Order
import Workflow.Json.Access
import Workflow.Json.Basic
import Workflow.Json.Document
import Workflow.Json.Fault
import Workflow.Json.Numeral
import Workflow.Json.Place
import Workflow.Json.Printer
import Workflow.Json.Quotation
import Workflow.Json.Reading
import Workflow.Json.Record
import Workflow.Json.Syntax
import Workflow.Main
import Workflow.Node
import Workflow.Node.Binding
import Workflow.Node.Format
import Workflow.Number.Basic
import Workflow.Number.Binary
import Workflow.Number.Decimal
import Workflow.Number.Single
import Workflow.Predicate.Basic
import Workflow.Predicate.Eval
import Workflow.Predicate.Token
import Workflow.Proofs.Graph.Represents
import Workflow.Proofs.Rehearsal.Stage
import Workflow.Proofs.Run.Cancelling
import Workflow.Proofs.Run.Confluence
import Workflow.Proofs.Run.Ordering
import Workflow.Proofs.Run.Protocol
import Workflow.Proofs.Run.Status
import Workflow.Regex.Basic
import Workflow.Regex.Machine
import Workflow.Regex.Names
import Workflow.Regex.Parser
import Workflow.Regex.Replace
import Workflow.Regex.Search
import Workflow.Regex.Space
import Workflow.Rehearsal.Format
import Workflow.Rehearsal.Listener
import Workflow.Rehearsal.Script
import Workflow.Rehearsal.Stage
import Workflow.Run.Basic
import Workflow.Run.Log
import Workflow.Run.Step
import Workflow.RunId
import Workflow.Settings
import Workflow.Settings.Format
import Workflow.Settings.Load
import Workflow.Settings.Text
import Workflow.Shell.Arithmetic
import Workflow.Shell.Basic
import Workflow.Shell.Builtin
import Workflow.Shell.Machine
import Workflow.Shell.Parser
import Workflow.Shell.Pattern
import Workflow.Shell.Program.Basic
import Workflow.Shell.Program.Filter
import Workflow.Shell.Program.Plain
import Workflow.Shell.Program.Writing
import Workflow.Shell.Run
import Workflow.Template
import Workflow.Text.Age
import Workflow.Text.Blank
import Workflow.Text.ByteRange
import Workflow.Text.Encoding
import Workflow.Text.Category
import Workflow.Text.CharSet
import Workflow.Text.CommonForm
import Workflow.Text.Composed
import Workflow.Text.Fold
import Workflow.Text.Letters
import Workflow.Text.Property
import Workflow.Text.Quoted
import Workflow.Text.Script
import Workflow.Text.Search
import Workflow.Text.Upper
import Workflow.Toml.Basic
import Workflow.Toml.Parser
import Workflow.Toml.Printer
import Workflow.Toml.Scalar
import Workflow.Tool.Basic
import Workflow.Tool.CurrentTime
import Workflow.Tool.JsonQuery
import Workflow.Tool.RegexReplace
import Workflow.Tool.Standard
import Workflow.Tool.Toolbox
import Workflow.Tool.WebFetch
import Workflow.Web.Coding
import Workflow.Web.Client
import Workflow.Web.Exchange
import Workflow.Web.Host
import Workflow.Web.Label
import Workflow.Web.Markup
import Workflow.Web.MediaType
import Workflow.Web.Punycode
import Workflow.Web.Request
import Workflow.Web.Url
import Workflow.Proofs.Graph.Listing
import Workflow.Proofs.Event.Admission
import Workflow.Proofs.Event.Delivery
import Workflow.Proofs.Event.Handing
import Workflow.Proofs.Rehearsal.Listener
import Workflow.Proofs.Predicate.Grammar
import Workflow.Proofs.Template.Mentions
import Workflow.Proofs.EventStream.Chunks
import Workflow.Proofs.EventStream.Writing
import Workflow.Proofs.Graph.Cycle
import Workflow.Proofs.Run.Declared
import Workflow.Proofs.Event.Written
import Workflow.Proofs.Definition.Accepted
import Workflow.Proofs.Graph.Topological
import Workflow.Proofs.Event.Leaving
import Workflow.Proofs.Predicate.Comparing
import Workflow.Proofs.Template.Structured
import Workflow.Proofs.EventStream.Silence
import Workflow.Proofs.Run.Streaming
import Workflow.Proofs.Chat.Retry
import Workflow.Proofs.Chat.Refusal
import Workflow.Proofs.Settings.Expansion
import Workflow.Proofs.Tool.JsonQuery
import Workflow.Proofs.Web.Markup
import Workflow.Proofs.Run.Logging
