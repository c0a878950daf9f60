import AgentGateway.Agent
import AgentGateway.AgentName
import AgentGateway.AgentSource
import AgentGateway.AgentSource.Catalogue
import AgentGateway.AgentSource.Library
import AgentGateway.CommandLine
import AgentGateway.CommandLine.Arguments
import AgentGateway.Console
import AgentGateway.Content
import AgentGateway.Content.Media
import AgentGateway.Directory
import AgentGateway.Entropy
import AgentGateway.Event
import AgentGateway.Event.Frame
import AgentGateway.Event.Stamp
import AgentGateway.Execution
import AgentGateway.Failure
import AgentGateway.Identifier
import AgentGateway.Identifier.Lengths
import AgentGateway.Item
import AgentGateway.Item.Conversion
import AgentGateway.ItemBuilder
import AgentGateway.ItemBuilder.Stamped
import AgentGateway.Json.Reader
import AgentGateway.Json.Writer
import AgentGateway.Keyed
import AgentGateway.Log.Logger
import AgentGateway.Log.Record
import AgentGateway.Main
import AgentGateway.Message
import AgentGateway.Number.Decimal
import AgentGateway.Number.Double
import AgentGateway.Number.Places
import AgentGateway.Number.Shortest
import AgentGateway.Part
import AgentGateway.Part.Conversion
import AgentGateway.Projection
import AgentGateway.Projection.Start
import AgentGateway.Request
import AgentGateway.Request.InputMessage
import AgentGateway.Request.Reference
import AgentGateway.Response
import AgentGateway.Run
import AgentGateway.Schema.Checked
import AgentGateway.Schema.Scalar
import AgentGateway.Schema.Shape
import AgentGateway.Sequence
import AgentGateway.Service
import AgentGateway.Service.Endpoint
import AgentGateway.Service.Pattern
import AgentGateway.Settings
import AgentGateway.Settings.Environment
import AgentGateway.Settings.File
import AgentGateway.Settings.Store
import AgentGateway.Signature
import AgentGateway.Text.Blank
import AgentGateway.Text.CaseContext
import AgentGateway.Text.Casing
import AgentGateway.Text.CellWidth
import AgentGateway.Text.CodePoint
import AgentGateway.Text.Columns
import AgentGateway.Text.Emoji
import AgentGateway.Text.Emoji.Names
import AgentGateway.Text.Encoding
import AgentGateway.Text.FieldLayout
import AgentGateway.Text.Letter
import AgentGateway.Text.Line
import AgentGateway.Text.Literal
import AgentGateway.Text.Literal.Expression
import AgentGateway.Text.Literal.Filling
import AgentGateway.Text.Literal.Grammar
import AgentGateway.Text.Literal.Quotation
import AgentGateway.Text.Literal.Token
import AgentGateway.Text.Markup
import AgentGateway.Text.Numeral
import AgentGateway.Text.Percent
import AgentGateway.Text.Placeholder
import AgentGateway.Text.Printable
import AgentGateway.Text.Quoted
import AgentGateway.Text.Ranges
import AgentGateway.Text.Reflection
import AgentGateway.Text.Reflection.Kind
import AgentGateway.Text.Reflection.Kinds
import AgentGateway.Text.Style
import AgentGateway.Text.Template
import AgentGateway.Text.Word
import AgentGateway.Text.Wrapping
import AgentGateway.Time.Civil
import AgentGateway.Time.Clock
import AgentGateway.Time.IsoText
import AgentGateway.Time.Moment
import AgentGateway.Tool
import AgentGateway.Update
import AgentGateway.Usage
import AgentGateway.Value
import AgentGateway.Value.Display
import AgentGateway.Value.Wire
import AgentGateway.Proofs.Projection.Numbering
import AgentGateway.Proofs.Identifier.Drawing
import AgentGateway.Proofs.Projection.Tale
import AgentGateway.Proofs.ItemBuilder.Support
import AgentGateway.Proofs.Projection.Telling
import AgentGateway.Proofs.Projection.Margin
import AgentGateway.Proofs.Projection.Acts
import AgentGateway.Proofs.Projection.Attended
import AgentGateway.Proofs.Projection.Lifecycle
import AgentGateway.Proofs.Projection.Materialization
import AgentGateway.Proofs.Execution.Agreement
import AgentGateway.Proofs.Projection.Commitment
import AgentGateway.Proofs.Projection.Indices
import AgentGateway.Proofs.Projection.Interruption
import AgentGateway.Proofs.Projection.Phases
import AgentGateway.Proofs.Projection.Protocol
import AgentGateway.Proofs.Projection.Likeness
import AgentGateway.Proofs.Projection.Chunking
import AgentGateway.Proofs.Run.Chunking
import AgentGateway.Proofs.Execution.Failing
import AgentGateway.Proofs.Projection.Echoes
import AgentGateway.Proofs.Text.Encoding
import AgentGateway.Proofs.Identifier.Partition
import AgentGateway.Proofs.Service.Streaming
import AgentGateway.Proofs.Response.Numbers
import AgentGateway.Proofs.Service.Answering
import AgentGateway.Proofs.Identifier.Stability
import AgentGateway.Proofs.Json.Line
import AgentGateway.Proofs.Event.Framing
import AgentGateway.Proofs.Item.Naming
import AgentGateway.Proofs.Projection.Naming
import AgentGateway.Proofs.Execution.Naming
import AgentGateway.Proofs.Execution.Conversation
import AgentGateway.Proofs.Usage.Addition
import AgentGateway.Proofs.Projection.Counting
import AgentGateway.Proofs.Projection.Capability
import AgentGateway.Proofs.Run.Boundary
import AgentGateway.Proofs.Run.Chapters
import AgentGateway.Proofs.Run.Gathering
import AgentGateway.Proofs.Run.Identity
import AgentGateway.Proofs.Request.Refusal
import AgentGateway.Proofs.Keyed
import AgentGateway.Proofs.Text.Replacement
import AgentGateway.Proofs.Value.Wire
import AgentGateway.Proofs.Tool.Strictness
import AgentGateway.Proofs.Execution.Tools
import AgentGateway.Proofs.Text.Spelling
import AgentGateway.Proofs.Json.Keys
import AgentGateway.Proofs.Schema.Reading
import AgentGateway.Proofs.Request.Reading
import AgentGateway.Proofs.Request.Tools
import AgentGateway.Proofs.Part.Passage
import AgentGateway.Proofs.Request.Attachments
import AgentGateway.Proofs.ItemBuilder.Calls
import AgentGateway.Proofs.ItemBuilder.SingleUse
import AgentGateway.Proofs.Schema.Return
import AgentGateway.Proofs.Part.Return
import AgentGateway.Proofs.Request.Return
import AgentGateway.Proofs.Identifier.Extraction
import AgentGateway.Proofs.AgentSource.Loading
import AgentGateway.Proofs.ItemBuilder.Workshop
import AgentGateway.Proofs.Projection.Release
import AgentGateway.Proofs.Text.Percent
import AgentGateway.Proofs.AgentName
