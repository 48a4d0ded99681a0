import Telemetry.Action
import Telemetry.Config.Basic
import Telemetry.Config.Compile
import Telemetry.Config.Document
import Telemetry.Config.Error
import Telemetry.Config.Form
import Telemetry.Decimal.Shortest
import Telemetry.Digest.Sha256
import Telemetry.Json.Fault
import Telemetry.Json.Mismatch
import Telemetry.Json.Reader
import Telemetry.Json.Skip
import Telemetry.Json.Value
import Telemetry.Keyed
import Telemetry.Matcher
import Telemetry.Pattern
import Telemetry.Pipeline.Basic
import Telemetry.Pipeline.Batch
import Telemetry.Pipeline.Context
import Telemetry.Pipeline.Event
import Telemetry.Pipeline.Handle
import Telemetry.Pipeline.Session
import Telemetry.Processor
import Telemetry.Proofs.Acceptance
import Telemetry.Proofs.Acceptance.Basic
import Telemetry.Proofs.Anchorable
import Telemetry.Proofs.Anchoring
import Telemetry.Proofs.Attribution
import Telemetry.Proofs.Batching
import Telemetry.Proofs.Building
import Telemetry.Proofs.Carrying
import Telemetry.Proofs.Compiling
import Telemetry.Proofs.Composing
import Telemetry.Proofs.Documents
import Telemetry.Proofs.Dropping
import Telemetry.Proofs.Failing
import Telemetry.Proofs.Independence
import Telemetry.Proofs.Json.Members
import Telemetry.Proofs.Json.Numbers
import Telemetry.Proofs.Json.Skipping
import Telemetry.Proofs.Json.Strings
import Telemetry.Proofs.Keyed
import Telemetry.Proofs.LiteralNames
import Telemetry.Proofs.PatternSets
import Telemetry.Proofs.Processing
import Telemetry.Proofs.Provenance
import Telemetry.Proofs.Records
import Telemetry.Proofs.Redaction
import Telemetry.Proofs.Footprints
import Telemetry.Proofs.Rendering
import Telemetry.Proofs.Regex.Covers
import Telemetry.Proofs.Regex.Explore
import Telemetry.Proofs.Regex.Joint
import Telemetry.Proofs.Regex.Literal
import Telemetry.Proofs.Regex.Normal
import Telemetry.Proofs.Regex.Reading
import Telemetry.Proofs.Regex.Reading.Bracket
import Telemetry.Proofs.Regex.Reading.Group
import Telemetry.Proofs.Regex.Run
import Telemetry.Proofs.Regex.Wrapping
import Telemetry.Proofs.Relabeling
import Telemetry.Proofs.Reloading
import Telemetry.Proofs.Reporting
import Telemetry.Proofs.Schema.Fitting
import Telemetry.Proofs.Schema.Members
import Telemetry.Proofs.Schema.Reading
import Telemetry.Proofs.Schema.RoundTrip
import Telemetry.Proofs.Schema.WrittenOut
import Telemetry.Proofs.Scoping
import Telemetry.Proofs.Selecting
import Telemetry.Proofs.Succession
import Telemetry.Proofs.Templating
import Telemetry.Proofs.Touches
import Telemetry.Record.Attributes
import Telemetry.Record.Basic
import Telemetry.Record.Timestamp
import Telemetry.Regex.Basic
import Telemetry.Regex.Bracket
import Telemetry.Regex.Escape
import Telemetry.Regex.Fault
import Telemetry.Regex.Group
import Telemetry.Regex.Joint
import Telemetry.Regex.Meaning
import Telemetry.Regex.Node
import Telemetry.Regex.Normal
import Telemetry.Regex.Parser
import Telemetry.Regex.Program
import Telemetry.Regex.Search
import Telemetry.Regex.Tree
import Telemetry.Regex.Weight
import Telemetry.Relabeler
import Telemetry.Schema.Decode
import Telemetry.Schema.Form
import Telemetry.Schema.Read
import Telemetry.Schema.Shape
import Telemetry.Template
import Telemetry.Text.Bytes
import Telemetry.Text.Quoted
import Telemetry.Unicode.Additions
import Telemetry.Unicode.Age
import Telemetry.Unicode.CaseFolding
import Telemetry.Unicode.CodePoints
import Telemetry.Unicode.Encoding
import Telemetry.Unicode.GeneralCategory
import Telemetry.Unicode.Property
import Telemetry.Unicode.PropertyList
import Telemetry.Unicode.Script
import Telemetry.Unicode.Segmentation
import Telemetry.Unicode.WhiteSpace
import Telemetry.Proofs.Regex.Groups
import Telemetry.Proofs.Regex.Matches
import Telemetry.Proofs.Templates
import Telemetry.Proofs.Captures
import Telemetry.Proofs.Extracting
import Telemetry.Proofs.Masking
import Telemetry.Proofs.Settling
import Telemetry.Proofs.Splicing
import Telemetry.Proofs.Regex.Collecting
import Telemetry.Proofs.Regex.Numbering
import Telemetry.Proofs.Regex.Nested
import Telemetry.Proofs.Nesting
