import Reindex.Binary64.Basic
import Reindex.Binary64.Decimal
import Reindex.Breakdown
import Reindex.Bulk.Backoff
import Reindex.Bulk.Channel
import Reindex.Bulk.Flight
import Reindex.Bulk.Ledger
import Reindex.Bulk.Submission
import Reindex.Calendar
import Reindex.Calls
import Reindex.Cluster.Basic
import Reindex.Cluster.Deployment
import Reindex.Cluster.Failure
import Reindex.Cluster.Memory
import Reindex.Cluster.Rest.BulkBody
import Reindex.Cluster.Rest.Client
import Reindex.Cluster.Rest.Generation
import Reindex.Cluster.Rest.Wire
import Reindex.Cluster.Script
import Reindex.CommandLine
import Reindex.Config.Basic
import Reindex.Config.Decode
import Reindex.Config.Environment
import Reindex.Config.Load
import Reindex.Config.Setting
import Reindex.Dict
import Reindex.Error
import Reindex.Files
import Reindex.Json.Basic
import Reindex.Json.Reader
import Reindex.Json.Scan
import Reindex.Json.Writer
import Reindex.Lifecycle
import Reindex.Main
import Reindex.Naming.IndexName
import Reindex.Naming.Policy
import Reindex.Naming.TimeWindow
import Reindex.Operation
import Reindex.Proofs.Bulk.Acknowledged
import Reindex.Proofs.Bulk.Answered
import Reindex.Proofs.Bulk.Batch
import Reindex.Proofs.Bulk.Booking
import Reindex.Proofs.Bulk.Conservation
import Reindex.Proofs.Bulk.Course
import Reindex.Proofs.Bulk.Cutting
import Reindex.Proofs.Bulk.Inline
import Reindex.Proofs.Bulk.Landing
import Reindex.Proofs.Bulk.Places
import Reindex.Proofs.Bulk.Prompt
import Reindex.Proofs.Bulk.Retry
import Reindex.Proofs.Bulk.Round
import Reindex.Proofs.Bulk.Schedule
import Reindex.Proofs.Bulk.Settlement
import Reindex.Proofs.Cluster.AliasBody
import Reindex.Proofs.Cluster.AliasUpdate
import Reindex.Proofs.Cluster.Aliases
import Reindex.Proofs.Cluster.Aligned
import Reindex.Proofs.Cluster.AnyOrder
import Reindex.Proofs.Cluster.BulkLines
import Reindex.Proofs.Cluster.Carried
import Reindex.Proofs.Cluster.Decoded
import Reindex.Proofs.Cluster.Delivery
import Reindex.Proofs.Cluster.DocumentUrl
import Reindex.Proofs.Cluster.Documents
import Reindex.Proofs.Cluster.Exchange
import Reindex.Proofs.Cluster.Frame
import Reindex.Proofs.Cluster.Reliable
import Reindex.Proofs.Cluster.Replay
import Reindex.Proofs.Cluster.Scene
import Reindex.Proofs.Cluster.Traced
import Reindex.Proofs.Cluster.Untraced
import Reindex.Proofs.Cluster.Watched
import Reindex.Proofs.Json.Extent
import Reindex.Proofs.Json.Grammar
import Reindex.Proofs.Json.Members
import Reindex.Proofs.Json.Numerals
import Reindex.Proofs.Json.Printed
import Reindex.Proofs.Json.Scanning
import Reindex.Proofs.Json.Spelling
import Reindex.Proofs.Json.Survival
import Reindex.Proofs.Lifecycle.Agreement
import Reindex.Proofs.Lifecycle.Cutover
import Reindex.Proofs.Lifecycle.Decisions
import Reindex.Proofs.Lifecycle.FailedStart
import Reindex.Proofs.Lifecycle.Gate
import Reindex.Proofs.Lifecycle.InMemory
import Reindex.Proofs.Lifecycle.Managed
import Reindex.Proofs.Lifecycle.Merging
import Reindex.Proofs.Lifecycle.Ready
import Reindex.Proofs.Lifecycle.RestCutover
import Reindex.Proofs.Lifecycle.Start
import Reindex.Proofs.Lifecycle.Switch
import Reindex.Proofs.Naming.FixedWidth
import Reindex.Proofs.Naming.Grammar
import Reindex.Proofs.Naming.Minting
import Reindex.Proofs.Naming.Quoting
import Reindex.Proofs.Naming.Siblings
import Reindex.Proofs.Record.Document
import Reindex.Proofs.Record.Lines
import Reindex.Proofs.Record.Shapes
import Reindex.Proofs.Record.Streaming
import Reindex.Proofs.Record.Values
import Reindex.Proofs.Record.Verbatim
import Reindex.Proofs.Record.Writing
import Reindex.Proofs.Report.Grouping
import Reindex.Proofs.Run.Breakdown
import Reindex.Proofs.Run.Broken
import Reindex.Proofs.Run.Feed
import Reindex.Proofs.Run.Publishing
import Reindex.Proofs.Run.Updating
import Reindex.Proofs.Session.Aliases
import Reindex.Proofs.Session.AnyOrder
import Reindex.Proofs.Session.Bracketing
import Reindex.Proofs.Session.Complete
import Reindex.Proofs.Session.Conservation
import Reindex.Proofs.Session.Course
import Reindex.Proofs.Session.History
import Reindex.Proofs.Session.Inline
import Reindex.Proofs.Session.Others
import Reindex.Proofs.Session.Prompt
import Reindex.Proofs.Session.Publishing
import Reindex.Proofs.Session.Regime
import Reindex.Proofs.Session.Reliable
import Reindex.Proofs.Session.Restoring
import Reindex.Proofs.Session.Settings
import Reindex.Proofs.Session.Window
import Reindex.Proofs.Url.Base
import Reindex.Proofs.Url.Path
import Reindex.Proofs.Url.Percent
import Reindex.Proofs.Writer.Acknowledged
import Reindex.Proofs.Writer.Bracketing
import Reindex.Proofs.Writer.Confined
import Reindex.Proofs.Writer.Course
import Reindex.Proofs.Writer.Regime
import Reindex.Record.Line
import Reindex.Record.Source
import Reindex.Report.Figures
import Reindex.Report.Progress
import Reindex.Report.Table
import Reindex.Run
import Reindex.Session
import Reindex.Text.Base64
import Reindex.Text.Blank
import Reindex.Text.CodeTable
import Reindex.Text.Composed
import Reindex.Text.Digits
import Reindex.Text.Direction
import Reindex.Text.Emoji
import Reindex.Text.Joining
import Reindex.Text.Mark
import Reindex.Text.Pieces
import Reindex.Text.Printable
import Reindex.Text.Quoted
import Reindex.Text.Uppercase
import Reindex.Text.Width
import Reindex.Toml.Document
import Reindex.Toml.Tree
import Reindex.Toml.Value
import Reindex.Tuning
import Reindex.Url.Basic
import Reindex.Url.Domain
import Reindex.Url.Domain.Label
import Reindex.Url.Domain.Mapping
import Reindex.Url.Domain.Punycode
import Reindex.Url.Host
import Reindex.Url.Percent
import Reindex.Writer
