import Bilingual.Advisory
import Bilingual.Cache
import Bilingual.Decimal
import Bilingual.Decimal.Shortest
import Bilingual.Delimiters
import Bilingual.Document
import Bilingual.Domain.Label
import Bilingual.Domain.Mapping
import Bilingual.Domain.Name
import Bilingual.Domain.Punycode
import Bilingual.FileTree
import Bilingual.Json
import Bilingual.Json.Reader
import Bilingual.Json.Writer
import Bilingual.Log
import Bilingual.Main
import Bilingual.Path
import Bilingual.Preferences
import Bilingual.Proofs.Cache.Entries
import Bilingual.Proofs.Cache.Freshness
import Bilingual.Proofs.Cache.Inclusion
import Bilingual.Proofs.Cache.Isolation
import Bilingual.Proofs.Cache.Places
import Bilingual.Proofs.Cache.Ranking
import Bilingual.Proofs.Cache.Recency
import Bilingual.Proofs.Cache.Run
import Bilingual.Proofs.Delimiters.Appending
import Bilingual.Proofs.Delimiters.Blocks
import Bilingual.Proofs.Delimiters.Distinct
import Bilingual.Proofs.Delimiters.Layout
import Bilingual.Proofs.Delimiters.Returns
import Bilingual.Proofs.Delimiters.Scan
import Bilingual.Proofs.FileTree.Growing
import Bilingual.Proofs.FileTree.Shape
import Bilingual.Proofs.FileTree.Writing
import Bilingual.Proofs.Path.Parents
import Bilingual.Proofs.Protocol.Rewriting
import Bilingual.Proofs.Protocol.RoundTrip
import Bilingual.Proofs.Reaction.Decision
import Bilingual.Proofs.Reaction.Isolation
import Bilingual.Proofs.Reaction.Run
import Bilingual.Proofs.Reaction.Viewport
import Bilingual.Proofs.Server.Bookkeeping
import Bilingual.Proofs.Server.Deed
import Bilingual.Proofs.Server.Files
import Bilingual.Proofs.Server.Freezing
import Bilingual.Proofs.Server.Handlers
import Bilingual.Proofs.Server.History
import Bilingual.Proofs.Server.Isolation
import Bilingual.Proofs.Server.Prompting
import Bilingual.Proofs.Server.Remembering
import Bilingual.Proofs.Server.Settling
import Bilingual.Proofs.Server.Tracking
import Bilingual.Proofs.Session.Bookkeeping
import Bilingual.Proofs.Session.Course
import Bilingual.Proofs.Session.Deletion
import Bilingual.Proofs.Session.Dismissal
import Bilingual.Proofs.Session.Freezing
import Bilingual.Proofs.Session.Invisibility
import Bilingual.Proofs.Session.Isolation
import Bilingual.Proofs.Session.Lifecycle
import Bilingual.Proofs.Session.Messages
import Bilingual.Proofs.Session.Prompting
import Bilingual.Proofs.Session.Retagging
import Bilingual.Proofs.Session.Run
import Bilingual.Proofs.Session.Step
import Bilingual.Proofs.Session.Turn
import Bilingual.Proofs.Settings.Discovery
import Bilingual.Proofs.Settings.Saving
import Bilingual.Proofs.Settings.Suffix
import Bilingual.Proofs.Settings.Wording
import Bilingual.Proofs.Text.Borders
import Bilingual.Proofs.Text.Columns
import Bilingual.Proofs.Text.Counter
import Bilingual.Proofs.Text.Endings
import Bilingual.Proofs.Text.Lines
import Bilingual.Proofs.Text.Occurrence
import Bilingual.Proofs.Text.Order
import Bilingual.Proofs.Text.Positions
import Bilingual.Proofs.Text.Returns
import Bilingual.Proofs.Text.Slices
import Bilingual.Proofs.Uri.Escapes
import Bilingual.Proofs.Uri.Reading
import Bilingual.Proofs.Viewport.Bytes
import Bilingual.Proofs.Viewport.Clamping
import Bilingual.Proofs.Viewport.Cursor
import Bilingual.Proofs.Viewport.Order
import Bilingual.Proofs.Viewport.Returns
import Bilingual.Proofs.Viewport.Scan
import Bilingual.Protocol.Capabilities
import Bilingual.Protocol.Documents
import Bilingual.Protocol.Envelope
import Bilingual.Protocol.Frame
import Bilingual.Protocol.Method
import Bilingual.Protocol.Notification
import Bilingual.Protocol.Outgoing
import Bilingual.Protocol.Requests
import Bilingual.Protocol.Rpc
import Bilingual.Protocol.Shape
import Bilingual.Protocol.Startup
import Bilingual.Reaction
import Bilingual.Region
import Bilingual.Server
import Bilingual.Service
import Bilingual.Settings
import Bilingual.Text.Digits
import Bilingual.Text.Lines
import Bilingual.Text.Pieces
import Bilingual.Text.Quotation
import Bilingual.Text.Search
import Bilingual.Text.Size
import Bilingual.Text.Utf8
import Bilingual.Toml.Blank
import Bilingual.Toml.Document
import Bilingual.Toml.Item
import Bilingual.Toml.Moment
import Bilingual.Toml.Number
import Bilingual.Toml.Quoted
import Bilingual.Toml.Table
import Bilingual.Toml.Value
import Bilingual.Unicode.Combining
import Bilingual.Unicode.Composition
import Bilingual.Unicode.Direction
import Bilingual.Unicode.Joining
import Bilingual.Unicode.Mark
import Bilingual.Unicode.Normal
import Bilingual.Unicode.Ranges
import Bilingual.Unicode.Standalone
import Bilingual.Uri.Address
import Bilingual.Uri.Basic
import Bilingual.Uri.Error
import Bilingual.Uri.Host
import Bilingual.Uri.LocalPath
import Bilingual.Uri.Parse
import Bilingual.Uri.Percent
import Bilingual.Uri.Segments
import Bilingual.Viewport
