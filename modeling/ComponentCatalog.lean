import ComponentCatalog.Catalog.Basic
import ComponentCatalog.Catalog.Cache
import ComponentCatalog.Catalog.Loader
import ComponentCatalog.Catalog.Readers
import ComponentCatalog.CommandLine
import ComponentCatalog.Component.Basic
import ComponentCatalog.Component.Check
import ComponentCatalog.Component.Imports
import ComponentCatalog.Component.Interface
import ComponentCatalog.Component.Source
import ComponentCatalog.Component.Usage
import ComponentCatalog.FileTree
import ComponentCatalog.Http.App
import ComponentCatalog.Http.Basic
import ComponentCatalog.Http.Location
import ComponentCatalog.Http.PathTemplate
import ComponentCatalog.Http.Refusal
import ComponentCatalog.Http.Transport
import ComponentCatalog.Json.Basic
import ComponentCatalog.Json.Binary64
import ComponentCatalog.Json.Display
import ComponentCatalog.Json.Print
import ComponentCatalog.Json.Read
import ComponentCatalog.Json.Rounded
import ComponentCatalog.Log
import ComponentCatalog.Log.Fill
import ComponentCatalog.Main
import ComponentCatalog.Markup
import ComponentCatalog.Mcp.Message
import ComponentCatalog.Mcp.Params
import ComponentCatalog.Mcp.Server
import ComponentCatalog.Mcp.Shape
import ComponentCatalog.Mcp.Tools
import ComponentCatalog.Operation.Arguments
import ComponentCatalog.Operation.Basic
import ComponentCatalog.Operation.Call
import ComponentCatalog.OrderedMap
import ComponentCatalog.Path
import ComponentCatalog.Proofs.Catalog.Flight
import ComponentCatalog.Proofs.Catalog.Keeper
import ComponentCatalog.Proofs.Catalog.Loader
import ComponentCatalog.Proofs.Catalog.Records
import ComponentCatalog.Proofs.Catalog.Refresh
import ComponentCatalog.Proofs.Catalog.Segment
import ComponentCatalog.Proofs.Catalog.Steady
import ComponentCatalog.Proofs.Catalog.Views
import ComponentCatalog.Proofs.CommandLine
import ComponentCatalog.Proofs.Component.Comment
import ComponentCatalog.Proofs.Component.Document
import ComponentCatalog.Proofs.Component.First
import ComponentCatalog.Proofs.Component.Header
import ComponentCatalog.Proofs.Component.Imports
import ComponentCatalog.Proofs.Component.Interface
import ComponentCatalog.Proofs.Component.Member
import ComponentCatalog.Proofs.Component.Usage
import ComponentCatalog.Proofs.Disk
import ComponentCatalog.Proofs.FileTree
import ComponentCatalog.Proofs.Http.AllowedHost
import ComponentCatalog.Proofs.Http.Answer
import ComponentCatalog.Proofs.Http.Call
import ComponentCatalog.Proofs.Http.Exchange
import ComponentCatalog.Proofs.Http.Foreign
import ComponentCatalog.Proofs.Http.Gating
import ComponentCatalog.Proofs.Http.History
import ComponentCatalog.Proofs.Http.Isolation
import ComponentCatalog.Proofs.Http.Opening
import ComponentCatalog.Proofs.Http.Renaming
import ComponentCatalog.Proofs.Http.Setup
import ComponentCatalog.Proofs.Http.ToolCall
import ComponentCatalog.Proofs.Http.Transport
import ComponentCatalog.Proofs.Json.Limit
import ComponentCatalog.Proofs.Json.Print
import ComponentCatalog.Proofs.Json.Raw
import ComponentCatalog.Proofs.Json.Read
import ComponentCatalog.Proofs.Json.Text
import ComponentCatalog.Proofs.Lookup
import ComponentCatalog.Proofs.Mcp.Message
import ComponentCatalog.Proofs.Mcp.Server
import ComponentCatalog.Proofs.Mcp.Tools
import ComponentCatalog.Proofs.Operation.Reply
import ComponentCatalog.Proofs.OrderedMap
import ComponentCatalog.Proofs.Path
import ComponentCatalog.Proofs.Resource
import ComponentCatalog.Proofs.Scan
import ComponentCatalog.Proofs.Session.Closing
import ComponentCatalog.Proofs.Session.Gateway
import ComponentCatalog.Proofs.Session.Lifetime
import ComponentCatalog.Proofs.Session.Route
import ComponentCatalog.Proofs.Session.Segment
import ComponentCatalog.Proofs.Session.Shutdown
import ComponentCatalog.Proofs.Session.Start
import ComponentCatalog.Proofs.Session.Store
import ComponentCatalog.Proofs.Session.Traffic
import ComponentCatalog.Proofs.Settings
import ComponentCatalog.Proofs.Text.Blank
import ComponentCatalog.Proofs.Text.Encoding
import ComponentCatalog.Proofs.Text.Split
import ComponentCatalog.Proofs.Url
import ComponentCatalog.Query
import ComponentCatalog.Resource
import ComponentCatalog.Scan
import ComponentCatalog.Schema
import ComponentCatalog.Session.Gateway
import ComponentCatalog.Session.Route
import ComponentCatalog.Session.Store
import ComponentCatalog.Settings
import ComponentCatalog.Snapshot
import ComponentCatalog.Text.Blank
import ComponentCatalog.Text.Capital
import ComponentCatalog.Text.CodeMap
import ComponentCatalog.Text.CodeSet
import ComponentCatalog.Text.Composed
import ComponentCatalog.Text.Composed.Pair
import ComponentCatalog.Text.Composed.Rank
import ComponentCatalog.Text.Digit
import ComponentCatalog.Text.Direction
import ComponentCatalog.Text.Encoding
import ComponentCatalog.Text.Hex
import ComponentCatalog.Text.Joiner
import ComponentCatalog.Text.Lowercase
import ComponentCatalog.Text.Mark
import ComponentCatalog.Text.Newline
import ComponentCatalog.Text.Percent
import ComponentCatalog.Text.Punycode
import ComponentCatalog.Text.Quoted
import ComponentCatalog.Text.Raw
import ComponentCatalog.Text.Split
import ComponentCatalog.Text.Word
import ComponentCatalog.Tokens
import ComponentCatalog.Url
import ComponentCatalog.Url.Address
import ComponentCatalog.Url.Authority
import ComponentCatalog.Url.Domain
import ComponentCatalog.Url.Domain.Folding
import ComponentCatalog.Url.Domain.Refused
import ComponentCatalog.Url.Plain
import ComponentCatalog.Url.Scheme
import ComponentCatalog.Url.Segment
import ComponentCatalog.Proofs.Scan.Order
import ComponentCatalog.Proofs.Path.Relative
import ComponentCatalog.Proofs.Operation.Admission
import ComponentCatalog.Proofs.Catalog.Category
import ComponentCatalog.Proofs.Catalog.Naming
import ComponentCatalog.Proofs.Mcp.Sorting
import ComponentCatalog.Proofs.Http.Relay
import ComponentCatalog.Proofs.Settings.Resolution
import ComponentCatalog.Proofs.Settings.Groups
import ComponentCatalog.Proofs.Component.Source
import ComponentCatalog.Proofs.CommandLine.Listing
