import CrossRate.Calendar.Date
import CrossRate.Calendar.Period
import CrossRate.Calendar.Window
import CrossRate.Calendar.Written
import CrossRate.Catalog.Basic
import CrossRate.Catalog.Payloads
import CrossRate.CommandLine.Arguments
import CrossRate.CommandLine.Run
import CrossRate.Currency
import CrossRate.Currency.Names
import CrossRate.Decimal.Arithmetic
import CrossRate.Decimal.Basic
import CrossRate.Decimal.Reader
import CrossRate.Desk
import CrossRate.Engine
import CrossRate.Feed.Basic
import CrossRate.Feed.Format
import CrossRate.Feed.ReferenceRates
import CrossRate.Feed.SdrTable
import CrossRate.FileTree
import CrossRate.Grid
import CrossRate.Json.Basic
import CrossRate.Json.Printer
import CrossRate.Json.Reader
import CrossRate.Loading.Counts
import CrossRate.Loading.Error
import CrossRate.Loading.Loader
import CrossRate.Loading.Resource
import CrossRate.Loading.Storage
import CrossRate.Loading.Subscriptions
import CrossRate.Location.Basic
import CrossRate.Location.Direction
import CrossRate.Location.DomainName
import CrossRate.Location.Host
import CrossRate.Location.Joining
import CrossRate.Location.NameImages
import CrossRate.Location.NameTable
import CrossRate.Location.Punycode
import CrossRate.Location.Url
import CrossRate.Main
import CrossRate.Markup.Attribute
import CrossRate.Markup.Reader
import CrossRate.Memo
import CrossRate.OrderedMap
import CrossRate.Provider.Chain
import CrossRate.Provider.Feed
import CrossRate.Provider.Gate
import CrossRate.Rate.Draft
import CrossRate.Rate.Error
import CrossRate.Rate.Query
import CrossRate.Rate.Record
import CrossRate.Runner.AtOnce
import CrossRate.Runner.Basic
import CrossRate.Runner.Providers
import CrossRate.Schedule
import CrossRate.Session.Agenda
import CrossRate.Session.Basic
import CrossRate.Session.Runner
import CrossRate.Settings.Engine
import CrossRate.Settings.Environment
import CrossRate.Settings.Fault
import CrossRate.Settings.Loader
import CrossRate.Settings.Provider
import CrossRate.Table.Basic
import CrossRate.Table.Direct
import CrossRate.Table.Dual
import CrossRate.Table.Resolution
import CrossRate.Text.Blank
import CrossRate.Text.Bytes
import CrossRate.Text.Case
import CrossRate.Text.CaseTable
import CrossRate.Text.CodeRange
import CrossRate.Text.Composition
import CrossRate.Text.CompositionTable
import CrossRate.Text.Counting
import CrossRate.Text.HiddenTable
import CrossRate.Text.MarkTable
import CrossRate.Text.Quoted
import CrossRate.Text.Search
import CrossRate.Proofs.Rate.Quote
import CrossRate.Proofs.Table.Bridging
import CrossRate.Proofs.Table.Direct
import CrossRate.Proofs.Calendar.Written
import CrossRate.Proofs.Feed.Listing
import CrossRate.Proofs.Feed.SdrCells
import CrossRate.Proofs.Feed.SdrGrid
import CrossRate.Proofs.Provider.History
import CrossRate.Proofs.Markup.Writing
import CrossRate.Proofs.Feed.Document
import CrossRate.Proofs.Loading.Pieces
import CrossRate.Proofs.Loading.Course
import CrossRate.Proofs.Loading.Storage
import CrossRate.Proofs.Loading.Directory
import CrossRate.Proofs.Loading.Replies
import CrossRate.Proofs.Loading.Layers
import CrossRate.Proofs.Loading.Run
import CrossRate.Proofs.Loading.AtHand
import CrossRate.Proofs.Loading.Hygiene
import CrossRate.Proofs.Loading.Readiness
import CrossRate.Proofs.Loading.Tally
import CrossRate.Proofs.Loading.Balance
import CrossRate.Proofs.Table.Provenance
import CrossRate.Proofs.Provider.Lifecycle
import CrossRate.Proofs.Provider.Freshness
import CrossRate.Proofs.Loading.Reset
import CrossRate.Proofs.Provider.Reversal
import CrossRate.Proofs.Provider.Succession
import CrossRate.Proofs.Runner.Lawful
import CrossRate.Proofs.Runner.Orderly
import CrossRate.Proofs.Runner.Web
import CrossRate.Proofs.Runner.Offline
import CrossRate.Proofs.Engine.Links
import CrossRate.Proofs.Engine.Assembly
import CrossRate.Proofs.Engine.Answers
import CrossRate.Proofs.Engine.Memory
import CrossRate.Proofs.Engine.Transparency
import CrossRate.Proofs.Session.Course
import CrossRate.Proofs.Session.Lawful
import CrossRate.Proofs.Loading.Enlisting
import CrossRate.Proofs.Session.Underway
import CrossRate.Proofs.Session.Settling
import CrossRate.Proofs.Session.Enrolling
import CrossRate.Proofs.Catalog.Backups
import CrossRate.Proofs.Engine.Feeds
import CrossRate.Proofs.Engine.Startup
import CrossRate.Proofs.Runner.Scheduling
import CrossRate.Proofs.Runner.Rejection
import CrossRate.Proofs.Calendar.Window
import CrossRate.Proofs.Table.Making
import CrossRate.Proofs.Rate.Factor
import CrossRate.Proofs.Table.Selection
import CrossRate.Proofs.Provider.Involution
import CrossRate.Proofs.Decimal.Value
import CrossRate.Proofs.Decimal.Rounding
import CrossRate.Proofs.Rate.Accuracy
import CrossRate.Proofs.Table.Accuracy
import CrossRate.Proofs.Provider.Locality
import CrossRate.Proofs.Table.Series
import CrossRate.Proofs.Table.Stability
import CrossRate.Proofs.Rate.Building
import CrossRate.Proofs.Calendar.Period
import CrossRate.Proofs.Engine.Retention
import CrossRate.Proofs.Loading.Recipients
import CrossRate.Proofs.Rate.Kinds
import CrossRate.Proofs.Table.Kinds
import CrossRate.Proofs.Feed.Clock
import CrossRate.Proofs.OrderedMap.Keys
import CrossRate.Proofs.Text.Case
import CrossRate.Proofs.Text.Words
import CrossRate.Proofs.Currency.Names
import CrossRate.Proofs.Json.Writing
import CrossRate.Proofs.Rate.Query
import CrossRate.Proofs.Session.Openings
import CrossRate.Proofs.Session.Passing
import CrossRate.Proofs.Session.Marking
import CrossRate.Proofs.Session.Running
import CrossRate.Proofs.Session.Refreshing
