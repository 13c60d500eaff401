import EdgeCatalog.Clock
import EdgeCatalog.CommandLine.Address
import EdgeCatalog.CommandLine.Arguments
import EdgeCatalog.CommandLine.Options
import EdgeCatalog.Config.Basic
import EdgeCatalog.Config.File
import EdgeCatalog.Config.Folder
import EdgeCatalog.Daemon
import EdgeCatalog.Decimal.Numeral
import EdgeCatalog.Decimal.Shortest
import EdgeCatalog.Error
import EdgeCatalog.Expiry
import EdgeCatalog.Id
import EdgeCatalog.Index
import EdgeCatalog.Instant.Basic
import EdgeCatalog.Instant.Calendar
import EdgeCatalog.Instant.Text
import EdgeCatalog.Journal
import EdgeCatalog.Json.Basic
import EdgeCatalog.Json.Draft
import EdgeCatalog.Json.Reader
import EdgeCatalog.Json.Writer
import EdgeCatalog.Log
import EdgeCatalog.LogFilter
import EdgeCatalog.Main
import EdgeCatalog.Metrics
import EdgeCatalog.Paging
import EdgeCatalog.Proofs.Device.Consistency
import EdgeCatalog.Proofs.Device.Contents
import EdgeCatalog.Proofs.Device.Grouping
import EdgeCatalog.Proofs.Device.Listing
import EdgeCatalog.Proofs.Device.ListingOrder
import EdgeCatalog.Proofs.Device.Map
import EdgeCatalog.Proofs.Device.Reading
import EdgeCatalog.Proofs.Device.Refinement
import EdgeCatalog.Proofs.Device.Rows
import EdgeCatalog.Proofs.Device.Run
import EdgeCatalog.Proofs.Device.Simulation
import EdgeCatalog.Proofs.Device.Units
import EdgeCatalog.Proofs.Device.Walk
import EdgeCatalog.Proofs.Id.Blocks
import EdgeCatalog.Proofs.Id.Grammar
import EdgeCatalog.Proofs.Index
import EdgeCatalog.Proofs.Paging
import EdgeCatalog.Proofs.Query
import EdgeCatalog.Proofs.Store.Operation
import EdgeCatalog.Proofs.Table
import EdgeCatalog.Proofs.Text.Order
import EdgeCatalog.Query
import EdgeCatalog.Record.Device
import EdgeCatalog.Record.Fields
import EdgeCatalog.Record.Resource
import EdgeCatalog.Record.Service
import EdgeCatalog.Record.Text
import EdgeCatalog.Schema
import EdgeCatalog.Session
import EdgeCatalog.Startup
import EdgeCatalog.Store.DeviceStore
import EdgeCatalog.Store.DeviceTables
import EdgeCatalog.Store.ServiceStore
import EdgeCatalog.Store.Step
import EdgeCatalog.Sweeper
import EdgeCatalog.Table
import EdgeCatalog.Text.Alphanumeric
import EdgeCatalog.Text.Blank
import EdgeCatalog.Text.CaseTable
import EdgeCatalog.Text.Digits
import EdgeCatalog.Text.Hidden
import EdgeCatalog.Text.Lowercase
import EdgeCatalog.Text.Quoted
import EdgeCatalog.Text.Ranges
import EdgeCatalog.Text.Segments
import EdgeCatalog.Text.Steering
import EdgeCatalog.Yaml.Basic
import EdgeCatalog.Yaml.Cursor
import EdgeCatalog.Yaml.Reader
import EdgeCatalog.Yaml.Scalar
import EdgeCatalog.Yaml.Tag
import EdgeCatalog.Yaml.Token
import EdgeCatalog.Yaml.Token.Lexer
import EdgeCatalog.Proofs.Device.FilterOrder
import EdgeCatalog.Proofs.Device.Filtering
import EdgeCatalog.Proofs.Service.Map
import EdgeCatalog.Proofs.Service.Simulation
import EdgeCatalog.Proofs.Service.Reading
import EdgeCatalog.Proofs.Device.Charging
import EdgeCatalog.Proofs.Service.Charging
import EdgeCatalog.Proofs.Agreement
import EdgeCatalog.Proofs.Service.Lifetime
import EdgeCatalog.Proofs.Device.Lifetime
import EdgeCatalog.Proofs.Lifetime
import EdgeCatalog.Proofs.Refusal
import EdgeCatalog.Proofs.Conservation
import EdgeCatalog.Proofs.Commutation
import EdgeCatalog.Proofs.History
import EdgeCatalog.Proofs.Instant.Calendar
import EdgeCatalog.Proofs.Instant.Text
import EdgeCatalog.Proofs.Record.RoundTrip
import EdgeCatalog.Proofs.Startup
import EdgeCatalog.Proofs.Instant.Arithmetic
import EdgeCatalog.Proofs.Sweeper.Timed
import EdgeCatalog.Proofs.Sweeper.Ageing
import EdgeCatalog.Proofs.Sweeper.Staleness
import EdgeCatalog.Proofs.Sweeper.Cancellation
import EdgeCatalog.Proofs.Paging.Checked
import EdgeCatalog.Proofs.Paging.Coverage
import EdgeCatalog.Proofs.Json.Resolution
import EdgeCatalog.Proofs.Query.Outcome
import EdgeCatalog.Proofs.Query.Selection
import EdgeCatalog.Proofs.Paging.Walk
import EdgeCatalog.Proofs.Service.Filtering
import EdgeCatalog.Proofs.Device.ResourceFiltering
import EdgeCatalog.Proofs.Sweeper.Composition
import EdgeCatalog.Proofs.Device.Reconciliation
import EdgeCatalog.Proofs.Device.FirstResource
import EdgeCatalog.Proofs.Expiry.Range
import EdgeCatalog.Proofs.Id.Ownership
import EdgeCatalog.Proofs.WriteBack
import EdgeCatalog.Proofs.Accounting
import EdgeCatalog.Proofs.Config.Rules
import EdgeCatalog.Proofs.Clock
import EdgeCatalog.Proofs.Device.Contiguity
