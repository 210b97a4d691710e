import QuicTelemetry.Address
import QuicTelemetry.Address.Network
import QuicTelemetry.Amount
import QuicTelemetry.Assembly
import QuicTelemetry.Document
import QuicTelemetry.Document.Cursor
import QuicTelemetry.Document.Kind
import QuicTelemetry.Document.Lexeme
import QuicTelemetry.Document.Node
import QuicTelemetry.Document.Scalar
import QuicTelemetry.Document.Token
import QuicTelemetry.Facade
import QuicTelemetry.Facade.Event
import QuicTelemetry.Fault
import QuicTelemetry.Flags
import QuicTelemetry.Flags.Load
import QuicTelemetry.Handle
import QuicTelemetry.Label
import QuicTelemetry.Label.WireCode
import QuicTelemetry.Log
import QuicTelemetry.Log.Json
import QuicTelemetry.Log.Line
import QuicTelemetry.Log.Stamp
import QuicTelemetry.Log.State
import QuicTelemetry.Metric
import QuicTelemetry.Metric.Catalogue
import QuicTelemetry.Number.Binary64
import QuicTelemetry.Number.Decimal
import QuicTelemetry.Number.Numeral
import QuicTelemetry.Number.Rounded
import QuicTelemetry.Proofs.Address.PeerLabel
import QuicTelemetry.Proofs.Address.Reduction
import QuicTelemetry.Proofs.Document.Entry
import QuicTelemetry.Proofs.Document.Tokens
import QuicTelemetry.Proofs.Facade.Aggregation
import QuicTelemetry.Proofs.Facade.Answering
import QuicTelemetry.Proofs.Facade.Assembling
import QuicTelemetry.Proofs.Facade.Build
import QuicTelemetry.Proofs.Facade.Collection
import QuicTelemetry.Proofs.Facade.Confinement
import QuicTelemetry.Proofs.Facade.Contract
import QuicTelemetry.Proofs.Facade.History
import QuicTelemetry.Proofs.Facade.Instruments
import QuicTelemetry.Proofs.Facade.Merging
import QuicTelemetry.Proofs.Facade.Neighbours
import QuicTelemetry.Proofs.Facade.Occupied
import QuicTelemetry.Proofs.Facade.Replay
import QuicTelemetry.Proofs.Facade.Sampling
import QuicTelemetry.Proofs.Facade.SharedStore
import QuicTelemetry.Proofs.Facade.Switching
import QuicTelemetry.Proofs.Flags.Entries
import QuicTelemetry.Proofs.Flags.Gates
import QuicTelemetry.Proofs.Flags.Loading
import QuicTelemetry.Proofs.Label.WireCode
import QuicTelemetry.Proofs.Lists
import QuicTelemetry.Proofs.Log.Context
import QuicTelemetry.Proofs.Log.Handlers
import QuicTelemetry.Proofs.Log.Lines
import QuicTelemetry.Proofs.Log.Refusals
import QuicTelemetry.Proofs.Log.Writing
import QuicTelemetry.Proofs.Number.Exact
import QuicTelemetry.Proofs.Settings.Namespace
import QuicTelemetry.Proofs.Store.Agreement
import QuicTelemetry.Proofs.Store.Atomicity
import QuicTelemetry.Proofs.Store.Buckets
import QuicTelemetry.Proofs.Store.Chronicle
import QuicTelemetry.Proofs.Store.Cumulative
import QuicTelemetry.Proofs.Store.Distribution
import QuicTelemetry.Proofs.Store.Growth
import QuicTelemetry.Proofs.Store.Identity
import QuicTelemetry.Proofs.Store.Names
import QuicTelemetry.Proofs.Store.Observations
import QuicTelemetry.Proofs.Store.Observing
import QuicTelemetry.Proofs.Store.Operation
import QuicTelemetry.Proofs.Store.Reading
import QuicTelemetry.Proofs.Store.Registration
import QuicTelemetry.Proofs.Store.Requests
import QuicTelemetry.Proofs.Store.Session
import QuicTelemetry.Proofs.Store.Shapes
import QuicTelemetry.Proofs.Store.Tally
import QuicTelemetry.Proofs.Store.Timers
import QuicTelemetry.Proofs.Store.UpperBounds
import QuicTelemetry.Proofs.Store.Views
import QuicTelemetry.Proofs.Task.Accounting
import QuicTelemetry.Proofs.Task.Delegation
import QuicTelemetry.Proofs.Task.Intervals
import QuicTelemetry.Proofs.Task.Recording
import QuicTelemetry.Proofs.Task.Release
import QuicTelemetry.Proofs.Task.Setup
import QuicTelemetry.Proofs.Task.TaskPool
import QuicTelemetry.Proofs.Task.Timeline
import QuicTelemetry.Proofs.Task.Transparency
import QuicTelemetry.Proofs.Value.Writing
import QuicTelemetry.Settings
import QuicTelemetry.Store
import QuicTelemetry.Store.Exposition
import QuicTelemetry.Store.Family
import QuicTelemetry.Store.Memory
import QuicTelemetry.Store.Meter
import QuicTelemetry.Store.Metered
import QuicTelemetry.Store.Pipeline
import QuicTelemetry.Store.Table
import QuicTelemetry.Task
import QuicTelemetry.Task.Script
import QuicTelemetry.Template
import QuicTelemetry.Text.Blank
import QuicTelemetry.Text.DecimalDigit
import QuicTelemetry.Text.Fields
import QuicTelemetry.Text.Glob
import QuicTelemetry.Text.Interval
import QuicTelemetry.Text.LowerCase
import QuicTelemetry.Text.Printable
import QuicTelemetry.Text.Quoted
import QuicTelemetry.Value
import QuicTelemetry.Value.Kind
import QuicTelemetry.Value.Limits
