import Provenance.Call
import Provenance.Clock
import Provenance.Clock.Family
import Provenance.Config
import Provenance.Config.Reader
import Provenance.Connect
import Provenance.Decimal.Binary64
import Provenance.Decimal.Shortest
import Provenance.Duration
import Provenance.Error
import Provenance.Event
import Provenance.Fault
import Provenance.Files
import Provenance.Handle
import Provenance.Id
import Provenance.Id.Map
import Provenance.Identity
import Provenance.Identity.Scripted
import Provenance.Interceptor.Basic
import Provenance.Interceptor.Error
import Provenance.Interceptor.File
import Provenance.Interceptor.Object
import Provenance.Interceptor.Op
import Provenance.Interceptor.Operation
import Provenance.Interceptor.Proxy
import Provenance.Interceptor.Termination
import Provenance.Json.Choice
import Provenance.Json.Lexer
import Provenance.Json.Names
import Provenance.Json.Number
import Provenance.Json.Problem
import Provenance.Json.Reader
import Provenance.Json.Skip
import Provenance.Json.Token
import Provenance.Json.Value
import Provenance.Kind
import Provenance.Library
import Provenance.Library.InMemory
import Provenance.Memory
import Provenance.Overhead
import Provenance.Proofs.Agreement
import Provenance.Proofs.Causes
import Provenance.Proofs.Clock.Families
import Provenance.Proofs.Clock.Lineage
import Provenance.Proofs.Config.Settings
import Provenance.Proofs.Contract
import Provenance.Proofs.Id.Map
import Provenance.Proofs.Interceptor.Accounts
import Provenance.Proofs.Interceptor.Conduct
import Provenance.Proofs.Interceptor.Custody
import Provenance.Proofs.Interceptor.Handback
import Provenance.Proofs.Interceptor.Journal
import Provenance.Proofs.Interceptor.Latency
import Provenance.Proofs.Interceptor.Marks
import Provenance.Proofs.Interceptor.Measurement
import Provenance.Proofs.Interceptor.Metered
import Provenance.Proofs.Interceptor.Naming
import Provenance.Proofs.Interceptor.OpenHandles
import Provenance.Proofs.Interceptor.Ownership
import Provenance.Proofs.Interceptor.Pace
import Provenance.Proofs.Interceptor.Parallel
import Provenance.Proofs.Interceptor.Parts
import Provenance.Proofs.Interceptor.Projection
import Provenance.Proofs.Interceptor.Rollback
import Provenance.Proofs.Interceptor.Teardown
import Provenance.Proofs.Interceptor.Timing
import Provenance.Proofs.Interceptor.Traffic
import Provenance.Proofs.Interceptor.Transfers
import Provenance.Proofs.Interceptor.Upkeep
import Provenance.Proofs.Interceptor.Watched
import Provenance.Proofs.Json.Grammar
import Provenance.Proofs.Json.Spelling
import Provenance.Proofs.Library.Identities
import Provenance.Proofs.Library.Requests
import Provenance.Proofs.Registry.Atomicity
import Provenance.Proofs.Registry.Attachments
import Provenance.Proofs.Registry.Balance
import Provenance.Proofs.Registry.Beside
import Provenance.Proofs.Registry.Clients
import Provenance.Proofs.Registry.Conduct
import Provenance.Proofs.Registry.Conservation
import Provenance.Proofs.Registry.Entries
import Provenance.Proofs.Registry.Independence
import Provenance.Proofs.Registry.Integrity
import Provenance.Proofs.Registry.Lifetime
import Provenance.Proofs.Registry.Loan
import Provenance.Proofs.Registry.Locality
import Provenance.Proofs.Registry.Placeholder
import Provenance.Proofs.Registry.Quiet
import Provenance.Proofs.Registry.Search
import Provenance.Proofs.Registry.Sharing
import Provenance.Proofs.Registry.Sizes
import Provenance.Proofs.Registry.Stakes
import Provenance.Proofs.Registry.Tallies
import Provenance.Proofs.Registry.Titles
import Provenance.Proofs.Registry.Tracking
import Provenance.Proofs.Registry.Undo
import Provenance.Proofs.Registry.Uniqueness
import Provenance.Proofs.Registry.Upkeep
import Provenance.Proofs.Registry.Views
import Provenance.Proofs.Registry.Writes
import Provenance.Proofs.Stats.Accrual
import Provenance.Proofs.Stats.Chart
import Provenance.Proofs.Stats.Clients
import Provenance.Proofs.Stats.Course
import Provenance.Proofs.Stats.Fill
import Provenance.Proofs.Stats.Growth
import Provenance.Proofs.Stats.Hash
import Provenance.Proofs.Stats.History
import Provenance.Proofs.Stats.Probe
import Provenance.Proofs.Stats.Reports
import Provenance.Proofs.Stats.Sums
import Provenance.Proofs.Stats.Update
import Provenance.Proofs.Text.Lines
import Provenance.Registry.Basic
import Provenance.Registry.Container
import Provenance.Registry.Counters
import Provenance.Registry.Error
import Provenance.Registry.Op
import Provenance.Registry.Record
import Provenance.Registry.Track
import Provenance.Registry.View
import Provenance.RegistryId
import Provenance.Shared
import Provenance.Source
import Provenance.Stats.Error
import Provenance.Stats.Hash
import Provenance.Stats.Report
import Provenance.Stats.Table
import Provenance.Text.Hex
import Provenance.Text.Quoted
import Provenance.Text.Visible
import Provenance.Token
import Provenance.Word
import Provenance.Written
