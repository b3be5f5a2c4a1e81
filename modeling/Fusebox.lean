import Fusebox.Admin.Interface
import Fusebox.Admin.Route
import Fusebox.Breaker.Basic
import Fusebox.Breaker.Guard
import Fusebox.Breaker.Mode
import Fusebox.Breaker.Policy
import Fusebox.Breaker.Snapshot
import Fusebox.Breaker.Tally
import Fusebox.Crash
import Fusebox.Decimal.Layout
import Fusebox.Decimal.Nearest
import Fusebox.Decimal.Shortest
import Fusebox.Document.Compact
import Fusebox.Document.Json
import Fusebox.Document.Named
import Fusebox.Document.Toml.Draft
import Fusebox.Document.Toml.Reader
import Fusebox.Document.Toml.Scalar
import Fusebox.Document.Tree
import Fusebox.Forecast
import Fusebox.Host.CommandLine
import Fusebox.Host.Folder
import Fusebox.Host.Service
import Fusebox.Journal.Directive
import Fusebox.Journal.Effect
import Fusebox.Journal.Event
import Fusebox.Journal.Filter
import Fusebox.Journal.Verbosity
import Fusebox.Main
import Fusebox.Proofs.Admin.Access
import Fusebox.Proofs.Admin.Address
import Fusebox.Proofs.Admin.Agreement
import Fusebox.Proofs.Admin.Outsiders
import Fusebox.Proofs.Breaker.Counting
import Fusebox.Proofs.Breaker.Interruption
import Fusebox.Proofs.Breaker.Refusal
import Fusebox.Proofs.Breaker.Reports
import Fusebox.Proofs.Breaker.Sight
import Fusebox.Proofs.Breaker.Transition
import Fusebox.Proofs.Clients.Accounts
import Fusebox.Proofs.Clients.Basic
import Fusebox.Proofs.Clients.Polling
import Fusebox.Proofs.Decimal.Number
import Fusebox.Proofs.Decimal.Ratio
import Fusebox.Proofs.Document.Named
import Fusebox.Proofs.Document.RoundTrip
import Fusebox.Proofs.Journal.Metering
import Fusebox.Proofs.Registry.Directory
import Fusebox.Proofs.Registry.FirstCome
import Fusebox.Proofs.Registry.Fleet
import Fusebox.Proofs.Registry.Independence
import Fusebox.Proofs.Registry.Names
import Fusebox.Proofs.Registry.Query
import Fusebox.Proofs.Registry.Reading
import Fusebox.Proofs.Registry.Unobtrusive
import Fusebox.Proofs.Rehearsal.Timekeeping
import Fusebox.Proofs.Settings.Decoding
import Fusebox.Proofs.Settings.Faults
import Fusebox.Proofs.Settings.Registration
import Fusebox.Proofs.Settings.Rewriting
import Fusebox.Proofs.Settings.ZeroThreshold
import Fusebox.Proofs.Shutdown.Backlog
import Fusebox.Proofs.Shutdown.Delivery
import Fusebox.Proofs.Text.ByteOrder
import Fusebox.Proofs.Time.Moving
import Fusebox.Proofs.Traffic.Admission
import Fusebox.Proofs.Traffic.Basic
import Fusebox.Proofs.Traffic.CompletionOrder
import Fusebox.Proofs.Traffic.Course
import Fusebox.Proofs.Traffic.FailingClocks
import Fusebox.Proofs.Traffic.Freshness
import Fusebox.Proofs.Traffic.Idle
import Fusebox.Proofs.Traffic.Ledger
import Fusebox.Proofs.Traffic.LoadShedding
import Fusebox.Proofs.Traffic.Lockout
import Fusebox.Proofs.Traffic.Observation
import Fusebox.Proofs.Traffic.Probes
import Fusebox.Proofs.Traffic.Quiescence
import Fusebox.Proofs.Traffic.Reach
import Fusebox.Proofs.Traffic.Recovery
import Fusebox.Proofs.Traffic.Sensitivity
import Fusebox.Proofs.Traffic.Sequence
import Fusebox.Proofs.Traffic.Story
import Fusebox.Proofs.Traffic.Tags
import Fusebox.Proofs.Traffic.Threads
import Fusebox.Proofs.Traffic.Tripping
import Fusebox.Proofs.Traffic.Turns
import Fusebox.Registry
import Fusebox.Rehearsal
import Fusebox.Settings.Address
import Fusebox.Settings.Basic
import Fusebox.Settings.Decode
import Fusebox.Settings.Load
import Fusebox.Settings.Validation
import Fusebox.Shutdown
import Fusebox.Step
import Fusebox.Text.Blank
import Fusebox.Text.Front
import Fusebox.Text.Hidden
import Fusebox.Text.Letter
import Fusebox.Text.Pattern
import Fusebox.Text.Percent
import Fusebox.Text.Quoted
import Fusebox.Text.Slice
import Fusebox.Time.Clock
import Fusebox.Time.Duration
import Fusebox.Time.Instant
