import Telemetry.App
import Telemetry.Binary64
import Telemetry.Cell
import Telemetry.Column
import Telemetry.Config
import Telemetry.Decimal
import Telemetry.Encoding
import Telemetry.Envelope.Format
import Telemetry.Event
import Telemetry.Figures
import Telemetry.History
import Telemetry.Intake
import Telemetry.Json
import Telemetry.Json.Decode
import Telemetry.Json.Literal
import Telemetry.Json.Printer
import Telemetry.Json.Reader
import Telemetry.Json.Token
import Telemetry.Limiter
import Telemetry.Log
import Telemetry.Main
import Telemetry.Metadata
import Telemetry.Proofs.Concurrency.Desk
import Telemetry.Proofs.Concurrency.Publication
import Telemetry.Proofs.Concurrency.Schedule
import Telemetry.Proofs.Concurrency.Stage
import Telemetry.Proofs.History.Records
import Telemetry.Proofs.Intake.Accounting
import Telemetry.Proofs.Intake.Effect
import Telemetry.Proofs.Intake.Fate
import Telemetry.Proofs.Intake.Ledger
import Telemetry.Proofs.Window.Log
import Telemetry.Proofs.Window.Reading
import Telemetry.Proofs.Window.Ring
import Telemetry.Proofs.Window.Totals
import Telemetry.Quantity
import Telemetry.Rate
import Telemetry.Replay
import Telemetry.Replay.Options
import Telemetry.Replay.Report
import Telemetry.Route.Host
import Telemetry.Route.Tree
import Telemetry.Session
import Telemetry.Snapshot
import Telemetry.Table
import Telemetry.Table.Capped
import Telemetry.Text.Blank
import Telemetry.Text.Hex
import Telemetry.Text.Composed
import Telemetry.Text.Direction
import Telemetry.Text.Mark
import Telemetry.Text.Quoted
import Telemetry.Time
import Telemetry.Time.Civil
import Telemetry.Toml
import Telemetry.Toml.Quoted
import Telemetry.Toml.Reader
import Telemetry.Toml.Scalar
import Telemetry.Traffic
import Telemetry.Uri
import Telemetry.Uri.Address
import Telemetry.Uri.Domain
import Telemetry.Uri.Domain.Mapping
import Telemetry.Uri.Path
import Telemetry.Uri.Percent
import Telemetry.Uri.Punycode
import Telemetry.Window.Series
import Telemetry.Window.Totals
import Telemetry.Window.Tracker
import Telemetry.Proofs.Concurrency.Recording
import Telemetry.Proofs.History.Merging
import Telemetry.Proofs.History.Summary
import Telemetry.Proofs.History.Provenance
import Telemetry.Proofs.History.Consolidation
import Telemetry.Proofs.Route.Count
import Telemetry.Proofs.Route.Place
import Telemetry.Proofs.Route.Longest
import Telemetry.Proofs.Route.Registration
import Telemetry.Proofs.Route.Attribution
import Telemetry.Proofs.Route.Totals
import Telemetry.Proofs.Intake.Requests
import Telemetry.Proofs.Concurrency.Hub
import Telemetry.Proofs.Concurrency.Balance
import Telemetry.Proofs.Route.Growth
import Telemetry.Proofs.Route.Refusal
import Telemetry.Proofs.Route.Filing
import Telemetry.Proofs.Route.Prefix
import Telemetry.Proofs.Route.Split
import Telemetry.Proofs.Intake.Live
import Telemetry.Proofs.Traffic.Entries
import Telemetry.Proofs.Snapshot.View
import Telemetry.Proofs.Traffic.Rollup
import Telemetry.Proofs.Intake.Separation
import Telemetry.Proofs.Intake.Frame
import Telemetry.Proofs.Session.Renewal
import Telemetry.Proofs.Session.Filing
import Telemetry.Proofs.Uri.Domain
import Telemetry.Proofs.Uri.Authority
import Telemetry.Proofs.Route.Locator
import Telemetry.Proofs.Route.Port
import Telemetry.Proofs.Uri.Path
import Telemetry.Proofs.Route.Reception
import Telemetry.Proofs.Binary64
import Telemetry.Proofs.Json.Token
import Telemetry.Proofs.Json.Number
import Telemetry.Proofs.Json.Reading
import Telemetry.Proofs.Json.Spelling
import Telemetry.Proofs.Json.Text
import Telemetry.Proofs.Json.Codec
import Telemetry.Proofs.Envelope.RoundTrip
import Telemetry.Proofs.Snapshot.Resources
import Telemetry.Proofs.History.Grouping
import Telemetry.Proofs.Table.Arrival
import Telemetry.Proofs.Route.Method
import Telemetry.Proofs.Route.Stranding
import Telemetry.Proofs.History.Coherence
import Telemetry.Proofs.Concurrency.Tally
import Telemetry.Proofs.Window.Levels
import Telemetry.Proofs.Window.Clock
import Telemetry.Proofs.Window.Nominal
import Telemetry.Proofs.Log.Payload
import Telemetry.Proofs.Text.Words
import Telemetry.Proofs.Log.Description
import Telemetry.Proofs.Route.Normal
import Telemetry.Proofs.Intake.Step
import Telemetry.Proofs.Intake.Clock
import Telemetry.Proofs.Snapshot.Staleness
import Telemetry.Proofs.Sorting
import Telemetry.Proofs.Column
import Telemetry.Proofs.Route.Summaries
import Telemetry.Proofs.Limiter
import Telemetry.Proofs.Json.Layout
import Telemetry.Proofs.Envelope.Order
