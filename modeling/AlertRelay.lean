import AlertRelay.Main
import AlertRelay.Probe.Schedule
import AlertRelay.Proofs.Store.History
import AlertRelay.Proofs.Text.ByteOrder
import AlertRelay.Proofs.Store.Ledger
import AlertRelay.Proofs.Store.Service
import AlertRelay.Proofs.Store.Ending
import AlertRelay.Proofs.Store.Linearizable
import AlertRelay.Proofs.Tick.Record
import AlertRelay.Proofs.Tick.Traffic
import AlertRelay.Proofs.Tick.OneShot
import AlertRelay.Proofs.Tick.Removal
import AlertRelay.Proofs.Json.Token
import AlertRelay.Proofs.Json.Value
import AlertRelay.Proofs.Event.Json
import AlertRelay.Proofs.Payload.Native
import AlertRelay.Proofs.Delivery.Lists
import AlertRelay.Proofs.Tick.Completion
import AlertRelay.Proofs.Store.Due
import AlertRelay.Proofs.Server.Body
import AlertRelay.Proofs.Server.Shown
import AlertRelay.Proofs.Server.Post
import AlertRelay.Proofs.Server.Replay
import AlertRelay.Proofs.Tick.Slots
import AlertRelay.Proofs.Delivery.Writes
import AlertRelay.Proofs.Tick.Undisturbed
import AlertRelay.Proofs.Tick.Repeated
import AlertRelay.Proofs.Delivery.Steady
import AlertRelay.Proofs.Tick.Outcome
import AlertRelay.Proofs.Server.Independence
import AlertRelay.Proofs.Faults
import AlertRelay.Proofs.Probe.Reports
import AlertRelay.Proofs.Toml.Number
import AlertRelay.Proofs.Toml.Text
import AlertRelay.Proofs.Toml.Document
import AlertRelay.Proofs.Files.Disk
import AlertRelay.Proofs.Settings.File
import AlertRelay.Proofs.Json.Grammar
import AlertRelay.Proofs.Json.Number
import AlertRelay.Proofs.Json.Text
import AlertRelay.Proofs.Json.Form
import AlertRelay.Proofs.Json.Reader
import AlertRelay.Proofs.Json.Skip
import AlertRelay.Proofs.Json.Record
import AlertRelay.Proofs.Payload.Alarm
import AlertRelay.Proofs.Payload.Body
import AlertRelay.Proofs.Payload.Shapes
import AlertRelay.Proofs.Payload.Meaning
import AlertRelay.Proofs.Payload.Unread
import AlertRelay.Proofs.Payload.Message
import AlertRelay.Proofs.Store.Refusals
import AlertRelay.Proofs.Store.Gate
import AlertRelay.Proofs.Store.Pressure
import AlertRelay.Proofs.Event.Staleness
import AlertRelay.Proofs.Server.Chunks
import AlertRelay.Proofs.Probe.Relay
import AlertRelay.Proofs.CommandLine.Options
import AlertRelay.Proofs.Settings.Extension
import AlertRelay.Proofs.Settings.Layers
import AlertRelay.Proofs.CommandLine.Load
import AlertRelay.Proofs.Event.Defaults
import AlertRelay.Proofs.Number.Decimal
import AlertRelay.Proofs.Text.Cut
import AlertRelay.Proofs.Duration
import AlertRelay.Proofs.Program.Timers
import AlertRelay.Proofs.CommandLine.Given
import AlertRelay.Proofs.CommandLine.Interval
import AlertRelay.Proofs.Url.Foreign
import AlertRelay.Proofs.ListServer
