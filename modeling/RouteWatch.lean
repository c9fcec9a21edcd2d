import RouteWatch.CommandLine.Options
import RouteWatch.CommandLine.Outcome
import RouteWatch.Device.Channel
import RouteWatch.Device.Command
import RouteWatch.Device.Error
import RouteWatch.Device.Execution
import RouteWatch.Device.Replay
import RouteWatch.Device.Source
import RouteWatch.Device.Transport
import RouteWatch.Dump.Block
import RouteWatch.Dump.DatabaseEntry
import RouteWatch.Dump.DatabaseEntry.Printer
import RouteWatch.Dump.Display
import RouteWatch.Dump.Display.Printer
import RouteWatch.Dump.Format
import RouteWatch.Dump.Kernel
import RouteWatch.Dump.Kernel.Printer
import RouteWatch.Dump.Query
import RouteWatch.Dump.RunningConfig
import RouteWatch.Dump.RunningConfig.Printer
import RouteWatch.Files
import RouteWatch.Json.Basic
import RouteWatch.Json.Printer
import RouteWatch.Json.Reader
import RouteWatch.Keyed
import RouteWatch.Net.Address
import RouteWatch.Net.Address.Printer
import RouteWatch.Net.Address.Reader
import RouteWatch.Net.Prefix
import RouteWatch.Net.Record
import RouteWatch.Number.Binary64
import RouteWatch.Number.Shortest
import RouteWatch.Poll.Check
import RouteWatch.Poll.Policy
import RouteWatch.Poll.Poller
import RouteWatch.Poll.Watch
import RouteWatch.Route.Basic
import RouteWatch.Route.Difference
import RouteWatch.Route.Mapping
import RouteWatch.Route.Protocol
import RouteWatch.Route.Sample
import RouteWatch.Settings.Basic
import RouteWatch.Settings.Reader
import RouteWatch.Shell.Arithmetic
import RouteWatch.Shell.Command
import RouteWatch.Shell.Machine
import RouteWatch.Shell.Printf
import RouteWatch.Shell.Quote
import RouteWatch.Shell.Run
import RouteWatch.Shell.Utility
import RouteWatch.Shell.Word
import RouteWatch.Text.Basic
import RouteWatch.Text.Blank
import RouteWatch.Text.Count
import RouteWatch.Text.Digit
import RouteWatch.Text.Lines
import RouteWatch.Text.Plain
import RouteWatch.Text.Quoted
import RouteWatch.Text.Utf8
import RouteWatch.Text.WordChar
import RouteWatch.Time.Duration
import RouteWatch.Toml.Basic
import RouteWatch.Toml.Quoted
import RouteWatch.Toml.Reader
import RouteWatch.Toml.Scalar
import RouteWatch.Main
import RouteWatch.Proofs.CommandLine.Budget
import RouteWatch.Proofs.Device.Failure
import RouteWatch.Proofs.Device.Replay
import RouteWatch.Proofs.Device.Transport
import RouteWatch.Proofs.Dump.Alike
import RouteWatch.Proofs.Dump.Block
import RouteWatch.Proofs.Dump.Canonical
import RouteWatch.Proofs.Dump.DatabaseEntry
import RouteWatch.Proofs.Dump.DatabaseEntry.Fields
import RouteWatch.Proofs.Dump.Display
import RouteWatch.Proofs.Dump.Display.Deletion
import RouteWatch.Proofs.Dump.Display.Header
import RouteWatch.Proofs.Dump.Display.Line
import RouteWatch.Proofs.Dump.Display.NextHop
import RouteWatch.Proofs.Dump.Display.RibHeader
import RouteWatch.Proofs.Dump.Ending
import RouteWatch.Proofs.Dump.Kernel
import RouteWatch.Proofs.Dump.Kernel.Layout
import RouteWatch.Proofs.Dump.Kernel.Line
import RouteWatch.Proofs.Dump.Kernel.Spelling
import RouteWatch.Proofs.Dump.Order
import RouteWatch.Proofs.Dump.Paragraph
import RouteWatch.Proofs.Dump.Protocol
import RouteWatch.Proofs.Dump.Reprint
import RouteWatch.Proofs.Dump.RunningConfig
import RouteWatch.Proofs.Dump.RunningConfig.Boundary
import RouteWatch.Proofs.Dump.RunningConfig.Line
import RouteWatch.Proofs.Dump.RunningConfig.Scope
import RouteWatch.Proofs.Dump.Trailing
import RouteWatch.Proofs.Keyed
import RouteWatch.Proofs.Net.Address
import RouteWatch.Proofs.Net.Prefix
import RouteWatch.Proofs.Net.Record
import RouteWatch.Proofs.Poll.Devices
import RouteWatch.Proofs.Poll.Goal
import RouteWatch.Proofs.Poll.Poller
import RouteWatch.Proofs.Poll.Watch
import RouteWatch.Proofs.Route.Basic
import RouteWatch.Proofs.Route.Canonical
import RouteWatch.Proofs.Route.Difference
import RouteWatch.Proofs.Route.Expectation
import RouteWatch.Proofs.Route.History
import RouteWatch.Proofs.Route.Mapping
import RouteWatch.Proofs.Route.Normal
import RouteWatch.Proofs.Route.Protocol
import RouteWatch.Proofs.Route.Report
import RouteWatch.Proofs.Shell.Command
import RouteWatch.Proofs.Shell.Word
import RouteWatch.Proofs.Text.Basic
import RouteWatch.Proofs.Text.Blank
import RouteWatch.Proofs.Text.Count
import RouteWatch.Proofs.Text.LetterCase
import RouteWatch.Proofs.Text.Lines
import RouteWatch.Proofs.Text.Trailing
import RouteWatch.Proofs.Text.Utf8
