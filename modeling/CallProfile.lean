import CallProfile.Call
import CallProfile.Collector
import CallProfile.Collector.Hardware
import CallProfile.Collector.OpenCalls
import CallProfile.CommandLine
import CallProfile.CommandLine.Arguments
import CallProfile.CommandLine.Style
import CallProfile.Count
import CallProfile.Counter.Backend
import CallProfile.Counter.Manual
import CallProfile.Counter.Usage
import CallProfile.Counter.Usage.Records
import CallProfile.Decimal.Binary64
import CallProfile.Decimal.Fixed
import CallProfile.Decimal.Natural
import CallProfile.Decimal.Shortest
import CallProfile.Decimal.TotalOrder
import CallProfile.Device
import CallProfile.Device.Parse
import CallProfile.Failure
import CallProfile.FileStore
import CallProfile.Json.Cursor
import CallProfile.Json.Document
import CallProfile.Json.Fault
import CallProfile.Json.Reader
import CallProfile.Json.Skip
import CallProfile.Main
import CallProfile.Metric
import CallProfile.Metric.Text
import CallProfile.ProfileError
import CallProfile.Report
import CallProfile.Report.Csv
import CallProfile.Report.Diff
import CallProfile.Report.Document
import CallProfile.Report.File
import CallProfile.Report.Merge
import CallProfile.Report.Reading
import CallProfile.Report.Table
import CallProfile.Session
import CallProfile.Session.Config
import CallProfile.SortedMap
import CallProfile.Text.Blank
import CallProfile.Text.CaseTables
import CallProfile.Text.Lowercase
import CallProfile.Text.Marked
import CallProfile.Text.Padding
import CallProfile.Text.Quoted
import CallProfile.Toml.Reader
import CallProfile.Toml.Value
import CallProfile.Proofs.Session.Stacks
import CallProfile.Proofs.Session.Events
import CallProfile.Proofs.Session.History
import CallProfile.Proofs.Session.Conservation
import CallProfile.Proofs.Session.ThreadStacks
import CallProfile.Proofs.Collector.Bookkeeping
import CallProfile.Proofs.Session.Bookkeeping
import CallProfile.Proofs.Counter.Manual
import CallProfile.Proofs.Session.Config
import CallProfile.Proofs.Session.Meters
import CallProfile.Proofs.Session.Attribution
import CallProfile.Proofs.Session.NestedCounters
import CallProfile.Proofs.Session.Contributions
import CallProfile.Proofs.Metric.Grouping
import CallProfile.Proofs.Report.Merge
import CallProfile.Proofs.Report.Totals
import CallProfile.Proofs.Decimal.Double
import CallProfile.Proofs.Decimal.TotalOrder
import CallProfile.Proofs.Device.Canonical
import CallProfile.Proofs.Device.Grammar
import CallProfile.Proofs.Json.Nested
import CallProfile.Proofs.Json.Real
import CallProfile.Proofs.Report.Csv
import CallProfile.Proofs.Report.RoundTrip
import CallProfile.Proofs.Session.Stepwise
import CallProfile.Proofs.Session.Lifecycle
import CallProfile.Proofs.Session.Leftovers
import CallProfile.Proofs.Session.Readings
import CallProfile.Proofs.Session.ThreadReadings
import CallProfile.Proofs.Report.Retold
import CallProfile.Proofs.Session.Adapters
import CallProfile.Proofs.Session.Bracketing
import CallProfile.Proofs.FileStore
import CallProfile.Proofs.Session.SameConfig
import CallProfile.Proofs.Report.File
import CallProfile.Proofs.CommandLine.Arguments
import CallProfile.Proofs.CommandLine.Merging
import CallProfile.Proofs.CommandLine.Reloading
import CallProfile.Proofs.Report.Groups
import CallProfile.Proofs.Session.Endings
import CallProfile.Proofs.Session.CallCounts
import CallProfile.Proofs.Collector.Service
import CallProfile.Proofs.Collector.Callbacks
import CallProfile.Proofs.Report.MergedCounts
import CallProfile.Proofs.Report.DeviceTotals
import CallProfile.Proofs.Session.Testimonies
import CallProfile.Proofs.Session.SameCalls
import CallProfile.Proofs.Session.FaultIsolation
import CallProfile.Proofs.Report.Diff
import CallProfile.Proofs.Report.Rows
import CallProfile.Proofs.Collector.Increments
import CallProfile.Proofs.Collector.Declared
import CallProfile.Proofs.Session.Validation
import CallProfile.Proofs.Counter.Ledger
import CallProfile.Proofs.Session.Guards
import CallProfile.Proofs.Report.Clashes
import CallProfile.Proofs.Counter.Listed
import CallProfile.Proofs.Metric.Accumulation
import CallProfile.Proofs.Report.Columns
import CallProfile.Proofs.Decimal.Normal
import CallProfile.Proofs.Decimal.Fixed
import CallProfile.Proofs.Metric.Units
