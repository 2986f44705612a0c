import CallProfile.Report.Diff
import CallProfile.Json.Document

namespace CallProfile

open Json (Document)

def Device.document (device : Device) : Document := .text device.text

def CallId.document (id : CallId) : Document := .natural id.number

def Metric.content : Metric → Document
  | duration seconds => .real seconds
  | count number => .natural number.toNat
  | percent share => .real share
  | bytes number => .natural number.toNat
  | ratio share => .real share
  | text content => .text content

def Metric.document (metric : Metric) : Document :=
  .record [("type", .text metric.variant.name), ("value", metric.content)]

def MetricMap.document (metrics : MetricMap) : Document :=
  .record (metrics.entries.map fun entry => (entry.1, entry.2.document))

def CallRecord.document (call : CallRecord) : Document :=
  .record [("name", .text call.name), ("device", call.device.document), ("depth", .natural call.depth.toNat),
    ("metrics", MetricMap.document call.metrics)]

def DeviceTotals.document (totals : DeviceTotals) : Document :=
  .record (totals.entries.map fun entry => (entry.1.text, MetricMap.document entry.2))

namespace Report

def document (report : Report) : Document :=
  .record [("calls", .list (report.calls.map CallRecord.document)),
    ("device_metrics", DeviceTotals.document report.deviceMetrics)]

def toJson (report : Report) : String := report.document.prettyText

end Report

def CallDiff.document (group : CallDiff) : Document :=
  .record [("name", .text group.key.name), ("device", group.key.device.document),
    ("baseline_count", .natural group.baseline.count), ("comparison_count", .natural group.comparison.count),
    ("baseline_secs", .real group.baseline.seconds), ("comparison_secs", .real group.comparison.seconds),
    ("delta_secs", .real group.deltaSeconds), ("delta_pct", .real group.deltaPercent)]

def ReportDiff.document (diff : ReportDiff) : Document :=
  .record [("baseline_calls", .natural diff.baselineCalls), ("comparison_calls", .natural diff.comparisonCalls),
    ("baseline_duration_secs", .real diff.baselineSeconds),
    ("comparison_duration_secs", .real diff.comparisonSeconds),
    ("calls", .list (diff.calls.map CallDiff.document))]

end CallProfile
