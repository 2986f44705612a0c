import CallProfile.Report
import CallProfile.Metric.Text
import CallProfile.Decimal.TotalOrder
import CallProfile.Text.Blank
import CallProfile.Text.Padding

namespace CallProfile

structure CallGroup where
  key : CallKey
  count : Nat
  metrics : MetricMap
  skipped : Nat
deriving DecidableEq

namespace CallGroup

def empty (key : CallKey) : CallGroup := ⟨key, 0, .empty, 0⟩

def addMetric (group : CallGroup) (name : String) (value : Metric) : CallGroup :=
  match MetricMap.accumulate group.metrics name value with
  | .ok metrics => { group with metrics }
  | .error _ => { group with skipped := group.skipped + 1 }

def addCall (group : CallGroup) (call : CallRecord) : CallGroup :=
  (call.metrics.entries.filter (·.2.isAdditive)).foldl
    (fun group entry => group.addMetric entry.1 entry.2) { group with count := group.count + 1 }

def seconds (group : CallGroup) : Double :=
  ((group.metrics.get? durationName).bind Metric.duration?).getD 0.0

def insertCall (call : CallRecord) : List CallGroup → List CallGroup
  | [] => [(empty call.key).addCall call]
  | group :: rest =>
    if group.key = call.key then group.addCall call :: rest else group :: insertCall call rest

def ofCalls (calls : List CallRecord) : List CallGroup :=
  calls.foldl (fun groups call => insertCall call groups) []

end CallGroup

structure TextTable where
  header : List String
  rows : List (List String)

namespace TextTable

/-- The width of each column: the bytes of its header or the characters of its longest cell. -/
def widths (table : TextTable) : List Nat :=
  table.rows.foldl (fun widths row => List.zipWith max widths (row.map String.length))
    (table.header.map String.utf8ByteSize)

def leftColumns : Nat := 2

def cells (widths : List Nat) (line : List String) : Except Panic (List String) := do
  let padded := line.zip widths
  let left ← (padded.take leftColumns).mapM fun cell => return Text.padRight (← Text.width cell.2) cell.1
  let right ← (padded.drop leftColumns).mapM fun cell => return Text.padLeft (← Text.width cell.2) cell.1
  return left ++ right

def line (widths : List Nat) (line : List String) : Except Panic String := do
  let cells ← cells widths line
  return .ofList (Text.trimEnd ("  ".intercalate cells).toList) ++ "\n"

def text (table : TextTable) : Except Panic String := do
  let lines ← (table.header :: table.rows).mapM (line table.widths)
  return String.join lines

end TextTable

namespace Report

def extraColumns (report : Report) : List String := report.metricNames.filter (· ≠ durationName)

def shareCell (total seconds : Float) : String :=
  if 0.0 < total then (Metric.percent (seconds / total * 100.0 : Float)).humanized else ""

def metricCells (total : Float) (columns : List String) (metrics : MetricMap) : List String :=
  let seconds := (metrics.get? durationName).bind Metric.seconds?
  (seconds.map Metric.microseconds).getD "" :: (seconds.map (shareCell total)).getD "" ::
    columns.map fun name => ((metrics.get? name).map Metric.humanized).getD ""

def indented (call : CallRecord) : String := Text.blanks (2 * (call.depth.toNat - 1)) ++ call.name

def flatTable (report : Report) : TextTable :=
  let total := report.totalDuration
  let columns := report.extraColumns
  { header := "Name" :: "Device" :: "Duration (us)" :: "Percent" :: columns
    rows := report.calls.map fun call =>
      indented call :: call.device.text :: metricCells total columns call.metrics }

def groupTable (report : Report) (groups : List CallGroup) : TextTable :=
  let total := report.totalDuration
  let columns := report.extraColumns
  { header := "Name" :: "Device" :: "Count" :: "Duration (us)" :: "Percent" :: columns
    rows := groups.map fun group =>
      group.key.name :: group.key.device.text :: Decimal.natural group.count ::
        metricCells total columns group.metrics }

def groups (report : Report) : List CallGroup :=
  Decimal.sortDescending CallGroup.seconds (CallGroup.ofCalls report.calls)

def skippedNote (skipped : Nat) : String :=
  if skipped = 0 then ""
  else "(" ++ Decimal.natural skipped ++ " sample(s) skipped: metric type changed between calls)\n"

def deviceLine (device : Device) (metrics : MetricMap) : String :=
  let totals := metrics.entries.map fun entry => entry.1 ++ "=" ++ entry.2.humanized
  "  " ++ device.text ++ "  " ++ "  ".intercalate totals ++ "\n"

def deviceSummary (report : Report) : String :=
  if report.deviceMetrics.isEmpty then ""
  else
    "\nDevice summary:\n" ++
      String.join (report.deviceMetrics.entries.map fun entry => deviceLine entry.1 entry.2)

/-- The table of groups if `aggregate` holds, else that of calls; the totals of the devices follow. -/
def table (report : Report) (aggregate : Bool) : Except Panic String := do
  let rows ←
    if aggregate then
      let groups := report.groups
      let text ← (report.groupTable groups).text
      pure (text ++ skippedNote (groups.foldl (fun total group => total + group.skipped) 0))
    else report.flatTable.text
  return rows ++ report.deviceSummary

end Report

end CallProfile
