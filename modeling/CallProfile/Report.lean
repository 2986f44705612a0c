import CallProfile.Call

namespace CallProfile

abbrev DeviceTotals := SortedMap Device MetricMap

structure Report where
  calls : List CallRecord
  deviceMetrics : DeviceTotals
deriving DecidableEq, BEq

namespace Report

def empty : Report := ⟨[], .empty⟩

instance : Inhabited Report := ⟨empty⟩

def deviceMetric? (report : Report) (device : Device) (name : String) : Option Metric :=
  (report.deviceMetrics.get? device).bind (·.get? name)

def metricNames (report : Report) : List String :=
  let names := report.calls.flatMap (·.metrics.keys)
  (SortedMap.ofList (names.map (·, ()))).keys

/-- The sum of floats from left to right; the sum of nothing is the zero that changes no sum. -/
def sum (terms : List Float) : Float := terms.foldl (· + ·) (-0.0)

/-- The time of the outermost calls that satisfy a condition; calls inside others are not counted twice. -/
def totalDurationWhere (report : Report) (condition : CallRecord → Bool) : Float :=
  sum ((report.calls.filter fun call => call.depth ≤ 1 && condition call).filterMap (·.seconds?))

def totalDuration (report : Report) : Float := report.totalDurationWhere fun _ => true

def totalDurationOn (report : Report) (device : Device) : Float :=
  report.totalDurationWhere fun call => call.device = device

/-- The recorded number of calls on a device, or else the number of calls that are listed. -/
def callCount (report : Report) (device : Device) : Count :=
  match report.deviceMetric? device callsName with
  | some (.count number) => number
  | _ => .ofNat (report.calls.countP (·.device = device))

end Report

/-- The total metrics of each device over a list of calls, `Calls` being their number. -/
def DeviceTotals.addCall (totals : DeviceTotals) (call : CallRecord) : DeviceTotals :=
  totals.update call.device fun metrics =>
    let counted := MetricMap.accumulateOrSkip (metrics.getD .empty) callsName (.count 1)
    (call.metrics.entries.filter (·.2.isAdditive)).foldl
      (fun metrics entry => MetricMap.accumulateOrSkip metrics entry.1 entry.2) counted

def DeviceTotals.ofCalls (calls : List CallRecord) : DeviceTotals :=
  calls.foldl DeviceTotals.addCall .empty

def Report.ofCalls (calls : List CallRecord) : Report := ⟨calls, .ofCalls calls⟩

end CallProfile
