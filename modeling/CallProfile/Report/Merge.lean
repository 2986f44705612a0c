import CallProfile.Report

namespace CallProfile

/-- Adds the entries of `values` to the totals, in order, up to the first clash. -/
def MetricMap.merge (totals values : MetricMap) : Except MetricClash MetricMap :=
  values.entries.foldlM (fun totals entry => MetricMap.accumulate totals entry.1 entry.2) totals

def DeviceTotals.merge (totals others : DeviceTotals) : Except MetricClash DeviceTotals :=
  others.entries.foldlM
    (fun totals entry => do
      let merged ← MetricMap.merge ((totals.get? entry.1).getD .empty) entry.2
      return totals.insert entry.1 merged)
    totals

namespace Report

def merge (first second : Report) : Except MetricClash Report :=
  return ⟨first.calls ++ second.calls, ← first.deviceMetrics.merge second.deviceMetrics⟩

def mergeAll (reports : List Report) : Except MetricClash Report := reports.foldlM merge empty

def mergeAllRight (reports : List Report) : Except MetricClash Report :=
  reports.foldrM merge empty

end Report

end CallProfile
