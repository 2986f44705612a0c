import CallProfile.Report
import CallProfile.Decimal.TotalOrder

namespace CallProfile

structure CallTotals where
  count : Nat
  seconds : Double
deriving DecidableEq, BEq

namespace CallTotals

def none : CallTotals := ⟨0, 0.0⟩

def add (totals : CallTotals) (call : CallRecord) : CallTotals :=
  ⟨totals.count + 1, totals.seconds + call.duration?.getD 0.0⟩

end CallTotals

def Report.totalsByCall (report : Report) : SortedMap CallKey CallTotals :=
  report.calls.foldl
    (fun totals call => totals.update call.key fun group => (group.getD .none).add call) .empty

structure CallDiff where
  key : CallKey
  baseline : CallTotals
  comparison : CallTotals
  deltaSeconds : Double
  deltaPercent : Float
deriving DecidableEq

def CallDiff.between (key : CallKey) (baseline comparison : CallTotals) : CallDiff :=
  let delta := comparison.seconds - baseline.seconds
  let before := baseline.seconds.toFloat
  let percent := if 0.0 < before then delta.toFloat / before * 100.0 else 0.0
  ⟨key, baseline, comparison, delta, percent⟩

structure ReportDiff where
  baselineCalls : Nat
  comparisonCalls : Nat
  baselineSeconds : Float
  comparisonSeconds : Float
  calls : List CallDiff
deriving DecidableEq

namespace Report

def callKeys (baseline comparison : Report) : List CallKey :=
  (SortedMap.ofList ((baseline.calls ++ comparison.calls).map fun call => (call.key, ()))).keys

def diff (baseline comparison : Report) : ReportDiff where
  baselineCalls := baseline.calls.length
  comparisonCalls := comparison.calls.length
  baselineSeconds := baseline.totalDuration
  comparisonSeconds := comparison.totalDuration
  calls :=
    let before := baseline.totalsByCall
    let after := comparison.totalsByCall
    let groups := (baseline.callKeys comparison).map fun key =>
      CallDiff.between key ((before.get? key).getD .none) ((after.get? key).getD .none)
    Decimal.sortDescending (fun group => group.deltaSeconds.abs) groups

end Report

end CallProfile
