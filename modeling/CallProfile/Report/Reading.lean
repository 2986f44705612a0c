import CallProfile.Device.Parse
import CallProfile.Json.Skip
import CallProfile.Report.Diff

namespace CallProfile

open Json (Reader Found)
open Json.Reader

def Json.nestingLimit : Nat := 127

namespace Device

def ofText (text : String) : Reader Device :=
  match parse text with
  | .ok device => return device
  | .error error => refuse error.message

def read : Reader Device := do ofText (← Json.Reader.text "a string")

end Device

def CallId.read : Reader CallId := return ⟨← natural64⟩

namespace Metric

def Variant.ofText (name : String) : Reader Variant :=
  match Variant.all.find? (·.name = name) with
  | some variant => return variant
  | none => failUnplaced (.unknownVariant name (Variant.all.map Variant.name))

def Variant.read : Reader Variant := placed do
  match ← lookPastSpace with
  | none => failAhead .endInValue
  | some (.char '"') => do
    advance
    Variant.ofText (← textBody)
  | some _ => mismatch "variant identifier"

def readNull : Reader Unit := placed do
  match ← lookPastSpace with
  | none => failAhead .endInValue
  | some (.char 'n') => do
    advance
    word ['u', 'l', 'l']
  | some _ => mismatch "unit"

/-- The tag of a metric: the name of its variant, alone or as the only key of a record that holds `null`. -/
def readTag (room : Nat) : Reader Variant := do
  match ← lookPastSpace with
  | none => failAhead .endInValue
  | some (.char '"') => Variant.read
  | some (.char '{') =>
    if room = 0 then failAhead .tooDeep
    else do
      advance
      let variant ← Variant.read
      colon
      readNull
      match ← lookPastSpace with
      | none => failHere .endInRecord
      | some symbol =>
        if symbol = .char '}' then do
          advance
          return variant
        else failHere .expectedValue
  | some _ => failAhead .expectedValue

def readContent : Variant → Reader Metric
  | .duration => return duration (← real)
  | .count => return count (.ofNat (← natural64))
  | .percent => return percent (← real)
  | .bytes => return bytes (.ofNat (← natural64))
  | .ratio => return ratio (← real)
  | .text => return text (← Json.Reader.text "a string")

def floatOf : Found → Except Json.Cause Float
  | .natural number => .ok (Json.Reader.Number.toFloat (.natural number))
  | .negative size => .ok (Json.Reader.Number.toFloat (.negative size))
  | .real number => .ok number
  | found => .error (.wrongType found "f64")

def countOf : Found → Except Json.Cause Count
  | .natural number => .ok (.ofNat number)
  | .negative size => .error (.wrongValue (.negative size) "u64")
  | found => .error (.wrongType found "u64")

def textOf : Found → Except Json.Cause String
  | .text content => .ok content
  | found => .error (.wrongType found "a string")

def ofFound (variant : Variant) (found : Found) : Except Json.Cause Metric :=
  match variant with
  | .duration => (floatOf found).map fun x => duration x
  | .count => (countOf found).map count
  | .percent => (floatOf found).map fun x => percent x
  | .bytes => (countOf found).map bytes
  | .ratio => (floatOf found).map fun x => ratio x
  | .text => (textOf found).map text

inductive Field where
  | tag
  | content

def nextField : Nat → Bool → Reader (Option Field)
  | 0, _ => failAhead .endInRecord
  | steps + 1, first => do
    if ← moreEntries first then
      let name ← key
      if name = "type" then return some .tag
      else if name = "value" then return some .content
      else do
        colon
        skip
        nextField steps false
    else return none

def field (first : Bool) : Reader (Option Field) := withSteps fun steps => nextField steps first

def endOfFields : Reader Unit := do
  match ← field false with
  | some .tag => failUnplaced (.repeatedField "type")
  | some .content => failUnplaced (.repeatedField "value")
  | none => return ()

def readFields (room : Nat) : Reader Metric := do
  match ← field true with
  | none => failUnplaced (.missingField "type")
  | some .tag => do
    colon
    let variant ← readTag room
    match ← field false with
    | some .tag => failUnplaced (.repeatedField "type")
    | none => failUnplaced (.missingField "value")
    | some .content => do
      colon
      let metric ← readContent variant
      endOfFields
      return metric
  | some .content => do
    colon
    let found ← anyValue room
    match ← field false with
    | some .content => failUnplaced (.repeatedField "value")
    | none => failUnplaced (.missingField "type")
    | some .tag => do
      colon
      let variant ← readTag room
      match ofFound variant found with
      | .error cause => failUnplaced cause
      | .ok metric => do
        endOfFields
        return metric

def readItems (shape : String) : Reader Metric := do
  let variant ← itemAt 0 shape Variant.read
  itemAt 1 shape (readContent variant)

def shape : String := "adjacently tagged enum MetricValue"

def read (room : Nat) : Reader Metric :=
  brackets ⟨shape, some fun _ => readItems shape, some readFields⟩ room

end Metric

/-- Metrics by name; of two with the same name the last one stays. -/
def MetricMap.read (room : Nat) : Reader MetricMap :=
  let entry (room : Nat) (name : String) (metrics : MetricMap) : Reader MetricMap := do
    colon
    return metrics.insert name (← Metric.read room)
  brackets ⟨"a map", none, some fun room => entries (entry room) SortedMap.empty⟩ room

def DeviceTotals.read (room : Nat) : Reader DeviceTotals :=
  let entry (room : Nat) (name : String) (totals : DeviceTotals) : Reader DeviceTotals := do
    let device ← Device.ofText name
    colon
    return totals.insert device (← MetricMap.read room)
  brackets ⟨"a map", none, some fun room => entries (entry room) SortedMap.empty⟩ room

namespace CallRecord

structure Fields where
  name : Option String := none
  device : Option Device := none
  depth : Option UInt32 := none
  metrics : Option MetricMap := none

def readDepth : Reader UInt32 := return .ofNat (← natural32)

def readField (room : Nat) (field : String) (fields : Fields) : Reader Fields :=
  if field = "name" then return { fields with name := ← once field fields.name (Json.Reader.text "a string") }
  else if field = "device" then return { fields with device := ← once field fields.device Device.read }
  else if field = "depth" then return { fields with depth := ← once field fields.depth readDepth }
  else if field = "metrics" then
    return { fields with metrics := ← once field fields.metrics (MetricMap.read room) }
  else do
    colon
    skip
    return fields

def readFields (room : Nat) : Reader CallRecord := do
  let fields ← entries (readField room) {}
  return ⟨← required "name" fields.name, ← required "device" fields.device, ← required "depth" fields.depth,
    ← required "metrics" fields.metrics⟩

def readItems (room : Nat) : Reader CallRecord := do
  let shape := "struct CallRecord with 4 elements"
  return ⟨← itemAt 0 shape (Json.Reader.text "a string"), ← itemAt 1 shape Device.read,
    ← itemAt 2 shape readDepth, ← itemAt 3 shape (MetricMap.read room)⟩

def read (room : Nat) : Reader CallRecord :=
  brackets ⟨"struct CallRecord", some readItems, some readFields⟩ room

end CallRecord

namespace Report

structure Fields where
  calls : Option (List CallRecord) := none
  deviceMetrics : Option DeviceTotals := none

def readField (room : Nat) (field : String) (fields : Fields) : Reader Fields :=
  if field = "calls" then
    return { fields with calls := ← once field fields.calls (list CallRecord.read room) }
  else if field = "device_metrics" then
    return { fields with deviceMetrics := ← once field fields.deviceMetrics (DeviceTotals.read room) }
  else do
    colon
    skip
    return fields

def readFields (room : Nat) : Reader Report := do
  let fields ← entries (readField room) {}
  return ⟨← required "calls" fields.calls, ← required "device_metrics" fields.deviceMetrics⟩

def readItems (room : Nat) : Reader Report := do
  let shape := "struct Report with 2 elements"
  return ⟨← itemAt 0 shape (list CallRecord.read room), ← itemAt 1 shape (DeviceTotals.read room)⟩

def read (room : Nat) : Reader Report := brackets ⟨"struct Report", some readItems, some readFields⟩ room

def ofJson (text : String) : Except Json.Fault Report :=
  run (read Json.nestingLimit) .text (Json.symbols text)

def ofBytes (bytes : ByteArray) : Except Json.Fault Report :=
  run (read Json.nestingLimit) .stream (Json.symbolsOfBytes bytes)

end Report

namespace CallDiff

structure Fields where
  name : Option String := none
  device : Option Device := none
  baselineCount : Option Nat := none
  comparisonCount : Option Nat := none
  baselineSeconds : Option Float := none
  comparisonSeconds : Option Float := none
  deltaSeconds : Option Float := none
  deltaPercent : Option Float := none

def readField (field : String) (fields : Fields) : Reader Fields :=
  if field = "name" then return { fields with name := ← once field fields.name (Json.Reader.text "a string") }
  else if field = "device" then return { fields with device := ← once field fields.device Device.read }
  else if field = "baseline_count" then
    return { fields with baselineCount := ← once field fields.baselineCount natural64 }
  else if field = "comparison_count" then
    return { fields with comparisonCount := ← once field fields.comparisonCount natural64 }
  else if field = "baseline_secs" then
    return { fields with baselineSeconds := ← once field fields.baselineSeconds real }
  else if field = "comparison_secs" then
    return { fields with comparisonSeconds := ← once field fields.comparisonSeconds real }
  else if field = "delta_secs" then
    return { fields with deltaSeconds := ← once field fields.deltaSeconds real }
  else if field = "delta_pct" then
    return { fields with deltaPercent := ← once field fields.deltaPercent real }
  else do
    colon
    skip
    return fields

def readFields : Reader CallDiff := do
  let fields ← entries readField {}
  let name ← required "name" fields.name
  let device ← required "device" fields.device
  let baselineCount ← required "baseline_count" fields.baselineCount
  let comparisonCount ← required "comparison_count" fields.comparisonCount
  let baselineSeconds ← required "baseline_secs" fields.baselineSeconds
  let comparisonSeconds ← required "comparison_secs" fields.comparisonSeconds
  let deltaSeconds ← required "delta_secs" fields.deltaSeconds
  let deltaPercent ← required "delta_pct" fields.deltaPercent
  return ⟨⟨name, device⟩, ⟨baselineCount, baselineSeconds⟩, ⟨comparisonCount, comparisonSeconds⟩, deltaSeconds,
    deltaPercent⟩

def readItems : Reader CallDiff := do
  let shape := "struct CallDiff with 8 elements"
  let name ← itemAt 0 shape (Json.Reader.text "a string")
  let device ← itemAt 1 shape Device.read
  let baselineCount ← itemAt 2 shape natural64
  let comparisonCount ← itemAt 3 shape natural64
  let baselineSeconds ← itemAt 4 shape real
  let comparisonSeconds ← itemAt 5 shape real
  let deltaSeconds ← itemAt 6 shape real
  let deltaPercent ← itemAt 7 shape real
  return ⟨⟨name, device⟩, ⟨baselineCount, baselineSeconds⟩, ⟨comparisonCount, comparisonSeconds⟩, deltaSeconds,
    deltaPercent⟩

def read (room : Nat) : Reader CallDiff :=
  brackets ⟨"struct CallDiff", some fun _ => readItems, some fun _ => readFields⟩ room

end CallDiff

namespace ReportDiff

structure Fields where
  baselineCalls : Option Nat := none
  comparisonCalls : Option Nat := none
  baselineSeconds : Option Float := none
  comparisonSeconds : Option Float := none
  calls : Option (List CallDiff) := none

def readField (room : Nat) (field : String) (fields : Fields) : Reader Fields :=
  if field = "baseline_calls" then
    return { fields with baselineCalls := ← once field fields.baselineCalls natural64 }
  else if field = "comparison_calls" then
    return { fields with comparisonCalls := ← once field fields.comparisonCalls natural64 }
  else if field = "baseline_duration_secs" then
    return { fields with baselineSeconds := ← once field fields.baselineSeconds real }
  else if field = "comparison_duration_secs" then
    return { fields with comparisonSeconds := ← once field fields.comparisonSeconds real }
  else if field = "calls" then
    return { fields with calls := ← once field fields.calls (list CallDiff.read room) }
  else do
    colon
    skip
    return fields

def readFields (room : Nat) : Reader ReportDiff := do
  let fields ← entries (readField room) {}
  return ⟨← required "baseline_calls" fields.baselineCalls, ← required "comparison_calls" fields.comparisonCalls,
    ← required "baseline_duration_secs" fields.baselineSeconds,
    ← required "comparison_duration_secs" fields.comparisonSeconds, ← required "calls" fields.calls⟩

def readItems (room : Nat) : Reader ReportDiff := do
  let shape := "struct ReportDiff with 5 elements"
  return ⟨← itemAt 0 shape natural64, ← itemAt 1 shape natural64, ← itemAt 2 shape real,
    ← itemAt 3 shape real, ← itemAt 4 shape (list CallDiff.read room)⟩

def read (room : Nat) : Reader ReportDiff :=
  brackets ⟨"struct ReportDiff", some readItems, some readFields⟩ room

end ReportDiff

def Json.decode {α : Type} (body : Reader α) (text : String) : Except Json.Fault α :=
  run body .text (Json.symbols text)

end CallProfile
