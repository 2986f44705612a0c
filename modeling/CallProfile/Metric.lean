import CallProfile.Count
import CallProfile.Double
import CallProfile.SortedMap

namespace CallProfile

inductive Metric where
  | duration (seconds : Double)
  | count (number : Count)
  | percent (share : Double)
  | bytes (number : Count)
  | ratio (share : Double)
  | text (content : String)
deriving DecidableEq, BEq, Inhabited

inductive Metric.Variant where
  | duration | count | percent | bytes | ratio | text
deriving DecidableEq, Inhabited

namespace Metric

def Variant.all : List Variant := [.duration, .count, .percent, .bytes, .ratio, .text]

def Variant.name : Variant → String
  | duration => "duration"
  | count => "count"
  | percent => "percent"
  | bytes => "bytes"
  | ratio => "ratio"
  | text => "text"

def Variant.isAdditive : Variant → Bool
  | duration | count | bytes | ratio => true
  | percent | text => false

def variant : Metric → Variant
  | duration _ => .duration
  | count _ => .count
  | percent _ => .percent
  | bytes _ => .bytes
  | ratio _ => .ratio
  | text _ => .text

def isAdditive (metric : Metric) : Bool := metric.variant.isAdditive

def duration? : Metric → Option Double
  | duration seconds => some seconds
  | _ => none

def seconds? (metric : Metric) : Option Float := metric.duration?.map Double.toFloat

def ofSpan (seconds : UInt64) (nanoseconds : UInt32) : Metric :=
  duration (seconds.toFloat + nanoseconds.toFloat / 1e9 : Float)

def combine : Metric → Metric → Option Metric
  | duration left, duration right => some (duration (left + right))
  | count left, count right => some (count (left.add right))
  | bytes left, bytes right => some (bytes (left.add right))
  | ratio left, ratio right => some (ratio (left + right))
  | _, _ => none

theorem combine_isSome_iff (left right : Metric) :
    (left.combine right).isSome ↔ left.variant = right.variant ∧ left.isAdditive := by
  cases left <;> cases right <;> simp [combine, variant, isAdditive, Variant.isAdditive]

theorem variant_of_combine {left right sum : Metric} (h : left.combine right = some sum) :
    sum.variant = left.variant := by
  cases left <;> cases right <;> simp [combine] at h <;> subst h <;> rfl

end Metric

abbrev MetricMap := SortedMap String Metric

structure MetricClash where
  name : String
  left : Metric.Variant
  right : Metric.Variant
deriving DecidableEq

namespace MetricClash

def message (clash : MetricClash) : String :=
  "cannot combine metric `" ++ clash.name ++ "`: " ++ clash.left.name ++ " and " ++ clash.right.name ++
    " are incompatible"

end MetricClash

def Metric.combineUnder (name : String) (left right : Metric) : Except MetricClash Metric :=
  match left.combine right with
  | some sum => .ok sum
  | none => .error ⟨name, left.variant, right.variant⟩

/-- Adds a value to the total of its name, which it begins if there is none. -/
def MetricMap.accumulate (totals : MetricMap) (name : String) (value : Metric) : Except MetricClash MetricMap :=
  match totals.get? name with
  | none => .ok (totals.insert name value)
  | some total => (total.combineUnder name value).map (totals.insert name)

/-- Adds a value to the total of its name if the two have a sum, and leaves the totals alone if not. -/
def MetricMap.accumulateOrSkip (totals : MetricMap) (name : String) (value : Metric) : MetricMap :=
  match MetricMap.accumulate totals name value with
  | .ok totals => totals
  | .error _ => totals

def durationName : String := "Duration"

def truncatedName : String := "truncated"

def callsName : String := "Calls"

end CallProfile
