import CallProfile.Device
import CallProfile.Metric

namespace CallProfile

structure CallId where
  number : Nat
deriving DecidableEq, Inhabited

namespace CallId

instance : Ord CallId := ⟨compareOn number⟩

instance : Std.TransOrd CallId := inferInstanceAs (Std.TransCmp (compareOn number))

instance : Std.LawfulEqOrd CallId where
  eq_of_compare {left right} same := by
    have same : compare left.number right.number = .eq := same
    have : left.number = right.number := Std.LawfulEqCmp.eq_of_compare same
    cases left; cases right; simp_all

def text (id : CallId) : String := "#" ++ Decimal.natural id.number

instance : ToString CallId := ⟨text⟩

end CallId

structure CallRecord where
  name : String
  device : Device
  /-- How many calls were open on its thread when it began, itself included. -/
  depth : UInt32
  metrics : MetricMap
deriving DecidableEq, BEq

namespace CallRecord

def metric? (call : CallRecord) (name : String) : Option Metric := call.metrics.get? name

def duration? (call : CallRecord) : Option Double := (call.metric? durationName).bind Metric.duration?

def seconds? (call : CallRecord) : Option Float := call.duration?.map Double.toFloat

def isTruncated (call : CallRecord) : Bool := call.metrics.contains truncatedName

end CallRecord

structure CallKey where
  name : String
  device : Device
deriving DecidableEq

namespace CallKey

instance : Ord CallKey := ⟨compareLex (compareOn name) (compareOn device)⟩

instance : Std.TransOrd CallKey :=
  inferInstanceAs (Std.TransCmp (compareLex (compareOn name) (compareOn device)))

instance : Std.LawfulEqOrd CallKey where
  eq_of_compare {left right} same := by
    obtain ⟨sameName, sameDevice⟩ := compareLex_eq_eq.mp same
    have sameName : left.name = right.name := Std.LawfulEqCmp.eq_of_compare sameName
    have sameDevice : left.device = right.device := Std.LawfulEqCmp.eq_of_compare sameDevice
    cases left; cases right; simp_all

end CallKey

def CallRecord.key (call : CallRecord) : CallKey := ⟨call.name, call.device⟩

end CallProfile
