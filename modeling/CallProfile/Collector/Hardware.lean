import CallProfile.Collector.OpenCalls
import CallProfile.Counter.Backend

namespace CallProfile

abbrev CounterPlan := SortedMap Device (List String)

structure HardwareCollector (σ : Type) where
  backend : Backend σ
  plan : CounterPlan
  calls : OpenCalls (Option (Device × List Count))

namespace HardwareCollector

variable {σ : Type}

def unsupported? (backend : Backend σ) (plan : CounterPlan) (world : σ) : Option (Device × String) :=
  plan.entries.findSome? fun entry =>
    (entry.2.find? fun counter => !backend.supports world entry.1 counter).map (entry.1, ·)

def ofPlan (backend : Backend σ) (plan : CounterPlan) (world : σ) :
    Except ProfileError (HardwareCollector σ) :=
  match unsupported? backend plan world with
  | some (device, counter) => .error (.unsupportedCounter counter device.text)
  | none => .ok ⟨backend, plan, .empty⟩

def name (collector : HardwareCollector σ) : String := collector.backend.name ++ " counters"

def countersFor (collector : HardwareCollector σ) (device : Device) : List String :=
  (collector.plan.get? device).getD []

def read (collector : HardwareCollector σ) (thread : ThreadId) (device : Device) (names : List String)
    (world : σ) : Except ProfileError (List Count) × σ :=
  match collector.backend.read thread device names world with
  | (.error error, world) => (.error (.collector collector.name error.message), world)
  | (.ok values, world) =>
    if values.length = names.length then (.ok values, world)
    else
      (.error (.collector collector.name
        ("backend returned " ++ Decimal.natural values.length ++ " values for " ++
          Decimal.natural names.length ++ " counters")), world)

/-- How far each counter rose; of two entries for one counter the later one counts. -/
def growths (names : List String) (before after : List Count) : MetricMap :=
  .ofList ((names.zip (before.zip after)).map fun entry =>
    (entry.1, .count (Count.growth entry.2.1 entry.2.2)))

def startValues (collector : HardwareCollector σ) (thread : ThreadId) (device : Device) (world : σ) :
    Except ProfileError (Option (Device × List Count)) × σ :=
  match collector.plan.get? device with
  | none => (.ok none, world)
  | some names =>
    let (values, world) := collector.read thread device names world
    (values.map fun values => some (device, values), world)

def beginCall (collector : HardwareCollector σ) (thread : ThreadId) (id : CallId) (device : Device) (world : σ) :
    Except ProfileError Unit × HardwareCollector σ × σ :=
  let (start, world) := collector.startValues thread device world
  match start.bind (collector.calls.start collector.name id) with
  | .error error => (.error error, collector, world)
  | .ok calls => (.ok (), { collector with calls }, world)

def endCall (collector : HardwareCollector σ) (thread : ThreadId) (id : CallId) (world : σ) :
    Except ProfileError MetricMap × HardwareCollector σ × σ :=
  match collector.calls.close id with
  | .error error => (.error error, collector, world)
  | .ok (none, calls) => (.ok .empty, { collector with calls }, world)
  | .ok (some (device, before), calls) =>
    let names := collector.countersFor device
    match collector.read thread device names world with
    | (.error error, world) => (.error error, { collector with calls }, world)
    | (.ok after, world) => (.ok (growths names before after), { collector with calls }, world)

def discardCall (collector : HardwareCollector σ) (id : CallId) (world : σ) :
    Except ProfileError Unit × HardwareCollector σ × σ :=
  match collector.calls.close id with
  | .error error => (.error error, collector, world)
  | .ok (_, calls) => (.ok (), { collector with calls }, world)

end HardwareCollector

end CallProfile
