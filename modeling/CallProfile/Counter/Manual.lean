import CallProfile.Counter.Backend
import CallProfile.SortedMap

namespace CallProfile

structure ManualCounters where
  values : SortedMap Device (SortedMap String Count)
deriving DecidableEq

namespace ManualCounters

def empty : ManualCounters := ⟨.empty⟩

instance : Inhabited ManualCounters := ⟨empty⟩

def value? (counters : ManualCounters) (device : Device) (counter : String) : Option Count :=
  (counters.values.get? device).bind (·.get? counter)

/-- Declares a counter; one that is declared already keeps its value. -/
def define (counters : ManualCounters) (device : Device) (counter : String) : ManualCounters :=
  ⟨counters.values.update device fun declared =>
    (declared.getD .empty).update counter fun value => value.getD 0⟩

def add (counters : ManualCounters) (device : Device) (counter : String) (amount : Count) :
    Except CounterError ManualCounters :=
  match counters.values.get? device with
  | none => .error (.unknownCounter counter device)
  | some declared =>
    match declared.get? counter with
    | none => .error (.unknownCounter counter device)
    | some value => .ok ⟨counters.values.insert device (declared.insert counter (value.add amount))⟩

def available (counters : ManualCounters) (device : Device) : List String :=
  match counters.values.get? device with
  | none => []
  | some declared => declared.keys

def backendName : String := "manual"

def read (counters : ManualCounters) (device : Device) (names : List String) :
    Except CounterError (List Count) :=
  match counters.values.get? device with
  | none => .error (.deviceUnavailable backendName device)
  | some declared => names.mapM fun counter =>
    match declared.get? counter with
    | none => .error (.unknownCounter counter device)
    | some value => .ok value

def backend {σ : Type} (counters : σ → ManualCounters) : Backend σ where
  name := backendName
  perThread := false
  available world device := (counters world).available device
  read _ device names world := ((counters world).read device names, world)

end ManualCounters

end CallProfile
