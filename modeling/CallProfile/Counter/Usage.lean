import CallProfile.Counter.Backend

namespace CallProfile

structure Usage where
  userMicroseconds : Count
  systemMicroseconds : Count
  minorFaults : Count
  majorFaults : Count
  voluntarySwitches : Count
  involuntarySwitches : Count
  blocksIn : Count
  blocksOut : Count
deriving DecidableEq, Inhabited

namespace Usage

def counterNames : List String :=
  ["user-time-us", "system-time-us", "minor-faults", "major-faults", "voluntary-switches",
    "involuntary-switches", "block-in", "block-out"]

def value? (usage : Usage) : String → Option Count
  | "user-time-us" => some usage.userMicroseconds
  | "system-time-us" => some usage.systemMicroseconds
  | "minor-faults" => some usage.minorFaults
  | "major-faults" => some usage.majorFaults
  | "voluntary-switches" => some usage.voluntarySwitches
  | "involuntary-switches" => some usage.involuntarySwitches
  | "block-in" => some usage.blocksIn
  | "block-out" => some usage.blocksOut
  | _ => none

def available (device : Device) : List String := if device.isCpu then counterNames else []

def backendName : String := "rusage"

def read (usage : Usage) (device : Device) (names : List String) : Except CounterError (List Count) :=
  if device.isCpu then
    names.mapM fun counter =>
      match usage.value? counter with
      | none => .error (.unknownCounter counter device)
      | some value => .ok value
  else .error (.deviceUnavailable backendName device)

def backend {σ : Type} (current : ThreadId → σ → Usage) : Backend σ where
  name := backendName
  perThread := true
  available _ device := available device
  read thread device names world := ((current thread world).read device names, world)

end Usage

end CallProfile
