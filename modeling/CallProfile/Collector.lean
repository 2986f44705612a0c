import CallProfile.Collector.Hardware

namespace CallProfile

abbrev Clock (σ : Type) := σ → Nat × σ

structure Callbacks (σ : Type) where
  name : String
  onBegin : ThreadId → CallId → Device → σ → Except String Unit × σ
  onEnd : ThreadId → CallId → σ → Except String MetricMap × σ

inductive Collector (σ : Type) where
  | wallClock (clock : Clock σ) (calls : OpenCalls Nat)
  | hardware (collector : HardwareCollector σ)
  | user (callbacks : Callbacks σ) (calls : OpenCalls Unit)
  | adapter (inner : Collector σ) (calls : OpenCalls Unit)

namespace Collector

variable {σ : Type}

def ofClock (clock : Clock σ) : Collector σ := wallClock clock .empty

def ofCallbacks (callbacks : Callbacks σ) : Collector σ := user callbacks .empty

def wrapping (inner : Collector σ) : Collector σ := adapter inner .empty

def wallClockName : String := "wall clock"

def name : Collector σ → String
  | wallClock _ _ => wallClockName
  | hardware collector => collector.name
  | user callbacks _ => callbacks.name
  | adapter inner _ => inner.name

/-- Whether what the collector takes at the end of a call is only right on the thread of its beginning. -/
def threadBound : Collector σ → Bool
  | hardware collector => collector.backend.perThread
  | _ => false

def openIds : Collector σ → List CallId
  | wallClock _ calls => calls.keys
  | hardware collector => collector.calls.keys
  | user _ calls => calls.keys
  | adapter _ calls => calls.keys

def elapsed (start stop : Nat) : Metric :=
  let nanoseconds := stop - start
  .ofSpan (.ofNat (nanoseconds / 1000000000)) (.ofNat (nanoseconds % 1000000000))

def blame {α : Type} (name : String) : Except String α → Except ProfileError α
  | .ok value => .ok value
  | .error reason => .error (.collector name reason)

def beginCall (thread : ThreadId) (id : CallId) (device : Device) :
    Collector σ → σ → Except ProfileError Unit × Collector σ × σ
  | wallClock clock calls, world =>
    let (now, world) := clock world
    match calls.start wallClockName id now with
    | .error error => (.error error, wallClock clock calls, world)
    | .ok calls => (.ok (), wallClock clock calls, world)
  | hardware collector, world =>
    let (result, collector, world) := collector.beginCall thread id device world
    (result, hardware collector, world)
  | user callbacks calls, world =>
    let (result, world) := callbacks.onBegin thread id device world
    match (blame callbacks.name result).bind fun _ => calls.start callbacks.name id () with
    | .error error => (.error error, user callbacks calls, world)
    | .ok calls => (.ok (), user callbacks calls, world)
  | adapter inner calls, world =>
    let (result, inner, world) := inner.beginCall thread id device world
    match (blame inner.name (result.mapError ProfileError.message)).bind fun _ => calls.start inner.name id () with
    | .error error => (.error error, adapter inner calls, world)
    | .ok calls => (.ok (), adapter inner calls, world)

/-- Tells a collector that a call ends, which closes the call even if its metrics cannot be given. -/
def endCall (thread : ThreadId) (id : CallId) :
    Collector σ → σ → Except ProfileError MetricMap × Collector σ × σ
  | wallClock clock calls, world =>
    match calls.close id with
    | .error error => (.error error, wallClock clock calls, world)
    | .ok (start, calls) =>
      let (now, world) := clock world
      (.ok (.ofList [(durationName, elapsed start now)]), wallClock clock calls, world)
  | hardware collector, world =>
    let (result, collector, world) := collector.endCall thread id world
    (result, hardware collector, world)
  | user callbacks calls, world =>
    match calls.close id with
    | .error error => (.error error, user callbacks calls, world)
    | .ok (_, calls) =>
      let (result, world) := callbacks.onEnd thread id world
      (blame callbacks.name result, user callbacks calls, world)
  | adapter inner calls, world =>
    match calls.close id with
    | .error error => (.error error, adapter inner calls, world)
    | .ok (_, calls) =>
      let (result, inner, world) := inner.endCall thread id world
      (blame inner.name (result.mapError ProfileError.message), adapter inner calls, world)

def discardCall (thread : ThreadId) (id : CallId) (collector : Collector σ) (world : σ) :
    Except ProfileError Unit × Collector σ × σ :=
  match collector with
  | hardware collector =>
    let (result, collector, world) := collector.discardCall id world
    (result, hardware collector, world)
  | collector =>
    let (result, collector, world) := collector.endCall thread id world
    (result.map fun _ => (), collector, world)

end Collector

end CallProfile
