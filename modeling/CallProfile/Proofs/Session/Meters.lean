import CallProfile.Proofs.Collector.Bookkeeping
import CallProfile.Proofs.Counter.Manual
import CallProfile.Proofs.Session.Config
import CallProfile.Proofs.Session.Requests

namespace CallProfile

namespace ManualCounters

variable {τ : Type}

def beside (tick : Clock τ) : Clock (ManualCounters × τ) :=
  fun world => ((tick world.2).1, world.1, (tick world.2).2)

def manual : Backend (ManualCounters × τ) := backend Prod.fst

def Readable (counters : ManualCounters) (plan : CounterPlan) : Prop :=
  ∀ device names, plan.get? device = some names →
    names ≠ [] ∧ ∀ counter ∈ names, (counters.value? device counter).isSome

def reading (counters : ManualCounters) (plan : CounterPlan) (device : Device) : Option (Device × List Count) :=
  (plan.get? device).map fun names => (device, names.map (counters.value device))

def increments (before after : ManualCounters) (plan : CounterPlan) (device : Device) : MetricMap :=
  .ofList (((plan.get? device).getD []).map fun counter =>
    (counter, .count (Count.growth (before.value device counter) (after.value device counter))))

end ManualCounters

namespace Session

open ManualCounters

variable {τ : Type} (tick : Clock τ) {plan : CounterPlan}

abbrev timer (calls : OpenCalls Nat) : Collector (ManualCounters × τ) := .wallClock (beside tick) calls

abbrev gauge (plan : CounterPlan) (calls : OpenCalls (Option (Device × List Count))) : Collector (ManualCounters × τ) :=
  .hardware ⟨manual, plan, calls⟩

section Timer

variable {calls : OpenCalls Nat} {id : CallId} (thread : ThreadId) (world : ManualCounters × τ)

theorem beginCall_timer (new : id ∉ calls.keys) (device : Device) :
    (timer tick calls).beginCall thread id device world =
      (.ok (), timer tick (calls.insert id (tick world.2).1), world.1, (tick world.2).2) := by
  simp only [Collector.beginCall, beside, OpenCalls.start_of_closed calls _ new]

theorem endCall_timer {start : Nat} (found : calls.get? id = some start) :
    (timer tick calls).endCall thread id world =
      (.ok (.ofList [(durationName, Collector.elapsed start (tick world.2).1)]),
        timer tick (calls.erase id), world.1, (tick world.2).2) := by
  simp only [Collector.endCall, OpenCalls.close, found, beside]

end Timer

section Gauge

variable {calls : OpenCalls (Option (Device × List Count))} {id : CallId} (thread : ThreadId)
  {world : ManualCounters × τ}

theorem read_manual (readable : world.1.Readable plan) {device : Device} {names : List String}
    (found : plan.get? device = some names) :
    (⟨manual, plan, calls⟩ : HardwareCollector (ManualCounters × τ)).read thread device names world =
      (.ok (names.map (world.1.value device)), world) := by
  obtain ⟨listed, declared⟩ := readable device names found
  have reads : (manual : Backend (ManualCounters × τ)).read thread device names world =
      (.ok (names.map (world.1.value device)), world) := by
    show (world.1.read device names, world) = _
    rw [read_of_declared listed declared]
  simp only [HardwareCollector.read, reads, List.length_map, if_true]

theorem beginCall_gauge (readable : world.1.Readable plan) (new : id ∉ calls.keys) (device : Device) :
    (gauge plan calls).beginCall thread id device world =
      (.ok (), gauge plan (calls.insert id (world.1.reading plan device)), world) := by
  have noted : (⟨manual, plan, calls⟩ : HardwareCollector (ManualCounters × τ)).startValues thread device world =
      (.ok (world.1.reading plan device), world) := by
    unfold HardwareCollector.startValues reading
    cases found : plan.get? device with
    | none => rfl
    | some names =>
      simp only [read_manual thread readable found]
      rfl
  simp only [Collector.beginCall, HardwareCollector.beginCall, noted, Except.bind, OpenCalls.start_of_closed calls _ new]

theorem growths_map (device : Device) (names : List String) (before after : ManualCounters) :
    HardwareCollector.growths names (names.map (before.value device)) (names.map (after.value device)) =
      .ofList (names.map fun counter =>
        (counter, .count (Count.growth (before.value device counter) (after.value device counter)))) := by
  rw [HardwareCollector.growths]
  congr 1
  induction names with
  | nil => rfl
  | cons counter rest ih => simpa using ih

theorem endCall_gauge (readable : world.1.Readable plan) {before : ManualCounters} {device : Device}
    (found : calls.get? id = some (before.reading plan device)) :
    (gauge plan calls).endCall thread id world =
      (.ok (increments before world.1 plan device), gauge plan (calls.erase id), world) := by
  have closed : calls.close id = .ok (before.reading plan device, calls.erase id) := by
    simp only [OpenCalls.close, found]
  simp only [Collector.endCall, HardwareCollector.endCall, closed]
  cases listed : plan.get? device with
  | none =>
    simp only [reading, increments, listed, Option.map_none, Option.getD_none, List.map_nil]
    rfl
  | some names =>
    simp only [reading, increments, listed, Option.map_some, Option.getD_some, HardwareCollector.countersFor,
      read_manual thread readable listed, growths_map]

end Gauge

/-- What the configured collectors have noted of the open calls. -/
structure Meters where
  times : Option (OpenCalls Nat)
  readings : Option (OpenCalls (Option (Device × List Count)))

namespace Meters

def collectors (plan : CounterPlan) (meters : Meters) : List (Collector (ManualCounters × τ)) :=
  (meters.times.map (timer tick)).toList ++ (meters.readings.map (gauge plan)).toList

def noting (meters : Meters) (id : CallId) (now : Nat) (note : Option (Device × List Count)) : Meters :=
  ⟨meters.times.map (·.insert id now), meters.readings.map (·.insert id note)⟩

def without (meters : Meters) (id : CallId) : Meters :=
  ⟨meters.times.map (·.erase id), meters.readings.map (·.erase id)⟩

/-- The meters know when a call began, and how the counters of its device stood then. -/
structure Know (meters : Meters) (plan : CounterPlan) (id : CallId) (device : Device) (before : ManualCounters) :
    Prop where
  timed : ∀ calls, meters.times = some calls → (calls.get? id).isSome
  noted : ∀ calls, meters.readings = some calls → calls.get? id = some (before.reading plan device)

structure Below (meters : Meters) (bound : CallId) : Prop where
  timed : ∀ calls, meters.times = some calls → ∀ id ∈ calls.keys, id.number < bound.number
  noted : ∀ calls, meters.readings = some calls → ∀ id ∈ calls.keys, id.number < bound.number

variable {meters : Meters} {id other : CallId} {device : Device} {before : ManualCounters}

theorem Know.noting_self (meters : Meters) (plan : CounterPlan) (id : CallId) (now : Nat) (device : Device)
    (before : ManualCounters) : (meters.noting id now (before.reading plan device)).Know plan id device before := by
  constructor
  · intro calls found
    obtain ⟨earlier, -, rfl⟩ := Option.map_eq_some_iff.mp found
    simp
  · intro calls found
    obtain ⟨earlier, -, rfl⟩ := Option.map_eq_some_iff.mp found
    simp

theorem Know.noting (know : meters.Know plan id device before) (apart : id ≠ other) (now : Nat)
    (note : Option (Device × List Count)) : (meters.noting other now note).Know plan id device before := by
  constructor
  · intro calls found
    obtain ⟨earlier, here, rfl⟩ := Option.map_eq_some_iff.mp found
    rw [SortedMap.get?_insert_of_ne _ apart]
    exact know.timed earlier here
  · intro calls found
    obtain ⟨earlier, here, rfl⟩ := Option.map_eq_some_iff.mp found
    rw [SortedMap.get?_insert_of_ne _ apart]
    exact know.noted earlier here

theorem Know.without (know : meters.Know plan id device before) (apart : id ≠ other) :
    (meters.without other).Know plan id device before := by
  constructor
  · intro calls found
    obtain ⟨earlier, here, rfl⟩ := Option.map_eq_some_iff.mp found
    rw [SortedMap.get?_erase_of_ne _ apart]
    exact know.timed earlier here
  · intro calls found
    obtain ⟨earlier, here, rfl⟩ := Option.map_eq_some_iff.mp found
    rw [SortedMap.get?_erase_of_ne _ apart]
    exact know.noted earlier here

theorem below_insert {ν : Type} {calls : OpenCalls ν} (below : ∀ other ∈ calls.keys, other.number < id.number)
    (note : ν) : ∀ other ∈ SortedMap.keys (calls.insert id note), other.number < id.number + 1 := by
  intro other member
  rcases SortedMap.mem_keys_insert.mp member with rfl | member
  · exact Nat.lt_succ_self _
  · exact Nat.lt_succ_of_lt (below other member)

theorem Below.noting (below : meters.Below id) (now : Nat) (note : Option (Device × List Count)) :
    (meters.noting id now note).Below ⟨id.number + 1⟩ := by
  constructor
  · intro calls found
    obtain ⟨earlier, here, rfl⟩ := Option.map_eq_some_iff.mp found
    exact below_insert (below.timed earlier here) now
  · intro calls found
    obtain ⟨earlier, here, rfl⟩ := Option.map_eq_some_iff.mp found
    exact below_insert (below.noted earlier here) note

theorem Below.without (below : meters.Below id) (other : CallId) : (meters.without other).Below id := by
  constructor
  · intro calls found one member
    obtain ⟨earlier, here, rfl⟩ := Option.map_eq_some_iff.mp found
    exact below.timed earlier here one (SortedMap.mem_keys_erase.mp member).2
  · intro calls found one member
    obtain ⟨earlier, here, rfl⟩ := Option.map_eq_some_iff.mp found
    exact below.noted earlier here one (SortedMap.mem_keys_erase.mp member).2

theorem marks_noting (now : Nat) (note : Option (Device × List Count)) :
    ((meters.noting id now note).collectors tick plan).map (fun _ => true) =
      (meters.collectors tick plan).map fun _ => true := by
  obtain ⟨times, readings⟩ := meters
  cases times <;> cases readings <;> rfl

theorem marks_without :
    ((meters.without id).collectors tick plan).map (fun _ => true) =
      (meters.collectors tick plan).map fun _ => true := by
  obtain ⟨times, readings⟩ := meters
  cases times <;> cases readings <;> rfl

end Meters

theorem openWith_readings (world : ManualCounters × τ) (readable : world.1.Readable plan)
    {readings : Option (OpenCalls (Option (Device × List Count)))} {id : CallId}
    (new : ∀ calls, readings = some calls → id ∉ calls.keys) (thread : ThreadId) (device : Device) :
    openWith thread id device .empty world (Meters.collectors tick plan ⟨none, readings⟩) =
      ⟨Meters.collectors tick plan ⟨none, readings.map (·.insert id (world.1.reading plan device))⟩,
        (Meters.collectors tick plan ⟨none, readings⟩).map fun _ => true, .empty, world⟩ := by
  cases readings with
  | none => rfl
  | some calls =>
    simp [Meters.collectors, openWith, beginCall_gauge thread readable (new calls rfl) device]

theorem openWith_meters {world : ManualCounters × τ} (readable : world.1.Readable plan) {meters : Meters} {id : CallId}
    (below : meters.Below id) (thread : ThreadId) (device : Device) :
    ∃ now rest, openWith thread id device .empty world (meters.collectors tick plan) =
      ⟨(meters.noting id now (world.1.reading plan device)).collectors tick plan,
        (meters.collectors tick plan).map fun _ => true, .empty, (world.1, rest)⟩ := by
  obtain ⟨times, readings⟩ := meters
  have unread : ∀ calls, readings = some calls → id ∉ calls.keys :=
    fun calls here member => Nat.lt_irrefl _ (below.noted calls here id member)
  cases times with
  | none => exact ⟨0, world.2, openWith_readings tick world readable unread thread device⟩
  | some calls =>
    have unknown : id ∉ calls.keys := fun member => Nat.lt_irrefl _ (below.timed calls rfl id member)
    have begins := beginCall_timer tick thread world unknown device
    have rest := openWith_readings tick (world.1, (tick world.2).2) readable unread thread device
    refine ⟨(tick world.2).1, (tick world.2).2, ?_⟩
    simp only [Meters.collectors, Option.map_some, Option.toList_some, List.cons_append, List.nil_append, openWith, begins,
      Meters.noting, List.map_cons]
    simp only [Meters.collectors, Option.map_none, Option.toList_none, List.nil_append] at rest
    rw [rest]

/-- What a call is measured by: the time it took, if there is a timer, and the increments of its counters. -/
structure Measured (plan : CounterPlan) (before after : ManualCounters) (device : Device) (metrics : MetricMap) : Prop where
  counted : ∀ names, plan.get? device = some names → ∀ counter ∈ names,
    metrics.get? counter = some (.count (Count.growth (before.value device counter) (after.value device counter)))
  others : ∀ name metric, metrics.get? name = some metric →
    (∃ names, plan.get? device = some names ∧ name ∈ names) ∨ name = durationName ∧ ∃ seconds, metric = .duration seconds

theorem get?_increments (before after : ManualCounters) (device : Device) (counter : String) :
    (increments before after plan device).get? counter =
      if counter ∈ (plan.get? device).getD [] then
        some (.count (Count.growth (before.value device counter) (after.value device counter)))
      else none := by
  rw [increments, SortedMap.ofList, SortedMap.get?_insertAll_map, SortedMap.get?_empty]

theorem measured_of_increments {metrics : MetricMap} (before after : ManualCounters) (device : Device)
    (timing : ∀ name metric, metrics.get? name = some metric → name = durationName ∧ ∃ seconds, metric = .duration seconds) :
    Measured plan before after device (metrics.insertAll (increments before after plan device).entries) := by
  constructor
  · intro names found counter member
    rw [SortedMap.get?_insertAll_entries, get?_increments, found]
    simp [member]
  · intro name metric known
    rw [SortedMap.get?_insertAll_entries, get?_increments] at known
    split at known
    next listed =>
      cases found : plan.get? device with
      | none => simp [found] at listed
      | some names => exact .inl ⟨names, rfl, by simpa [found] using listed⟩
    next => exact .inr (timing name metric known)

section Closing

variable {call : OpenCall} (thread : ThreadId) (world : ManualCounters × τ)

theorem closeOne_timer {calls : OpenCalls Nat} {start : Nat} (found : calls.get? call.id = some start)
    (metrics : MetricMap) :
    closeOne thread call (timer tick calls) metrics world =
      (timer tick (calls.erase call.id),
        metrics.insertAll
          (SortedMap.ofList [(durationName, Collector.elapsed start (tick world.2).1)] : MetricMap).entries,
        world.1, (tick world.2).2) := by
  simp [closeOne, Collector.threadBound, endCall_timer tick thread world found]

theorem closeOne_gauge (readable : world.1.Readable plan) {calls : OpenCalls (Option (Device × List Count))}
    {before : ManualCounters} {device : Device} (found : calls.get? call.id = some (before.reading plan device))
    (metrics : MetricMap) :
    closeOne thread call (gauge plan calls) metrics world =
      (gauge plan (calls.erase call.id),
        metrics.insertAll (increments before world.1 plan device).entries, world) := by
  have unbound : (manual : Backend (ManualCounters × τ)).perThread = false := rfl
  simp [closeOne, Collector.threadBound, unbound, endCall_gauge thread readable found]

theorem closeWith_readings (readable : world.1.Readable plan)
    {readings : Option (OpenCalls (Option (Device × List Count)))} (bare : readings = none → plan.isEmpty = true)
    {before : ManualCounters} {device : Device}
    (noted : ∀ calls, readings = some calls → calls.get? call.id = some (before.reading plan device))
    (metrics : MetricMap) :
    closeWith thread call metrics world (Meters.collectors tick plan ⟨none, readings⟩)
        ((Meters.collectors tick plan ⟨none, readings⟩).map fun _ => true) =
      ⟨Meters.collectors tick plan ⟨none, readings.map (·.erase call.id)⟩,
        metrics.insertAll (increments before world.1 plan device).entries, world⟩ := by
  cases readings with
  | none =>
    have nothing : increments before world.1 plan device = .empty := by
      rw [increments, SortedMap.get?_of_isEmpty (bare rfl)]
      rfl
    rw [nothing]
    rfl
  | some calls =>
    simp [Meters.collectors, closeWith, closeOne_gauge thread world readable (noted calls rfl)]

theorem closeWith_meters (readable : world.1.Readable plan) {meters : Meters}
    (bare : meters.readings = none → plan.isEmpty = true) {before : ManualCounters} {device : Device}
    (know : meters.Know plan call.id device before) :
    ∃ metrics rest, Measured plan before world.1 device metrics ∧
      closeWith thread call .empty world (meters.collectors tick plan)
          ((meters.collectors tick plan).map fun _ => true) =
        ⟨(meters.without call.id).collectors tick plan, metrics, (world.1, rest)⟩ := by
  obtain ⟨times, readings⟩ := meters
  cases times with
  | none =>
    exact ⟨_, _, measured_of_increments _ _ _ (by simp),
      closeWith_readings tick thread world readable bare know.noted .empty⟩
  | some calls =>
    obtain ⟨start, found⟩ := Option.isSome_iff_exists.mp (know.timed calls rfl)
    have closes := closeOne_timer tick thread world found .empty
    let spent : Metric := Collector.elapsed start (tick world.2).1
    let timing : MetricMap := SortedMap.insertAll .empty (SortedMap.ofList [(durationName, spent)] : MetricMap).entries
    have below := closeWith_readings tick thread (world.1, (tick world.2).2) readable bare know.noted timing
    have durations : ∀ name metric, timing.get? name = some metric →
        name = durationName ∧ ∃ seconds, metric = .duration seconds := by
      intro name metric known
      rw [SortedMap.get?_insertAll_entries, SortedMap.get?_empty, Option.or_none, SortedMap.ofList] at known
      simp only [SortedMap.insertAll, List.foldl_cons, List.foldl_nil, SortedMap.get?_insert] at known
      split at known
      next own => exact ⟨own, _, (Option.some.inj known).symm⟩
      next => simp at known
    refine ⟨_, (tick world.2).2, measured_of_increments before world.1 device durations, ?_⟩
    simp only [Meters.collectors, Option.map_none, Option.toList_none, List.nil_append] at below
    simp only [Meters.collectors, Meters.without, Option.map_some, Option.toList_some, List.cons_append, List.nil_append,
      List.map_cons, closeWith, closes]
    rw [below]

theorem respond_timer {calls : OpenCalls Nat} {start : Nat} (found : calls.get? call.id = some start) :
    ∃ after, (⟨timer tick calls, thread, closingDemand thread call (timer tick calls), world⟩ :
      Request (ManualCounters × τ)).respond = (.ok (), after, world.1, (tick world.2).2) := by
  simp [Request.respond, closingDemand, Collector.threadBound, endCall_timer tick thread world found, Except.map]

theorem respond_gauge (readable : world.1.Readable plan) {calls : OpenCalls (Option (Device × List Count))}
    {before : ManualCounters} {device : Device} (found : calls.get? call.id = some (before.reading plan device)) :
    ∃ after, (⟨gauge plan calls, thread, closingDemand thread call (gauge plan calls : Collector (ManualCounters × τ)), world⟩ :
      Request (ManualCounters × τ)).respond = (.ok (), after, world) := by
  have unbound : (manual : Backend (ManualCounters × τ)).perThread = false := rfl
  simp [Request.respond, closingDemand, Collector.threadBound, unbound, endCall_gauge thread readable found, Except.map]

theorem closeRequests_meters (readable : world.1.Readable plan) {meters : Meters} {before : ManualCounters}
    {device : Device} (know : meters.Know plan call.id device before) :
    ∀ request ∈ closeRequests thread call world (meters.collectors tick plan)
      ((meters.collectors tick plan).map fun _ => true), request.answer = .ok () := by
  obtain ⟨times, readings⟩ := meters
  have gauges (world : ManualCounters × τ) (readable : world.1.Readable plan) :
      ∀ request ∈ closeRequests thread call world (Meters.collectors tick plan ⟨none, readings⟩)
        ((Meters.collectors tick plan ⟨none, readings⟩).map fun _ => true), request.answer = .ok () := by
    intro request member
    cases readings with
    | none => simp [Meters.collectors, closeRequests] at member
    | some calls =>
      obtain ⟨after, responds⟩ := respond_gauge thread world readable (know.noted calls rfl)
      simp only [Meters.collectors, Option.map_none, Option.toList_none, Option.map_some, Option.toList_some,
        List.nil_append, List.map_cons, List.map_nil, closeRequests, List.mem_singleton] at member
      rw [member, Request.answer, responds]
  intro request member
  cases times with
  | none => exact gauges world readable request member
  | some calls =>
    obtain ⟨start, found⟩ := Option.isSome_iff_exists.mp (know.timed calls rfl)
    obtain ⟨after, responds⟩ := respond_timer tick thread world found
    simp only [Meters.collectors, Option.map_some, Option.toList_some, List.cons_append, List.nil_append,
      List.map_cons, closeRequests] at member
    rcases List.mem_cons.mp member with rfl | member
    · rw [Request.answer, responds]
    · rw [Request.worldAfter, responds] at member
      exact gauges (world.1, (tick world.2).2) readable request member

end Closing

end Session

end CallProfile
