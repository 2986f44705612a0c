import CallProfile.Proofs.Session.Contributions
import CallProfile.Proofs.Session.Events

namespace CallProfile

variable {σ α : Type}

/-- The counters of a device that are read, and the thread on which they are. -/
structure Reading where
  thread : ThreadId
  device : Device
  counters : List String
deriving DecidableEq

def Demand.id : Demand → CallId
  | begin id _ | finish id | discard id => id

namespace HardwareCollector

variable (hardware : HardwareCollector σ) (thread : ThreadId)

def reading? : Demand → Option Reading
  | .begin _ device => (hardware.plan.get? device).map (⟨thread, device, ·⟩)
  | .finish id => (hardware.calls.get? id).join.map fun note => ⟨thread, note.1, hardware.countersFor note.1⟩
  | .discard _ => none

theorem read_world (device : Device) (counters : List String) (world : σ) :
    (hardware.read thread device counters world).2 = (hardware.backend.read thread device counters world).2 := by
  unfold read
  rcases hardware.backend.read thread device counters world with ⟨error | values, after⟩
  · rfl
  · simp only
    split <;> rfl

theorem startValues_ok {thread : ThreadId} {device : Device} {world : σ} {note : Option (Device × List Count)}
    (started : (hardware.startValues thread device world).1 = .ok note) :
    (hardware.plan.get? device = none ∧ note = none) ∨
      ∃ counters values, hardware.plan.get? device = some counters ∧
        (hardware.read thread device counters world).1 = .ok values ∧ note = some (device, values) := by
  cases planned : hardware.plan.get? device with
  | none =>
    simp only [startValues, planned, Except.ok.injEq] at started
    exact .inl ⟨rfl, started.symm⟩
  | some counters =>
    rcases read : hardware.read thread device counters world with ⟨_ | values, after⟩ <;>
      simp only [startValues, planned, read] at started <;> cases started
    exact .inr ⟨counters, values, rfl, congrArg Prod.fst read, rfl⟩

theorem beginCall_cases (id : CallId) (device : Device) (world : σ) :
    (∃ error, (hardware.beginCall thread id device world).1 = .error error ∧
        (hardware.beginCall thread id device world).2.1 = hardware) ∨
      ∃ note, (hardware.startValues thread device world).1 = .ok note ∧
        (hardware.beginCall thread id device world).1 = .ok () ∧
        (hardware.beginCall thread id device world).2.1 = { hardware with calls := hardware.calls.insert id note } := by
  unfold beginCall
  rcases hardware.startValues thread device world with ⟨error | note, after⟩
  · exact .inl ⟨error, rfl, rfl⟩
  · simp only [Except.bind, OpenCalls.start]
    by_cases known : hardware.calls.contains id
    · simp only [if_pos known]
      exact .inl ⟨_, rfl, trivial⟩
    · simp only [if_neg known]
      exact .inr ⟨note, rfl, trivial, rfl⟩

theorem get?_endCall_of_ne {id other : CallId} (apart : other ≠ id) (world : σ) :
    (hardware.endCall thread id world).2.1.calls.get? other = hardware.calls.get? other := by
  unfold endCall
  split
  · rfl
  next calls closed => rw [OpenCalls.eq_erase_of_close closed, SortedMap.get?_erase_of_ne _ apart]
  next device before calls closed =>
    have kept : calls.get? other = hardware.calls.get? other := by
      rw [OpenCalls.eq_erase_of_close closed, SortedMap.get?_erase_of_ne _ apart]
    simp only
    split <;> exact kept

theorem get?_discardCall_of_ne {id other : CallId} (apart : other ≠ id) (world : σ) :
    (hardware.discardCall id world).2.1.calls.get? other = hardware.calls.get? other := by
  unfold discardCall
  split
  · rfl
  next note calls closed => rw [OpenCalls.eq_erase_of_close closed, SortedMap.get?_erase_of_ne _ apart]

theorem endCall_of_noted {id : CallId} {note : Option (Device × List Count)}
    (noted : hardware.calls.get? id = some note) (world : σ) :
    (hardware.endCall thread id world).1 =
      match note with
      | none => .ok .empty
      | some (device, before) =>
        (hardware.read thread device (hardware.countersFor device) world).1.map
          (growths (hardware.countersFor device) before) := by
  simp only [endCall, OpenCalls.close, noted]
  cases note with
  | none => rfl
  | some values =>
    simp only
    rcases hardware.read thread values.1 (hardware.countersFor values.1) world with ⟨error | now, after⟩ <;> rfl

end HardwareCollector

namespace Request

/-- What a hardware collector reads from its backend when a request is made of it. -/
def reading? (request : Request σ) : Option Reading :=
  match request.collector with
  | .hardware hardware => hardware.reading? request.thread request.demand
  | _ => none

theorem worldAfter_of_hardware {request : Request σ} {hardware : HardwareCollector σ}
    (kind : request.collector = .hardware hardware) :
    request.worldAfter =
      match request.reading? with
      | none => request.world
      | some reading => (hardware.backend.read reading.thread reading.device reading.counters request.world).2 := by
  obtain ⟨collector, thread, demand, world⟩ := request
  subst kind
  cases demand with
  | begin id device =>
    simp only [worldAfter, respond, Collector.beginCall, HardwareCollector.beginCall, HardwareCollector.startValues,
      reading?, HardwareCollector.reading?]
    cases hardware.plan.get? device with
    | none => simp only [Option.map_none]; split <;> rfl
    | some counters =>
      simp only [Option.map_some]
      rw [← HardwareCollector.read_world]
      split <;> rfl
  | finish id =>
    simp only [worldAfter, respond, Collector.endCall, HardwareCollector.endCall, OpenCalls.close, reading?,
      HardwareCollector.reading?]
    rcases hardware.calls.get? id with _ | _ | ⟨device, before⟩
    · rfl
    · rfl
    · simp only [Option.join_some, Option.map_some]
      rw [← HardwareCollector.read_world]
      split <;> simp only [*]
  | discard id =>
    simp only [worldAfter, respond, Collector.discardCall, HardwareCollector.discardCall, reading?,
      HardwareCollector.reading?]
    split <;> rfl

end Request

theorem Collector.hardware_of_cleared {collector : Collector σ} {hardware : HardwareCollector σ}
    (same : collector.cleared = (Collector.hardware hardware).cleared) :
    ∃ calls, collector = .hardware { hardware with calls } := by
  cases collector <;> simp only [Collector.cleared, Collector.ofClock, Collector.ofCallbacks, Collector.wrapping,
    reduceCtorEq, Collector.hardware.injEq, HardwareCollector.mk.injEq, and_true] at same
  next other =>
    obtain ⟨backend, plan, calls⟩ := other
    obtain ⟨rfl, rfl⟩ := same
    exact ⟨calls, rfl⟩

theorem Request.hardware_of_after {request : Request σ} {hardware : HardwareCollector σ}
    (after : request.after = .hardware hardware) : ∃ calls, request.collector = .hardware { hardware with calls } :=
  Collector.hardware_of_cleared (after ▸ request.cleared_after).symm

theorem Request.get?_after_of_ne {request : Request σ} {before after : HardwareCollector σ}
    (kind : request.collector = .hardware before) (left : request.after = .hardware after) {id : CallId}
    (apart : id ≠ request.demand.id) : after.calls.get? id = before.calls.get? id := by
  obtain ⟨collector, thread, demand, world⟩ := request
  subst kind
  cases demand with
  | begin own device =>
    have left : (before.beginCall thread own device world).2.1 = after := Collector.hardware.inj left
    rcases before.beginCall_cases thread own device world with ⟨-, -, same⟩ | ⟨note, -, -, same⟩
    · rw [← left, same]
    · rw [← left, same]
      exact SortedMap.get?_insert_of_ne _ apart note
  | finish own =>
    have left : (before.endCall thread own world).2.1 = after := Collector.hardware.inj left
    rw [← left]
    exact before.get?_endCall_of_ne thread apart world
  | discard own =>
    have left : (before.discardCall own world).2.1 = after := Collector.hardware.inj left
    rw [← left]
    exact before.get?_discardCall_of_ne apart world

/-- The request by which a collector noted what it holds of an open call. -/
structure HardwareCollector.NotedBy (hardware : HardwareCollector σ) (call : OpenCall) (request : Request σ) : Prop where
  collector : request.collector.cleared = (Collector.hardware hardware).cleared
  thread : request.thread = call.thread
  demand : request.demand = .begin call.id call.device
  answer : request.answer = .ok ()
  note : ∃ note, (hardware.startValues call.thread call.device request.world).1 = .ok note ∧
    hardware.calls.get? call.id = some note

/-- The call ends at the second request as it began at the first: the same is read, and the rise is reported. -/
structure HardwareCollector.Resumes (hardware : HardwareCollector σ) (earlier later : Request σ) : Prop where
  collector : earlier.collector.cleared = later.collector.cleared
  begins : ∃ device, earlier.demand = .begin later.demand.id device
  answer : earlier.answer = .ok ()
  sameThread : hardware.backend.perThread = true →
    earlier.thread = later.thread ∧ earlier.reading? = later.reading?
  unread : earlier.reading? = none → later.reading? = none ∧ later.report = .empty
  measured : ∀ reading, earlier.reading? = some reading →
    later.reading? = some { reading with thread := later.thread } ∧
      ∃ before, (hardware.read reading.thread reading.device reading.counters earlier.world).1 = .ok before ∧
        later.report = later.recorded
          ((hardware.read later.thread reading.device reading.counters later.world).1.map
            (HardwareCollector.growths reading.counters before))

namespace HardwareCollector.NotedBy

variable {hardware : HardwareCollector σ} {call : OpenCall} {request : Request σ}

theorem of_get? (noted : hardware.NotedBy call request) {calls : OpenCalls (Option (Device × List Count))}
    (same : calls.get? call.id = hardware.calls.get? call.id) : { hardware with calls }.NotedBy call request where
  collector := noted.collector
  thread := noted.thread
  demand := noted.demand
  answer := noted.answer
  note := by
    obtain ⟨note, read, found⟩ := noted.note
    exact ⟨note, read, same.trans found⟩

theorem reading?_eq (noted : hardware.NotedBy call request) :
    request.reading? = (hardware.plan.get? call.device).map (⟨call.thread, call.device, ·⟩) := by
  obtain ⟨calls, kind⟩ := Collector.hardware_of_cleared noted.collector
  simp only [Request.reading?, kind, noted.demand, noted.thread, HardwareCollector.reading?]

theorem resumes (noted : hardware.NotedBy call request) {later : Request σ} (kind : later.collector = .hardware hardware)
    (ends : later.demand = .finish call.id) (own : hardware.backend.perThread = true → call.thread = later.thread) :
    hardware.Resumes request later := by
  have before := noted.reading?_eq
  obtain ⟨note, started, found⟩ := noted.note
  have after : later.reading? = note.map fun note => ⟨later.thread, note.1, hardware.countersFor note.1⟩ := by
    simp only [Request.reading?, kind, ends, HardwareCollector.reading?, found, Option.join_some]
  have reported : later.report = later.recorded (hardware.endCall later.thread call.id later.world).1 := by
    simp only [Request.report, ends, kind, Collector.endCall]
  rw [hardware.endCall_of_noted later.thread found] at reported
  rcases hardware.startValues_ok started with ⟨planned, rfl⟩ | ⟨counters, values, planned, read, rfl⟩
  · simp only [planned, Option.map_none] at before
    refine ⟨?_, ⟨call.device, ?_⟩, noted.answer, ?_, fun _ => ⟨after, reported⟩, ?_⟩
    · rw [noted.collector, kind]
    · rw [noted.demand, ends, Demand.id]
    · exact fun perThread => ⟨noted.thread.trans (own perThread), before.trans after.symm⟩
    · intro reading read
      rw [before] at read
      cases read
  · have named : hardware.countersFor call.device = counters := by
      rw [HardwareCollector.countersFor, planned, Option.getD_some]
    simp only [planned, Option.map_some] at before
    simp only [Option.map_some, named] at after reported
    refine ⟨?_, ⟨call.device, ?_⟩, noted.answer, ?_, ?_, ?_⟩
    · rw [noted.collector, kind]
    · rw [noted.demand, ends, Demand.id]
    · intro perThread
      rw [before, after, ← own perThread]
      exact ⟨noted.thread, rfl⟩
    · intro none
      rw [before] at none
      cases none
    · intro reading same
      rw [before] at same
      cases same
      exact ⟨after, values, read, reported⟩

end HardwareCollector.NotedBy

end CallProfile
