import CallProfile.Collector
import CallProfile.Proofs.SortedMap

namespace CallProfile

namespace OpenCalls

variable {ν : Type}

theorem start_of_closed (calls : OpenCalls ν) (collector : String) {id : CallId} (closed : id ∉ calls.keys)
    (note : ν) : calls.start collector id note = .ok (calls.insert id note) := by
  have absent : calls.contains id = false := by
    rw [← Bool.not_eq_true, SortedMap.contains_iff_mem_keys]
    exact closed
  simp [start, absent]

theorem close_of_open {calls : OpenCalls ν} {id : CallId} (isOpen : id ∈ calls.keys) :
    ∃ note, calls.get? id = some note ∧ calls.close id = .ok (note, calls.erase id) := by
  obtain ⟨note, found⟩ := Option.isSome_iff_exists.mp (SortedMap.mem_keys_iff.mp isOpen)
  exact ⟨note, found, by simp only [close, found]⟩

theorem eq_erase_of_close {calls rest : OpenCalls ν} {id : CallId} {note : ν}
    (closed : calls.close id = .ok (note, rest)) : rest = calls.erase id := by
  unfold close at closed
  split at closed <;> cases closed
  rfl

theorem closed_of_close {calls : OpenCalls ν} {id : CallId} {error : ProfileError}
    (failed : calls.close id = .error error) : id ∉ calls.keys := by
  intro isOpen
  obtain ⟨note, -, closed⟩ := close_of_open isOpen
  rw [closed] at failed
  cases failed

end OpenCalls

def Unmatched {β : Type} (answer : Except ProfileError β) : Prop :=
  ∃ id reason, answer = .error (.unmatched id reason)

namespace Collector

variable {σ : Type}

inductive Fresh : Collector σ → Prop
  | ofClock (clock : Clock σ) : Fresh (.ofClock clock)
  | ofPlan {backend : Backend σ} {plan : CounterPlan} {world : σ} {collector : HardwareCollector σ}
      (made : HardwareCollector.ofPlan backend plan world = .ok collector) : Fresh (.hardware collector)
  | ofCallbacks (callbacks : Callbacks σ) : Fresh (.ofCallbacks callbacks)
  | wrapping {inner : Collector σ} (fresh : Fresh inner) : Fresh (.wrapping inner)

/-- An adapter has the same calls open as the collector inside it, which is itself even. -/
def Even : Collector σ → Prop
  | adapter inner calls => inner.Even ∧ ∀ id, id ∈ inner.openIds ↔ id ∈ calls.keys
  | _ => True

def layers : Collector σ → List (Collector σ)
  | adapter inner calls => adapter inner calls :: inner.layers
  | collector => [collector]

def admission (thread : ThreadId) (id : CallId) (device : Device) : Collector σ → σ → Except ProfileError Unit
  | wallClock _ _, _ => .ok ()
  | hardware collector, world => (collector.startValues thread device world).1.map fun _ => ()
  | user callbacks _, world => blame callbacks.name (callbacks.onBegin thread id device world).1
  | adapter inner _, world =>
    blame inner.name ((inner.admission thread id device world).mapError ProfileError.message)

theorem Fresh.openIds {collector : Collector σ} (fresh : Fresh collector) : collector.openIds = [] := by
  cases fresh with
  | ofClock clock => rfl
  | ofCallbacks callbacks => rfl
  | wrapping inner => rfl
  | ofPlan made =>
    unfold HardwareCollector.ofPlan at made
    split at made
    · cases made
    · cases made
      rfl

theorem Fresh.even {collector : Collector σ} (fresh : Fresh collector) : collector.Even := by
  induction fresh with
  | ofClock clock => trivial
  | ofPlan made => trivial
  | ofCallbacks callbacks => trivial
  | wrapping inner ih =>
    refine ⟨ih, fun id => ?_⟩
    rw [inner.openIds]
    rfl

theorem Even.layer {collector layer : Collector σ} (even : collector.Even) (member : layer ∈ collector.layers) :
    layer.Even ∧ ∀ id, id ∈ layer.openIds ↔ id ∈ collector.openIds := by
  induction collector with
  | adapter inner calls ih =>
    rcases List.mem_cons.mp member with rfl | member
    · exact ⟨even, fun _ => Iff.rfl⟩
    · obtain ⟨below, same⟩ := ih even.1 member
      exact ⟨below, fun id => (same id).trans (even.2 id)⟩
  | wallClock _ _ | hardware _ | user _ _ =>
    cases List.mem_singleton.mp member
    exact ⟨even, fun _ => Iff.rfl⟩

/-- The calls that are open after a collector has answered `answer` to the beginning of a call. -/
structure Opens (id : CallId) (answer : Except ProfileError Unit) (collector after : Collector σ) : Prop where
  even : after.Even
  openIds : ∀ other, other ∈ after.openIds ↔ other ∈ collector.openIds ∨ other = id ∧ answer.isOk

structure Closes (id : CallId) (collector after : Collector σ) : Prop where
  even : after.Even
  openIds : ∀ other, other ∈ after.openIds ↔ other ≠ id ∧ other ∈ collector.openIds

theorem Opens.refused {id : CallId} {collector : Collector σ} (even : collector.Even) (error : ProfileError) :
    Opens id (.error error) collector collector :=
  ⟨even, fun other => by simp [Except.isOk, Except.toBool]⟩

theorem Opens.taken {id : CallId} {collector after : Collector σ} (even : after.Even)
    (openIds : ∀ other, other ∈ after.openIds ↔ other = id ∨ other ∈ collector.openIds) :
    Opens id (.ok ()) collector after :=
  ⟨even, fun other => by simp [openIds, Except.isOk, Except.toBool, or_comm]⟩

theorem blame_error (name : String) {β : Type} (error : ProfileError) :
    blame name ((.error error : Except ProfileError β).mapError ProfileError.message) =
      .error (.collector name error.message) := rfl

theorem blame_ok (name : String) {β : Type} (value : β) :
    blame name ((.ok value : Except ProfileError β).mapError ProfileError.message) = .ok value := rfl

theorem name_beginCall (collector : Collector σ) (thread : ThreadId) (id : CallId) (device : Device) (world : σ) :
    (collector.beginCall thread id device world).2.1.name = collector.name := by
  induction collector with
  | wallClock clock calls =>
    simp only [Collector.beginCall]
    split <;> rfl
  | hardware collector =>
    simp only [Collector.beginCall, HardwareCollector.beginCall]
    split <;> rfl
  | user callbacks calls =>
    simp only [Collector.beginCall]
    split <;> rfl
  | adapter inner calls ih =>
    simp only [Collector.beginCall]
    split <;> exact ih

theorem Even.beginCall {collector : Collector σ} (even : collector.Even) {id : CallId}
    (closed : id ∉ collector.openIds) (thread : ThreadId) (device : Device) (world : σ) :
    (collector.beginCall thread id device world).1 = collector.admission thread id device world ∧
      Opens id (collector.admission thread id device world) collector
        (collector.beginCall thread id device world).2.1 := by
  induction collector with
  | wallClock clock calls =>
    simp only [Collector.beginCall, admission, OpenCalls.start_of_closed calls _ closed]
    exact ⟨trivial, .taken trivial fun _ => SortedMap.mem_keys_insert⟩
  | hardware collector =>
    simp only [Collector.beginCall, HardwareCollector.beginCall, admission]
    rcases collector.startValues thread device world with ⟨error | note, after⟩
    · exact ⟨rfl, .refused even error⟩
    · simp only [Except.bind, OpenCalls.start_of_closed collector.calls _ closed]
      exact ⟨rfl, .taken trivial fun _ => SortedMap.mem_keys_insert⟩
  | user callbacks calls =>
    obtain ⟨name, onBegin, onEnd⟩ := callbacks
    simp only [Collector.beginCall, admission]
    rcases onBegin thread id device world with ⟨reason | _, after⟩
    · exact ⟨rfl, .refused even _⟩
    · simp only [blame, Except.bind, OpenCalls.start_of_closed calls _ closed]
      exact ⟨trivial, .taken trivial fun _ => SortedMap.mem_keys_insert⟩
  | adapter inner calls ih =>
    obtain ⟨below, same⟩ := even
    obtain ⟨answer, opens⟩ := ih below (fun isOpen => closed ((same id).mp isOpen))
    have name := name_beginCall inner thread id device world
    simp only [Collector.beginCall, admission, answer, name]
    generalize inner.admission thread id device world = result at opens ⊢
    cases result with
    | error error =>
      have unchanged (other : CallId) := opens.openIds other
      simp only [Except.isOk, Except.toBool, Bool.false_eq_true, and_false, or_false] at unchanged
      simp only [blame_error, Except.bind]
      refine ⟨trivial, ⟨opens.even, fun other => (unchanged other).trans (same other)⟩, fun other => ?_⟩
      simp [Collector.openIds, Except.isOk, Except.toBool]
    | ok _ =>
      have started : calls.start inner.name id () = .ok (calls.insert id ()) :=
        OpenCalls.start_of_closed calls _ closed ()
      have grown (other : CallId) := opens.openIds other
      simp only [Except.isOk, Except.toBool, and_true, same] at grown
      simp only [blame_ok, Except.bind, started]
      refine ⟨trivial, .taken ⟨opens.even, fun other => ?_⟩ fun _ => SortedMap.mem_keys_insert⟩
      rw [grown, SortedMap.mem_keys_insert, or_comm]

theorem not_unmatched_ok {β : Type} (value : β) : ¬ Unmatched (.ok value) := by
  rintro ⟨id, reason, same⟩
  cases same

theorem not_unmatched_map {β γ : Type} {answer : Except ProfileError β} (matched : ¬ Unmatched answer) (f : β → γ) :
    ¬ Unmatched (answer.map f) := by
  rintro ⟨id, reason, same⟩
  cases answer with
  | ok value => cases same
  | error error =>
    cases same
    exact matched ⟨id, reason, rfl⟩

theorem not_unmatched_blame {β : Type} (name : String) (answer : Except String β) :
    ¬ Unmatched (blame name answer) := by
  rintro ⟨id, reason, same⟩
  cases answer <;> cases same

theorem not_unmatched_read (collector : HardwareCollector σ) (thread : ThreadId) (device : Device)
    (names : List String) (world : σ) : ¬ Unmatched (collector.read thread device names world).1 := by
  rintro ⟨id, reason, same⟩
  unfold HardwareCollector.read at same
  split at same
  · cases same
  · split at same <;> cases same

theorem Even.endCall {collector : Collector σ} (even : collector.Even) {id : CallId}
    (isOpen : id ∈ collector.openIds) (thread : ThreadId) (world : σ) :
    ¬ Unmatched (collector.endCall thread id world).1 ∧
      Closes id collector (collector.endCall thread id world).2.1 := by
  induction collector with
  | wallClock clock calls =>
    obtain ⟨start, -, closed⟩ := OpenCalls.close_of_open isOpen
    simp only [Collector.endCall, closed]
    exact ⟨not_unmatched_ok _, trivial, fun _ => SortedMap.mem_keys_erase⟩
  | hardware collector =>
    obtain ⟨note, -, closed⟩ := OpenCalls.close_of_open isOpen
    simp only [Collector.endCall, HardwareCollector.endCall, closed]
    cases note with
    | none => exact ⟨not_unmatched_ok _, trivial, fun _ => SortedMap.mem_keys_erase⟩
    | some values =>
      have failed := not_unmatched_read collector thread values.1 (collector.countersFor values.1) world
      simp only
      generalize collector.read thread values.1 (collector.countersFor values.1) world = reading at failed
      rcases reading with ⟨error | now, after⟩
      · refine ⟨fun ⟨missing, reason, same⟩ => failed ⟨missing, reason, ?_⟩, trivial,
          fun _ => SortedMap.mem_keys_erase⟩
        cases same
        rfl
      · exact ⟨not_unmatched_ok _, trivial, fun _ => SortedMap.mem_keys_erase⟩
  | user callbacks calls =>
    obtain ⟨note, -, closed⟩ := OpenCalls.close_of_open isOpen
    simp only [Collector.endCall, closed]
    exact ⟨not_unmatched_blame _ _, trivial, fun _ => SortedMap.mem_keys_erase⟩
  | adapter inner calls ih =>
    obtain ⟨below, same⟩ := even
    obtain ⟨note, -, closed⟩ := OpenCalls.close_of_open isOpen
    obtain ⟨-, closes⟩ := ih below ((same id).mpr isOpen)
    simp only [Collector.endCall, closed]
    refine ⟨not_unmatched_blame _ _, ⟨closes.even, fun other => ?_⟩, fun _ => SortedMap.mem_keys_erase⟩
    rw [closes.openIds, same, SortedMap.mem_keys_erase]

theorem Even.discardCall {collector : Collector σ} (even : collector.Even) {id : CallId}
    (isOpen : id ∈ collector.openIds) (thread : ThreadId) (world : σ) :
    ¬ Unmatched (collector.discardCall thread id world).1 ∧
      Closes id collector (collector.discardCall thread id world).2.1 := by
  cases collector with
  | hardware collector =>
    obtain ⟨note, -, closed⟩ := OpenCalls.close_of_open isOpen
    simp only [Collector.discardCall, HardwareCollector.discardCall, closed]
    exact ⟨not_unmatched_ok _, trivial, fun _ => SortedMap.mem_keys_erase⟩
  | wallClock _ _ | user _ _ | adapter _ _ =>
    obtain ⟨failed, closes⟩ := even.endCall isOpen thread world
    exact ⟨not_unmatched_map failed _, closes⟩

end Collector

end CallProfile
