import CallProfile.Proofs.Session.Contributions
import CallProfile.Proofs.Session.Events

namespace CallProfile

variable {σ : Type}

namespace Collector

section Closing

variable {ν : Type} {calls rest : OpenCalls ν} {id : CallId}

theorem mem_keys_of_unclosed {error : ProfileError} (failed : calls.close id = .error error) (other : CallId) :
    other ∈ calls.keys ↔ other ≠ id ∧ other ∈ calls.keys := by
  constructor
  · intro isOpen
    refine ⟨?_, isOpen⟩
    rintro rfl
    exact OpenCalls.closed_of_close failed isOpen
  · exact And.right

theorem mem_keys_of_closed {note : ν} (closed : calls.close id = .ok (note, rest)) (other : CallId) :
    other ∈ rest.keys ↔ other ≠ id ∧ other ∈ calls.keys := by
  rw [OpenCalls.eq_erase_of_close closed, SortedMap.mem_keys_erase]

end Closing

theorem mem_openIds_endCall (collector : Collector σ) (thread : ThreadId) (id : CallId) (world : σ) (other : CallId) :
    other ∈ (collector.endCall thread id world).2.1.openIds ↔ other ≠ id ∧ other ∈ collector.openIds := by
  cases collector with
  | wallClock clock calls =>
    simp only [endCall]
    split
    next failed => exact mem_keys_of_unclosed failed other
    next closed => exact mem_keys_of_closed closed other
  | hardware collector =>
    simp only [endCall, HardwareCollector.endCall]
    split
    next failed => exact mem_keys_of_unclosed failed other
    next closed => exact mem_keys_of_closed closed other
    next closed =>
      split <;> exact mem_keys_of_closed closed other
  | user callbacks calls =>
    simp only [endCall]
    split
    next failed => exact mem_keys_of_unclosed failed other
    next closed => exact mem_keys_of_closed closed other
  | adapter inner calls =>
    simp only [endCall]
    split
    next failed => exact mem_keys_of_unclosed failed other
    next closed => exact mem_keys_of_closed closed other

theorem mem_openIds_discardCall (collector : Collector σ) (thread : ThreadId) (id : CallId) (world : σ)
    (other : CallId) :
    other ∈ (collector.discardCall thread id world).2.1.openIds ↔ other ≠ id ∧ other ∈ collector.openIds := by
  cases collector with
  | hardware collector =>
    simp only [discardCall, HardwareCollector.discardCall]
    split
    next failed => exact mem_keys_of_unclosed failed other
    next closed => exact mem_keys_of_closed closed other
  | wallClock clock calls => exact mem_openIds_endCall (wallClock clock calls) thread id world other
  | user callbacks calls => exact mem_openIds_endCall (user callbacks calls) thread id world other
  | adapter inner calls => exact mem_openIds_endCall (adapter inner calls) thread id world other

end Collector

namespace Session

/-- A call that is left open, the requests by which it is closed, and its record. -/
structure Leftover (σ : Type) where
  call : OpenCall
  requests : List (Request σ)
  record : CallRecord

def leftovers (thread : ThreadId) (session : Session σ) (world : σ) : List OpenCall → List (Leftover σ)
  | [] => []
  | call :: rest =>
    let (record, after, worldAfter) := session.close thread call true world
    ⟨call, closeRequests thread call world session.collectors call.began, record⟩ ::
      leftovers thread { after with ended := record :: after.ended } worldAfter rest

/-- Those of the collectors that have taken a call in, by the marks that were made at its beginning. -/
def takers {β : Type} (collectors : List β) (began : List Bool) : List β :=
  ((collectors.zip began).filter (·.2)).map (·.1)

/-- What becomes of a call that is left open: each collector that took it in is asked, and the record tells. -/
structure Leftover.Settled (thread : ThreadId) (collectors : List (Collector σ)) (leftover : Leftover σ) : Prop where
  asked : leftover.requests.map (·.collector.cleared) =
    (takers collectors leftover.call.began).map Collector.cleared
  demands : ∀ request ∈ leftover.requests,
    request.thread = thread ∧ request.demand = closingDemand thread leftover.call request.collector
  record : leftover.record = ⟨leftover.call.name, leftover.call.device, leftover.call.depth,
    markTruncated (leftover.requests.foldl Request.addTo leftover.call.errors)⟩

theorem map_takers {β γ : Type} (f : β → γ) (collectors : List β) (began : List Bool) :
    (takers collectors began).map f = takers (collectors.map f) began := by
  rw [takers, takers, List.zip_map_left, List.filter_map, List.map_map, List.map_map]
  rfl

section Closing

variable (thread : ThreadId) (call : OpenCall) (metrics : MetricMap)

theorem cleared_closeRequests (world : σ) (collectors : List (Collector σ)) (began : List Bool) :
    (closeRequests thread call world collectors began).map (·.collector.cleared) =
      (takers collectors began).map Collector.cleared := by
  induction collectors generalizing world began with
  | nil => rfl
  | cons collector rest ih =>
    match began with
    | [] => rfl
    | false :: began => exact ih world began
    | true :: began =>
      simp only [closeRequests, List.map_cons, ih]
      rfl

theorem openIds_closeWith {world : σ} {collectors : List (Collector σ)} {began : List Bool} {position : Nat}
    {after : Collector σ}
    (found : (closeWith thread call metrics world collectors began).collectors[position]? = some after) :
    ∃ before, collectors[position]? = some before ∧ (∀ id ∈ after.openIds, id ∈ before.openIds) ∧
      (began[position]? = some true → call.id ∉ after.openIds) := by
  rcases getElem?_closeWith found with ⟨request, asked, here, -, rfl⟩ | ⟨here, untaken⟩
  · have left (other : CallId) :
        other ∈ request.after.openIds ↔ other ≠ call.id ∧ other ∈ request.collector.openIds := by
      have demand := (position_of_mem_closeRequests asked).2.1
      unfold closingDemand at demand
      split at demand <;> simp only [Request.after, Request.respond, demand]
      · exact Collector.mem_openIds_discardCall request.collector request.thread call.id request.world other
      · exact Collector.mem_openIds_endCall request.collector request.thread call.id request.world other
    exact ⟨request.collector, here, fun id isOpen => ((left id).mp isOpen).2,
      fun _ isOpen => ((left call.id).mp isOpen).1 rfl⟩
  · exact ⟨after, here, fun _ isOpen => isOpen, fun taken => absurd taken untaken⟩

end Closing

section Leftovers

variable (thread : ThreadId) (session : Session σ) (world : σ) (calls : List OpenCall)

theorem leftovers_calls : (leftovers thread session world calls).map (·.call) = calls := by
  induction calls generalizing session world with
  | nil => rfl
  | cons call rest ih => rw [leftovers, List.map_cons, ih]

theorem leftovers_requests :
    truncateRequests thread session world calls = (leftovers thread session world calls).flatMap (·.requests) := by
  induction calls generalizing session world with
  | nil => rfl
  | cons call rest ih => simp only [truncateRequests, leftovers, List.flatMap_cons, ih]

theorem leftovers_records :
    (truncate thread session world calls).1.ended =
      ((leftovers thread session world calls).map (·.record)).reverse ++ session.ended := by
  induction calls generalizing session world with
  | nil => rfl
  | cons call rest ih =>
    rw [leftovers, truncate, ih, List.map_cons, List.reverse_cons, List.append_assoc]
    rfl

variable {session world calls}

theorem settled_of_leftover {leftover : Leftover σ} (member : leftover ∈ leftovers thread session world calls) :
    leftover.Settled thread session.collectors := by
  induction calls generalizing session world with
  | nil => cases member
  | cons call rest ih =>
    rcases List.mem_cons.mp member with rfl | member
    · refine ⟨cleared_closeRequests thread call world session.collectors call.began, ?_, ?_⟩
      · intro request asked
        obtain ⟨onThread, demand, -⟩ := position_of_mem_closeRequests asked
        exact ⟨onThread, demand⟩
      · simp only [if_true, closeWith_metrics]
    · have same : (session.close thread call true world).2.1.collectors.map Collector.cleared =
          session.collectors.map Collector.cleared := cleared_closeWith world _ _
      obtain ⟨asked, demands, record⟩ := ih member
      refine ⟨?_, demands, record⟩
      rw [asked, map_takers, map_takers]
      exact congrArg (takers · leftover.call.began) same

theorem openIds_of_truncate {position : Nat} {after : Collector σ}
    (found : (truncate thread session world calls).1.collectors[position]? = some after) :
    ∃ before, session.collectors[position]? = some before ∧ (∀ id ∈ after.openIds, id ∈ before.openIds) ∧
      ∀ call ∈ calls, call.began[position]? = some true → call.id ∉ after.openIds := by
  induction calls generalizing session world with
  | nil => exact ⟨after, found, fun _ isOpen => isOpen, nofun⟩
  | cons call rest ih =>
    obtain ⟨between, there, kept, released⟩ := ih found
    obtain ⟨before, here, older, closed⟩ := openIds_closeWith thread call call.errors there
    refine ⟨before, here, fun id isOpen => older id (kept id isOpen), ?_⟩
    intro other member taken
    rcases List.mem_cons.mp member with rfl | member
    · exact fun isOpen => closed taken (kept _ isOpen)
    · exact released other member taken

end Leftovers
end Session
end CallProfile
