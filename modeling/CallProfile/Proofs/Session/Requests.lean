import CallProfile.Session

namespace CallProfile

inductive Demand where
  | begin (id : CallId) (device : Device)
  | finish (id : CallId)
  | discard (id : CallId)
deriving DecidableEq

/-- A demand as it is made: of a collector in its present state, on a thread, in a world. -/
structure Request (σ : Type) where
  collector : Collector σ
  thread : ThreadId
  demand : Demand
  world : σ

namespace Request

variable {σ : Type}

def respond (request : Request σ) : Except ProfileError Unit × Collector σ × σ :=
  match request.demand with
  | .begin id device => request.collector.beginCall request.thread id device request.world
  | .finish id =>
    let (result, collector, world) := request.collector.endCall request.thread id request.world
    (result.map fun _ => (), collector, world)
  | .discard id => request.collector.discardCall request.thread id request.world

def answer (request : Request σ) : Except ProfileError Unit := request.respond.1

def after (request : Request σ) : Collector σ := request.respond.2.1

def worldAfter (request : Request σ) : σ := request.respond.2.2

end Request

namespace Session

variable {σ : Type}

def openRequests (thread : ThreadId) (id : CallId) (device : Device) (world : σ) :
    List (Collector σ) → List (Request σ)
  | [] => []
  | collector :: rest =>
    let request : Request σ := ⟨collector, thread, .begin id device, world⟩
    request :: openRequests thread id device request.worldAfter rest

def closingDemand (thread : ThreadId) (call : OpenCall) (collector : Collector σ) : Demand :=
  if call.thread ≠ thread ∧ collector.threadBound then .discard call.id else .finish call.id

/-- The requests by which a call is closed; collectors that did not take it in are not asked. -/
def closeRequests (thread : ThreadId) (call : OpenCall) (world : σ) :
    List (Collector σ) → List Bool → List (Request σ)
  | [], _ => []
  | _, [] => []
  | _ :: rest, false :: began => closeRequests thread call world rest began
  | collector :: rest, true :: began =>
    let request : Request σ := ⟨collector, thread, closingDemand thread call collector, world⟩
    request :: closeRequests thread call request.worldAfter rest began

def truncateRequests (thread : ThreadId) (session : Session σ) (world : σ) : List OpenCall → List (Request σ)
  | [] => []
  | call :: rest =>
    let (record, after, worldAfter) := session.close thread call true world
    closeRequests thread call world session.collectors call.began ++
      truncateRequests thread { after with ended := record :: after.ended } worldAfter rest

section Opening

variable {thread : ThreadId} {id : CallId} {device : Device} {errors : MetricMap}

theorem openRequests_collectors (world : σ) (collectors : List (Collector σ)) :
    (openRequests thread id device world collectors).map Request.collector = collectors := by
  induction collectors generalizing world with
  | nil => rfl
  | cons collector rest ih => simp [openRequests, ih]

theorem position_of_openRequests {world : σ} {collectors : List (Collector σ)} {position : Nat} {request : Request σ}
    (found : (openRequests thread id device world collectors)[position]? = some request) :
    collectors[position]? = some request.collector := by
  have here := congrArg (Option.map Request.collector) found
  rw [← List.getElem?_map, openRequests_collectors] at here
  exact here

theorem demand_of_mem_openRequests {world : σ} {collectors : List (Collector σ)} {request : Request σ}
    (member : request ∈ openRequests thread id device world collectors) :
    request.demand = .begin id device ∧ request.thread = thread := by
  induction collectors generalizing world with
  | nil => cases member
  | cons collector rest ih =>
    rcases List.mem_cons.mp member with rfl | member
    · exact ⟨rfl, rfl⟩
    · exact ih member

theorem openWith_collectors (world : σ) (collectors : List (Collector σ)) :
    (openWith thread id device errors world collectors).collectors =
      (openRequests thread id device world collectors).map Request.after := by
  induction collectors generalizing errors world with
  | nil => rfl
  | cons collector rest ih =>
    simp only [openWith, openRequests, List.map_cons]
    rcases answered : collector.beginCall thread id device world with ⟨result, after, worldAfter⟩
    cases result <;> simp [Request.after, Request.worldAfter, Request.respond, answered, ih]

theorem openWith_began (world : σ) (collectors : List (Collector σ)) :
    (openWith thread id device errors world collectors).began =
      (openRequests thread id device world collectors).map fun request => request.answer.isOk := by
  induction collectors generalizing errors world with
  | nil => rfl
  | cons collector rest ih =>
    simp only [openWith, openRequests, List.map_cons]
    rcases answered : collector.beginCall thread id device world with ⟨result, after, worldAfter⟩
    cases result <;>
      simp [Request.answer, Request.worldAfter, Request.respond, answered, ih, Except.isOk, Except.toBool]

theorem answer_of_openWith {world : σ} {collectors : List (Collector σ)}
    (taken : (openWith thread id device errors world collectors).began = collectors.map fun _ => true) :
    ∀ request ∈ openRequests thread id device world collectors, request.answer = .ok () := by
  intro request member
  have answered : request.answer.isOk ∈ (openWith thread id device errors world collectors).began := by
    rw [openWith_began]
    exact List.mem_map_of_mem member
  rw [taken] at answered
  obtain ⟨-, -, fine⟩ := List.mem_map.mp answered
  cases answer : request.answer with
  | ok value => rfl
  | error error => simp [answer, Except.isOk, Except.toBool] at fine

end Opening

section Closing

variable {thread : ThreadId} {call : OpenCall}

theorem closeOne_collector (metrics : MetricMap) (collector : Collector σ) (world : σ) :
    (closeOne thread call collector metrics world).1 =
      (Request.mk collector thread (closingDemand thread call collector) world).after := by
  by_cases discarded : call.thread ≠ thread ∧ collector.threadBound
  · simp [closeOne, closingDemand, Request.after, Request.respond, discarded]
  · rcases answered : collector.endCall thread call.id world with ⟨_ | _, after, worldAfter⟩ <;>
      simp only [closeOne, closingDemand, Request.after, Request.respond, if_neg discarded, answered]

theorem closeOne_world (metrics : MetricMap) (collector : Collector σ) (world : σ) :
    (closeOne thread call collector metrics world).2.2 =
      (Request.mk collector thread (closingDemand thread call collector) world).worldAfter := by
  by_cases discarded : call.thread ≠ thread ∧ collector.threadBound
  · simp [closeOne, closingDemand, Request.worldAfter, Request.respond, discarded]
  · rcases answered : collector.endCall thread call.id world with ⟨_ | _, after, worldAfter⟩ <;>
      simp only [closeOne, closingDemand, Request.worldAfter, Request.respond, if_neg discarded, answered]

theorem position_of_mem_closeRequests {world : σ} {collectors : List (Collector σ)} {began : List Bool}
    {request : Request σ} (member : request ∈ closeRequests thread call world collectors began) :
    request.thread = thread ∧ request.demand = closingDemand thread call request.collector ∧
      ∃ position : Nat, collectors[position]? = some request.collector ∧ began[position]? = some true := by
  induction collectors generalizing world began with
  | nil => simp [closeRequests] at member
  | cons collector rest ih =>
    match began with
    | [] => simp [closeRequests] at member
    | false :: began =>
      obtain ⟨here, demand, position, found, taken⟩ := ih member
      exact ⟨here, demand, position + 1, by simpa using found, by simpa using taken⟩
    | true :: began =>
      rcases List.mem_cons.mp member with rfl | member
      · exact ⟨rfl, rfl, 0, rfl, rfl⟩
      · obtain ⟨here, demand, position, found, taken⟩ := ih member
        exact ⟨here, demand, position + 1, by simpa using found, by simpa using taken⟩

theorem getElem?_closeWith {metrics : MetricMap} {world : σ} {collectors : List (Collector σ)} {began : List Bool} {position : Nat}
    {after : Collector σ}
    (found : (closeWith thread call metrics world collectors began).collectors[position]? = some after) :
    (∃ request ∈ closeRequests thread call world collectors began,
        collectors[position]? = some request.collector ∧ began[position]? = some true ∧ after = request.after) ∨
      (collectors[position]? = some after ∧ began[position]? ≠ some true) := by
  induction collectors generalizing metrics world began position with
  | nil => simp [closeWith] at found
  | cons collector rest ih =>
    match began, position with
    | [], position => exact .inr ⟨by simpa [closeWith] using found, by simp⟩
    | false :: began, 0 => exact .inr ⟨by simpa [closeWith] using found, by simp⟩
    | true :: began, 0 =>
      refine .inl ⟨_, List.mem_cons_self, rfl, rfl, ?_⟩
      rw [← closeOne_collector metrics]
      simpa [closeWith] using found.symm
    | false :: began, position + 1 => exact ih (by simpa [closeWith] using found)
    | true :: began, position + 1 =>
      have below : (closeWith thread call (closeOne thread call collector metrics world).2.1
          (closeOne thread call collector metrics world).2.2 rest began).collectors[position]? = some after := by
        simpa [closeWith] using found
      rw [closeOne_world] at below
      rcases ih below with ⟨request, member, asked, taken, left⟩ | kept
      · exact .inl ⟨request, List.mem_cons_of_mem _ member, asked, taken, left⟩
      · exact .inr kept

end Closing

end Session

end CallProfile
