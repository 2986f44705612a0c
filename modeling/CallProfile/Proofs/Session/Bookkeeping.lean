import CallProfile.Proofs.Collector.Bookkeeping
import CallProfile.Proofs.Session.History

namespace CallProfile

variable {σ α : Type}

/-- The collector that is asked, and each one inside it, has the call open if and only if it should. -/
def Request.InOrder (request : Request σ) : Prop :=
  ∀ layer ∈ request.collector.layers,
    match request.demand with
    | .begin id device =>
      id ∉ layer.openIds ∧
        ({ request with collector := layer } : Request σ).answer =
          layer.admission request.thread id device request.world
    | .finish id | .discard id =>
      id ∈ layer.openIds ∧ ¬ Unmatched ({ request with collector := layer } : Request σ).answer

namespace Request

variable {request : Request σ} {id : CallId}

theorem opens {device : Device} (asked : request.demand = .begin id device) (even : request.collector.Even)
    (closed : id ∉ request.collector.openIds) :
    request.answer = request.collector.admission request.thread id device request.world ∧
      Collector.Opens id request.answer request.collector request.after := by
  obtain ⟨answer, opens⟩ := even.beginCall closed request.thread device request.world
  rw [← answer] at opens
  simp only [Request.answer, after, respond, asked]
  exact ⟨answer, opens⟩

theorem closes (asked : request.demand = .finish id ∨ request.demand = .discard id)
    (even : request.collector.Even) (isOpen : id ∈ request.collector.openIds) :
    ¬ Unmatched request.answer ∧ Collector.Closes id request.collector request.after := by
  rcases asked with asked | asked
  · obtain ⟨failed, closes⟩ := even.endCall isOpen request.thread request.world
    simp only [answer, after, respond, asked]
    exact ⟨Collector.not_unmatched_map failed _, closes⟩
  · simp only [answer, after, respond, asked]
    exact even.discardCall isOpen request.thread request.world

theorem inOrder_of_closed {device : Device} (asked : request.demand = .begin id device)
    (even : request.collector.Even) (closed : id ∉ request.collector.openIds) : request.InOrder := by
  obtain ⟨collector, thread, demand, world⟩ := request
  subst asked
  intro layer member
  obtain ⟨evenLayer, same⟩ := even.layer member
  have closedLayer : id ∉ layer.openIds := fun isOpen => closed ((same id).mp isOpen)
  exact ⟨closedLayer, (opens rfl evenLayer closedLayer).1⟩

theorem inOrder_of_open (asked : request.demand = .finish id ∨ request.demand = .discard id)
    (even : request.collector.Even) (isOpen : id ∈ request.collector.openIds) : request.InOrder := by
  obtain ⟨collector, thread, demand, world⟩ := request
  intro layer member
  obtain ⟨evenLayer, same⟩ := even.layer member
  have openLayer : id ∈ layer.openIds := (same id).mpr isOpen
  rcases asked with asked | asked
  · subst asked
    exact ⟨openLayer, (closes (.inl rfl) evenLayer openLayer).1⟩
  · subst asked
    exact ⟨openLayer, (closes (.inr rfl) evenLayer openLayer).1⟩

end Request

namespace Session

theorem closingDemand_eq (thread : ThreadId) (call : OpenCall) (collector : Collector σ) :
    closingDemand thread call collector = .finish call.id ∨ closingDemand thread call collector = .discard call.id := by
  unfold closingDemand
  split
  · exact .inr rfl
  · exact .inl rfl

/-- Each collector has those of the calls open that it took in. -/
structure InStep (collectors : List (Collector σ)) (frames : List OpenCall) : Prop where
  even : ∀ (position : Nat) collector, collectors[position]? = some collector → collector.Even
  openIds : ∀ (position : Nat) collector, collectors[position]? = some collector → ∀ id,
    id ∈ collector.openIds ↔ ∃ call ∈ frames, call.id = id ∧ call.began[position]? = some true

namespace InStep

variable {collectors : List (Collector σ)} {frames : List OpenCall}

theorem congr (inStep : InStep collectors frames) {others : List OpenCall}
    (same : ∀ call, call ∈ others ↔ call ∈ frames) : InStep collectors others where
  even := inStep.even
  openIds position collector found id := by
    simp only [same]
    exact inStep.openIds position collector found id

theorem of_fresh (fresh : ∀ collector ∈ collectors, collector.Fresh) : InStep collectors [] where
  even position collector found := (fresh collector (List.mem_of_getElem? found)).even
  openIds position collector found id := by
    rw [(fresh collector (List.mem_of_getElem? found)).openIds]
    simp

theorem openIds_nil (inStep : InStep collectors []) : ∀ collector ∈ collectors, collector.openIds = [] := by
  intro collector member
  obtain ⟨position, found⟩ := List.mem_iff_getElem?.mp member
  refine List.eq_nil_iff_forall_not_mem.mpr fun id isOpen => ?_
  simpa using (inStep.openIds position collector found id).mp isOpen

theorem closed (inStep : InStep collectors frames) {position : Nat} {collector : Collector σ}
    (found : collectors[position]? = some collector) {id : CallId} (unknown : ∀ call ∈ frames, call.id ≠ id) :
    id ∉ collector.openIds := by
  intro isOpen
  obtain ⟨call, member, same, -⟩ := (inStep.openIds position collector found id).mp isOpen
  exact unknown call member same

section Opening

variable (thread : ThreadId) {id : CallId} (device : Device) (world : σ)

theorem openRequests_inOrder (inStep : InStep collectors frames) (unknown : ∀ call ∈ frames, call.id ≠ id) :
    ∀ request ∈ openRequests thread id device world collectors, request.InOrder := by
  intro request member
  obtain ⟨position, found⟩ := List.mem_iff_getElem?.mp member
  have here := position_of_openRequests found
  exact Request.inOrder_of_closed (demand_of_mem_openRequests member).1 (inStep.even position _ here)
    (inStep.closed here unknown)

theorem openWith (inStep : InStep collectors frames) (unknown : ∀ call ∈ frames, call.id ≠ id)
    (errors : MetricMap) {call : OpenCall} (new : call.id = id)
    (began : call.began = (Session.openWith thread id device errors world collectors).began) :
    InStep (Session.openWith thread id device errors world collectors).collectors (call :: frames) := by
  rw [openWith_began] at began
  rw [openWith_collectors]
  have opened {position : Nat} {after : Collector σ}
      (found : ((openRequests thread id device world collectors).map Request.after)[position]? = some after) :
      ∃ collector answer, collectors[position]? = some collector ∧ call.began[position]? = some answer.isOk ∧
        Collector.Opens id answer collector after := by
    rw [List.getElem?_map, Option.map_eq_some_iff] at found
    obtain ⟨request, found, rfl⟩ := found
    have here := position_of_openRequests found
    have asked := (demand_of_mem_openRequests (List.mem_of_getElem? found)).1
    refine ⟨request.collector, request.answer, here, ?_, ?_⟩
    · rw [began, List.getElem?_map, found]
      rfl
    · exact (Request.opens asked (inStep.even position _ here) (inStep.closed here unknown)).2
  constructor
  · intro position after found
    obtain ⟨collector, answer, -, -, opens⟩ := opened found
    exact opens.even
  · intro position after found other
    obtain ⟨collector, answer, here, taken, opens⟩ := opened found
    rw [opens.openIds, inStep.openIds position collector here, List.exists_mem_cons_iff, taken, new]
    simp only [Option.some.injEq, eq_comm (a := other), or_comm]

end Opening

section Closing

variable (thread : ThreadId) (world : σ) {call : OpenCall}

theorem isOpen (inStep : InStep collectors frames) (member : call ∈ frames) {position : Nat}
    {collector : Collector σ} (found : collectors[position]? = some collector)
    (taken : call.began[position]? = some true) : call.id ∈ collector.openIds :=
  (inStep.openIds position collector found call.id).mpr ⟨call, member, rfl, taken⟩

theorem closeRequests_inOrder (inStep : InStep collectors frames) (member : call ∈ frames) :
    ∀ request ∈ closeRequests thread call world collectors call.began, request.InOrder := by
  intro request asked
  obtain ⟨-, demand, position, found, taken⟩ := position_of_mem_closeRequests asked
  refine Request.inOrder_of_open ?_ (inStep.even position _ found) (inStep.isOpen member found taken)
  rw [demand]
  exact closingDemand_eq thread call request.collector

theorem closeWith (inStep : InStep collectors frames) (member : call ∈ frames)
    (apart : frames.Pairwise fun one other => one.id ≠ other.id) (metrics : MetricMap) :
    InStep (Session.closeWith thread call metrics world collectors call.began).collectors
      (frames.filter fun frame => frame.id ≠ call.id) := by
  have own : ∀ frame ∈ frames, frame.id = call.id → frame = call := by
    have nodup : (frames.map (·.id)).Nodup := List.pairwise_map.mpr apart
    exact fun frame within same => List.inj_on_of_nodup_map nodup within member same
  have closed {position : Nat} {after : Collector σ}
      (found : (Session.closeWith thread call metrics world collectors call.began).collectors[position]? = some after) :
      ∃ collector, collectors[position]? = some collector ∧ Collector.Closes call.id collector after := by
    rcases getElem?_closeWith found with ⟨request, asked, here, taken, rfl⟩ | ⟨here, untaken⟩
    · refine ⟨request.collector, here, (Request.closes ?_ (inStep.even position _ here) ?_).2⟩
      · rw [(position_of_mem_closeRequests asked).2.1]
        exact closingDemand_eq thread call request.collector
      · exact inStep.isOpen member here taken
    · refine ⟨after, here, inStep.even position _ here, fun other => ?_⟩
      -- a collector that did not take the call in does not have it open
      have absent : call.id ∉ after.openIds := by
        intro isOpen
        obtain ⟨frame, within, same, taken⟩ := (inStep.openIds position after here call.id).mp isOpen
        exact untaken (own frame within same ▸ taken)
      constructor
      · intro isOpen
        exact ⟨fun same => absent (same ▸ isOpen), isOpen⟩
      · exact And.right
  constructor
  · intro position after found
    obtain ⟨collector, -, closes⟩ := closed found
    exact closes.even
  · intro position after found other
    obtain ⟨collector, here, closes⟩ := closed found
    rw [closes.openIds, inStep.openIds position collector here]
    constructor
    · rintro ⟨foreign, frame, within, same, taken⟩
      exact ⟨frame, List.mem_filter.mpr ⟨within, by simpa [same] using foreign⟩, same, taken⟩
    · rintro ⟨frame, kept, same, taken⟩
      obtain ⟨within, foreign⟩ := List.mem_filter.mp kept
      exact ⟨by simpa [same] using foreign, frame, within, same, taken⟩

end Closing

theorem truncate (thread : ThreadId) (session : Session σ) (world : σ) (inStep : InStep session.collectors frames)
    (apart : frames.Pairwise fun one other => one.id ≠ other.id) :
    InStep (Session.truncate thread session world frames).1.collectors [] ∧
      ∀ request ∈ truncateRequests thread session world frames, request.InOrder := by
  induction frames generalizing session world with
  | nil => exact ⟨inStep, by nofun⟩
  | cons call rest ih =>
    obtain ⟨others, tail⟩ := List.pairwise_cons.mp apart
    have left : (call :: rest).filter (fun frame => frame.id ≠ call.id) = rest := by
      rw [List.filter_cons, if_neg (by simp)]
      exact List.filter_eq_self.mpr fun frame within => by simpa using (others frame within).symm
    have closed := inStep.closeWith thread world List.mem_cons_self apart call.errors
    rw [left] at closed
    obtain ⟨emptied, further⟩ := ih { (session.close thread call true world).2.1 with
        ended := (session.close thread call true world).1 :: session.ended }
      (session.close thread call true world).2.2 closed tail
    refine ⟨emptied, fun request asked => ?_⟩
    rcases List.mem_append.mp asked with asked | asked
    · exact inStep.closeRequests_inOrder thread world List.mem_cons_self request asked
    · exact further request asked

end InStep

/-- What stays true of sessions and collectors throughout a run. -/
structure Run.Bookkept (run : Run σ α) : Prop where
  inStep : InStep run.session.collectors run.session.pending.all
  inOrder : ∀ entry ∈ run.history, ∀ request ∈ entry.requests, request.InOrder
  released : run.session.phase = .finalized → ∀ collector ∈ run.session.collectors, collector.openIds = []
  idle : run.session.phase = .idle → run.session.pending = .empty

namespace Run.Bookkept

variable {run : Run σ α}

theorem next (act : α → σ → σ) (bookkept : run.Bookkept)
    (accounted : run.session.phase ≠ .finalized → run.Accounted) (event : Event σ α)
    (fresh : ∀ collectors, event = .start collectors → ∀ collector ∈ collectors, collector.Fresh) :
    (run.next act event).Bookkept := by
  refine Run.next_of_transition run event ?_
  intro outcome requests session world step
  have grown {entry : Entry σ α} (more : ∀ request ∈ entry.requests, request.InOrder) :
      ∀ other ∈ entry :: run.history, ∀ request ∈ other.requests, request.InOrder := by
    intro other member
    rcases List.mem_cons.mp member with rfl | member
    · exact more
    · exact bookkept.inOrder other member
  cases step with
  | refused reason => exact ⟨bookkept.inStep, grown (fun _ member => by cases member), bookkept.released, bookkept.idle⟩
  | passed action => exact ⟨bookkept.inStep, grown (fun _ member => by cases member), bookkept.released, bookkept.idle⟩
  | started collectors idle =>
    refine ⟨?_, grown (fun _ member => by cases member), by nofun, by nofun⟩
    rw [bookkept.idle idle]
    exact .of_fresh (fresh collectors rfl)
  | @began _ thread name device asked running =>
    have counted := accounted (by simp [running])
    have unknown : ∀ call ∈ run.session.pending.all, call.id ≠ run.session.nextId := by
      intro call isOpen same
      have number := counted.number_of_open isOpen
      rw [same] at number
      exact Nat.lt_irrefl _ number
    have inOrder := bookkept.inStep.openRequests_inOrder thread device run.world unknown
    have opened : InStep (run.session.begun thread name device run.world).collectors
        (run.session.nextCall thread name device run.world :: run.session.pending.all) :=
      bookkept.inStep.openWith thread device run.world unknown .empty rfl rfl
    refine ⟨opened.congr fun call => ?_, grown inOrder, ?_, ?_⟩
    · rw [counted.mem_all_begun, List.mem_cons]
    · exact fun phase => absurd (phase.symm.trans running) (by decide)
    · exact fun phase => absurd (phase.symm.trans running) (by decide)
  | @ended _ thread call around asked running top =>
    have counted := accounted (by simp [running])
    have member : call ∈ run.session.pending.all :=
      CallStacks.mem_all_iff.mpr ⟨thread, top ▸ List.mem_cons_self⟩
    have inOrder := bookkept.inStep.closeRequests_inOrder thread run.world member
    have closed : InStep (run.session.popped thread call around run.world).collectors
        (run.session.pending.all.filter fun frame => frame.id ≠ call.id) :=
      bookkept.inStep.closeWith thread run.world member counted.all_apart call.errors
    refine ⟨closed.congr fun frame => ?_, grown inOrder, ?_, ?_⟩
    · rw [counted.mem_all_popped top, List.mem_filter]
      simp
    · exact fun phase => absurd (phase.symm.trans running) (by decide)
    · exact fun phase => absurd (phase.symm.trans running) (by decide)
  | finalized thread running =>
    obtain ⟨frames, stacked, -⟩ := (accounted (by simp [running])).stacked
    have inStep := bookkept.inStep.congr fun _ => stacked.mem_all.symm
    have found : newestFirst run.session.pending.all = frames := stacked.newestFirst_eq (.refl _)
    obtain ⟨emptied, inOrder⟩ := InStep.truncate thread
      { run.session with phase := .finalized, pending := .empty } run.world inStep stacked.descending.apart
    rw [← found] at emptied inOrder
    refine ⟨?_, grown inOrder, fun _ => emptied.openIds_nil, fun _ => truncated_pending _ _ _ _⟩
    rw [show (run.session.truncated run.session.pending.all thread run.world).1.pending = .empty from
      truncated_pending _ _ _ _]
    exact emptied

end Run.Bookkept

theorem bookkept_fresh (config : SessionConfig) (world : σ) : (Run.fresh config world : Run σ α).Bookkept where
  inStep := .of_fresh (by nofun)
  inOrder := by
    intro entry member
    cases member
  released := by nofun
  idle := fun _ => rfl

/-- Collectors and sessions agree on the open calls, whatever backends and callbacks answer. -/
theorem collectors_stay_in_step (act : α → σ → σ) (config : SessionConfig) (world : σ) (events : List (Event σ α))
    (fresh : ∀ collectors, Event.start collectors ∈ events → ∀ collector ∈ collectors, collector.Fresh) :
    ((Run.fresh config world).play act events).Bookkept := by
  refine (Run.play_induction (motive := fun run => (run.session.phase ≠ .finalized → run.Accounted) ∧ run.Bookkept)
    events ⟨fun _ => accounted_fresh config world, bookkept_fresh config world⟩ ?_).2
  rintro run event member ⟨accounted, bookkept⟩
  refine ⟨accounted_next act accounted event, bookkept.next act accounted event ?_⟩
  intro collectors started
  exact fresh collectors (started ▸ member)

def probe : Backend Bool where
  name := "probe"
  perThread := true
  available _ _ := ["cycles"]
  read _ _ names steady := (if steady then .ok (names.map fun _ => 0) else .error (.failed "gone"), steady)

def probing : HardwareCollector Bool := ⟨probe, .ofList [(.gpu 0, ["cycles"])], .empty⟩

def unsteady : List (Collector Bool) :=
  [.hardware probing, .wrapping (.wrapping (.hardware probing)), .ofClock fun steady => (0, steady),
    .ofCallbacks ⟨"door", fun _ _ _ steady => (.error "closed", steady), fun _ _ steady => (.ok .empty, steady)⟩,
    .ofCallbacks ⟨"gate", fun _ _ _ steady => (.ok (), steady), fun _ _ steady => (.error "lost", steady)⟩]

def unsteadyEvents : List (Event Bool Bool) :=
  [.start unsteady, .beginCall ⟨0⟩ "outer" (.gpu 0), .beginCall ⟨1⟩ "other" (.gpu 0), .outside false,
    .endCall ⟨1⟩ ⟨2⟩, .beginCall ⟨0⟩ "inner" (.gpu 0), .finalize ⟨7⟩]

def unsteadyRun : Run Bool Bool := (Run.fresh (.named "run") true).play (fun steady _ => steady) unsteadyEvents

theorem unsteady_fresh : ∀ collector ∈ unsteady, collector.Fresh := by
  have made : HardwareCollector.ofPlan probe probing.plan true = .ok probing := rfl
  intro collector member
  simp only [unsteady, List.mem_cons, List.not_mem_nil, or_false] at member
  rcases member with rfl | rfl | rfl | rfl | rfl
  · exact .ofPlan made
  · exact .wrapping (.wrapping (.ofPlan made))
  · exact .ofClock _
  · exact .ofCallbacks _
  · exact .ofCallbacks _

theorem collectors_stay_in_step_unsteady :
    (∀ collectors, Event.start collectors ∈ unsteadyEvents → ∀ collector ∈ collectors, collector.Fresh) ∧
      unsteadyRun.Bookkept ∧ unsteadyRun.session.phase = .finalized ∧
      ∀ collector ∈ unsteadyRun.session.collectors, collector.openIds = [] := by
  have fresh : ∀ collectors, Event.start collectors ∈ unsteadyEvents →
      ∀ collector ∈ collectors, collector.Fresh := by
    intro collectors started
    simp only [unsteadyEvents, List.mem_cons, Event.start.injEq, reduceCtorEq, List.not_mem_nil, or_false] at started
    exact started ▸ unsteady_fresh
  have bookkept := collectors_stay_in_step (fun steady _ => steady) (.named "run") true unsteadyEvents fresh
  have finalized : unsteadyRun.session.phase = .finalized := truncated_phase _ _ _ _
  exact ⟨fresh, bookkept, finalized, bookkept.released finalized⟩

end Session

end CallProfile
