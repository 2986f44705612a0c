import CallProfile.Proofs.Session.History
import CallProfile.Proofs.Session.Leftovers
import CallProfile.Proofs.Session.Readings

namespace CallProfile.Session

variable {σ α : Type}

def History.asked (history : History σ α) : List (Request σ) := history.flatMap (·.requests)

/-- What the hardware collectors have noted of a call goes back to earlier requests. -/
def Backed (earlier : List (Request σ)) (call : OpenCall) (collector : Collector σ) : Prop :=
  ∀ hardware, collector = .hardware hardware → ∃ request ∈ earlier, hardware.NotedBy call request

def Noted (earlier : List (Request σ)) (collectors : List (Collector σ)) (calls : List OpenCall) : Prop :=
  ∀ call ∈ calls, ∀ (position : Nat) collector, collectors[position]? = some collector →
    call.began[position]? = some true → Backed earlier call collector

theorem Backed.after {earlier : List (Request σ)} {call : OpenCall} {request : Request σ}
    (backed : Backed earlier call request.collector) (apart : call.id ≠ request.demand.id) :
    Backed earlier call request.after := by
  intro hardware left
  obtain ⟨calls, kind⟩ := request.hardware_of_after left
  obtain ⟨begin, member, noted⟩ := backed _ kind
  exact ⟨begin, member, noted.of_get? (Request.get?_after_of_ne kind left apart)⟩

namespace Noted

variable {earlier : List (Request σ)} {collectors : List (Collector σ)} {calls : List OpenCall}

theorem mono (noted : Noted earlier collectors calls) {more : List (Request σ)}
    (kept : ∀ request ∈ earlier, request ∈ more) {others : List OpenCall} (fewer : ∀ call ∈ others, call ∈ calls) : Noted more collectors others := by
  intro call member position collector found taken hardware kind
  obtain ⟨request, within, noted⟩ := noted call (fewer call member) position collector found taken hardware kind
  exact ⟨request, kept request within, noted⟩

section Opening

variable {thread : ThreadId} {id : CallId} {device : Device} {world : σ}

theorem backed_of_answer {request : Request σ} (demand : request.demand = .begin id device)
    (answer : request.answer = .ok ()) {call : OpenCall} (own : call.id = id) (here : call.thread = request.thread)
    (there : call.device = device) : Backed [request] call request.after := by
  intro hardware left
  have cleared : request.collector.cleared = (Collector.hardware hardware).cleared := left ▸ request.cleared_after.symm
  obtain ⟨calls, kind⟩ := request.hardware_of_after left
  refine ⟨request, List.mem_cons_self, cleared, here.symm, by rw [demand, own, there], answer, ?_⟩
  simp only [Request.answer, Request.after, Request.respond, demand, kind, Collector.beginCall,
    Collector.hardware.injEq] at answer left
  rcases HardwareCollector.beginCall_cases { hardware with calls } request.thread id device request.world with
    ⟨error, failed, -⟩ | ⟨note, started, -, same⟩
  · rw [failed] at answer
    cases answer
  · refine ⟨note, here ▸ there ▸ started, ?_⟩
    rw [← left, same, own]
    exact SortedMap.get?_insert_self _ _ _

theorem openWith (noted : Noted earlier collectors calls) (unknown : ∀ call ∈ calls, call.id ≠ id) (errors : MetricMap)
    {call : OpenCall} (own : call.id = id) (here : call.thread = thread) (there : call.device = device)
    (began : call.began = (Session.openWith thread id device errors world collectors).began) :
    Noted (openRequests thread id device world collectors ++ earlier)
      (Session.openWith thread id device errors world collectors).collectors (call :: calls) := by
  rw [openWith_began] at began
  rw [openWith_collectors]
  intro other member position after found taken
  rw [List.getElem?_map, Option.map_eq_some_iff] at found
  obtain ⟨request, found, rfl⟩ := found
  have asked := demand_of_mem_openRequests (List.mem_of_getElem? found)
  rcases List.mem_cons.mp member with rfl | member
  · rw [began, List.getElem?_map, found, Option.map_some, Option.some.injEq] at taken
    have answer : request.answer = .ok () := by
      cases answered : request.answer with
      | ok _ => rfl
      | error error => simp [answered, Except.isOk, Except.toBool] at taken
    have backed := backed_of_answer asked.1 answer own (here.trans asked.2.symm) there
    intro hardware left
    obtain ⟨begin, single, noted⟩ := backed hardware left
    cases List.mem_singleton.mp single
    exact ⟨request, List.mem_append_left _ (List.mem_of_getElem? found), noted⟩
  · have before := noted other member position request.collector (position_of_openRequests found) taken
    have apart : other.id ≠ request.demand.id := by
      rw [asked.1]
      exact unknown other member
    intro hardware left
    obtain ⟨begin, within, noted⟩ := before.after apart hardware left
    exact ⟨begin, List.mem_append_right _ within, noted⟩

end Opening

section Closing

variable (thread : ThreadId) (world : σ) {call : OpenCall}

theorem closeRequests (noted : Noted earlier collectors calls) (member : call ∈ calls) {request : Request σ}
    (asked : request ∈ Session.closeRequests thread call world collectors call.began) :
    Backed earlier call request.collector := by
  obtain ⟨-, -, position, found, taken⟩ := position_of_mem_closeRequests asked
  exact noted call member position request.collector found taken

theorem closeWith (noted : Noted earlier collectors calls) (call : OpenCall) (metrics : MetricMap) :
    Noted earlier (Session.closeWith thread call metrics world collectors call.began).collectors
      (calls.filter fun other => other.id ≠ call.id) := by
  intro other member position after found taken
  obtain ⟨member, apart⟩ := List.mem_filter.mp member
  rcases getElem?_closeWith found with ⟨request, asked, here, -, rfl⟩ | ⟨here, -⟩
  · have about : request.demand.id = call.id := by
      rw [(position_of_mem_closeRequests asked).2.1, closingDemand]
      split <;> rfl
    refine (noted other member position request.collector here taken).after ?_
    rw [about]
    simpa using apart
  · exact noted other member position after here taken

theorem leftovers (session : Session σ) (noted : Noted earlier session.collectors calls)
    (apart : calls.Pairwise fun one other => one.id ≠ other.id) {leftover : Leftover σ}
    (member : leftover ∈ Session.leftovers thread session world calls) :
    ∀ request ∈ leftover.requests, Backed earlier leftover.call request.collector := by
  induction calls generalizing session world with
  | nil => cases member
  | cons call rest ih =>
    obtain ⟨others, tail⟩ := List.pairwise_cons.mp apart
    rcases List.mem_cons.mp member with rfl | member
    · exact fun request asked => noted.closeRequests thread world List.mem_cons_self asked
    · have closed := noted.closeWith thread world call call.errors
      refine ih _ _ (closed.mono (fun _ within => within) fun other within => ?_) tail member
      exact List.mem_filter.mpr ⟨List.mem_cons_of_mem _ within, by simpa using (others other within).symm⟩

end Closing
end Noted

/-- Every end of a call that hardware collectors answer resumes its beginning. -/
def Resumed (earlier requests : List (Request σ)) : Prop :=
  ∀ later ∈ requests, ∀ hardware id, later.collector = .hardware hardware → later.demand = .finish id →
    ∃ begin ∈ earlier, hardware.Resumes begin later

theorem resumed_of_backed {earlier requests : List (Request σ)} {thread : ThreadId} {call : OpenCall}
    (backed : ∀ request ∈ requests, Backed earlier call request.collector)
    (demands : ∀ request ∈ requests,
      request.thread = thread ∧ request.demand = closingDemand thread call request.collector) :
    Resumed earlier requests := by
  intro later member hardware id kind ends
  obtain ⟨onThread, demand⟩ := demands later member
  obtain ⟨begin, within, noted⟩ := backed later member hardware kind
  unfold closingDemand at demand
  split at demand
  · rw [demand] at ends
    cases ends
  next bound =>
    refine ⟨begin, within, noted.resumes kind demand fun perThread => ?_⟩
    rw [kind] at bound
    by_contra foreign
    exact bound ⟨onThread ▸ foreign, perThread⟩

theorem Noted.resumed_leftovers {earlier : List (Request σ)} (session : Session σ) {calls : List OpenCall}
    (noted : Noted earlier session.collectors calls) (apart : calls.Pairwise fun one other => one.id ≠ other.id)
    (thread : ThreadId) (world : σ) :
    Resumed earlier ((Session.leftovers thread session world calls).flatMap (·.requests)) := by
  intro later asked
  obtain ⟨leftover, member, within⟩ := List.mem_flatMap.mp asked
  exact resumed_of_backed (noted.leftovers thread world session apart member)
    (settled_of_leftover thread member).demands later within

/-- What stays true of open calls and of readings throughout a run. -/
structure Run.Resuming (run : Run σ α) : Prop where
  noted : Noted run.history.asked run.session.collectors run.session.pending.all
  resumed : ∀ entry (past : History σ α), entry :: past <:+ run.history → Resumed past.asked entry.requests
  idle : run.session.phase = .idle → run.session.pending = .empty

namespace Run.Resuming

variable {run : Run σ α}

theorem begun (resuming : run.Resuming) (accounted : run.Accounted) (thread : ThreadId) (name : String)
    (device : Device) :
    Noted (openRequests thread run.session.nextId device run.world run.session.collectors ++ run.history.asked)
      (run.session.begun thread name device run.world).collectors
      (run.session.begun thread name device run.world).pending.all := by
  -- The new id is the number of calls begun so far, so no open call has it.
  have unknown : ∀ call ∈ run.session.pending.all, call.id ≠ run.session.nextId := by
    intro call isOpen same
    have number := accounted.number_of_open isOpen
    rw [same] at number
    exact Nat.lt_irrefl _ number
  have opened : Noted _ (run.session.begun thread name device run.world).collectors
      (run.session.nextCall thread name device run.world :: run.session.pending.all) :=
    resuming.noted.openWith unknown .empty rfl rfl rfl rfl
  refine opened.mono (fun _ within => within) fun call isOpen => ?_
  exact List.mem_cons.mpr ((accounted.mem_all_begun thread name device run.world).mp isOpen)

theorem popped (resuming : run.Resuming) (accounted : run.Accounted) {thread : ThreadId} {call : OpenCall}
    {around : List OpenCall} (top : run.session.pending.on thread = call :: around) :
    Noted run.history.asked (run.session.popped thread call around run.world).collectors
        (run.session.popped thread call around run.world).pending.all ∧
      Resumed run.history.asked
        (closeRequests thread call run.world run.session.collectors call.began) := by
  have member : call ∈ run.session.pending.all := CallStacks.mem_all_iff.mpr ⟨thread, top ▸ List.mem_cons_self⟩
  constructor
  · have closed := resuming.noted.closeWith thread run.world call call.errors
    refine closed.mono (fun _ within => within) fun frame isOpen => ?_
    obtain ⟨within, apart⟩ := (accounted.mem_all_popped top run.world).mp isOpen
    exact List.mem_filter.mpr ⟨within, by simpa using apart⟩
  · have demands : ∀ request ∈ closeRequests thread call run.world run.session.collectors call.began,
        request.thread = thread ∧ request.demand = closingDemand thread call request.collector := by
      intro request asked
      obtain ⟨onThread, demand, -⟩ := position_of_mem_closeRequests asked
      exact ⟨onThread, demand⟩
    exact resumed_of_backed (fun request asked => resuming.noted.closeRequests thread run.world member asked) demands

theorem noted_newestFirst (resuming : run.Resuming) (accounted : run.Accounted) :
    Noted run.history.asked run.session.collectors (newestFirst run.session.pending.all) ∧
      (newestFirst run.session.pending.all).Pairwise fun one other => one.id ≠ other.id := by
  obtain ⟨frames, stacked, -⟩ := accounted.stacked
  rw [show newestFirst run.session.pending.all = frames from stacked.newestFirst_eq (.refl _)]
  exact ⟨resuming.noted.mono (fun _ within => within) fun _ => stacked.mem_all.mpr, stacked.descending.apart⟩

theorem next (act : α → σ → σ) (resuming : run.Resuming)
    (accounted : run.session.phase ≠ .finalized → run.Accounted) (event : Event σ α) :
    (run.next act event).Resuming := by
  refine Run.next_of_transition run event ?_
  intro outcome requests session world step
  -- Only the newest entry has to be looked at: the older ones were there before.
  have grown {entry : Entry σ α} (more : Resumed run.history.asked entry.requests) :
      ∀ other (past : History σ α), other :: past <:+ entry :: run.history → Resumed past.asked other.requests := by
    intro other past recent
    rcases List.suffix_cons_iff.mp recent with same | older
    · cases same
      exact more
    · exact resuming.resumed other past older
  cases step with
  | refused reason => exact ⟨resuming.noted, grown nofun, resuming.idle⟩
  | passed action => exact ⟨resuming.noted, grown nofun, resuming.idle⟩
  | started collectors idle =>
    refine ⟨?_, grown nofun, nofun⟩
    rw [resuming.idle idle]
    nofun
  | @began _ thread name device asked running =>
    refine ⟨resuming.begun (accounted (by simp [running])) thread name device, grown ?_, ?_⟩
    · intro later member hardware id _ ends
      rw [(demand_of_mem_openRequests member).1] at ends
      cases ends
    · exact fun phase => absurd (phase.symm.trans running) (by decide)
  | ended asked running top =>
    obtain ⟨noted, resumed⟩ := resuming.popped (accounted (by simp [running])) top
    refine ⟨noted.mono (fun _ within => List.mem_append_right _ within) fun _ isOpen => isOpen, grown resumed, ?_⟩
    exact fun phase => absurd (phase.symm.trans running) (by decide)
  | finalized thread running =>
    obtain ⟨noted, apart⟩ := resuming.noted_newestFirst (accounted (by simp [running]))
    refine ⟨?_, grown ?_, fun _ => truncated_pending _ _ _ _⟩
    · rw [show (run.session.truncated run.session.pending.all thread run.world).1.pending = .empty from
        truncated_pending _ _ _ _]
      nofun
    · rw [leftovers_requests]
      exact noted.resumed_leftovers { run.session with phase := .finalized, pending := .empty } apart thread run.world

end Run.Resuming

theorem resuming_play (act : α → σ → σ) (config : SessionConfig) (world : σ) (events : List (Event σ α)) :
    ((Run.fresh config world).play act events).Resuming := by
  refine (Run.play_induction (motive := fun run => (run.session.phase ≠ .finalized → run.Accounted) ∧ run.Resuming)
    events ⟨fun _ => accounted_fresh config world, ⟨nofun, ?_, fun _ => rfl⟩⟩ ?_).2
  · intro entry past older
    cases List.suffix_nil.mp older
  · rintro run event - ⟨accounted, resuming⟩
    exact ⟨accounted_next act accounted event, resuming.next act accounted event⟩

section Finalizing

theorem errorName_ne_truncatedName (collector : Collector σ) : errorName collector ≠ truncatedName := by
  intro same
  have last := congrArg (fun name => name.toList.getLast?) same
  simp [errorName, truncatedName] at last

theorem get?_foldl_addTo_of_silent {name : String} {metrics : MetricMap} {requests : List (Request σ)}
    (silent : ∀ request ∈ requests, request.report.get? name = none) :
    (requests.foldl Request.addTo metrics).get? name = metrics.get? name := by
  have nothing : requests.reverse.findSome? (·.report.get? name) = none :=
    List.findSome?_eq_none_iff.mpr fun request among => silent request (List.mem_reverse.mp among)
  rw [Request.get?_foldl_addTo, nothing, Option.none_or]

/-- A collector skips a call that was left open on another thread: it reads nothing and leaves its marker. -/
structure Leftover.Skipped (leftover : Leftover σ) (request : Request σ) : Prop where
  demand : request.demand = .discard leftover.call.id
  unread : request.reading? = none
  report : request.report = request.marker leftOpenMessage
  marked : ∀ before later, leftover.requests = before ++ request :: later →
    (∀ other ∈ later, other.report.get? (errorName request.collector) = none) →
      leftover.record.metric? (errorName request.collector) = some (.text leftOpenMessage)

theorem Leftover.Settled.skipped {thread : ThreadId} {collectors : List (Collector σ)} {leftover : Leftover σ}
    (settled : leftover.Settled thread collectors) {earlier : List (Request σ)} {request : Request σ}
    (backed : Backed earlier leftover.call request.collector) (asked : request ∈ leftover.requests)
    (foreign : leftover.call.thread ≠ thread) (bound : request.collector.threadBound) : leftover.Skipped request := by
  have demand : request.demand = .discard leftover.call.id := by
    rw [(settled.demands request asked).2, closingDemand, if_pos ⟨foreign, bound⟩]
  obtain ⟨hardware, kind⟩ : ∃ hardware, request.collector = .hardware hardware := by
    cases kind : request.collector <;> rw [kind] at bound <;> first | exact ⟨_, rfl⟩ | cases bound
  obtain ⟨begin, -, noted⟩ := backed hardware kind
  obtain ⟨note, -, found⟩ := noted.note
  have report : request.report = request.marker leftOpenMessage := by
    have answer : request.answer = .ok () := by
      simp only [Request.answer, Request.respond, demand, kind, Collector.discardCall, HardwareCollector.discardCall,
        OpenCalls.close, found]
    simp only [Request.report, demand, answer]
  refine ⟨demand, ?_, report, ?_⟩
  · simp only [Request.reading?, kind, demand, HardwareCollector.reading?]
  · intro before later split silent
    have metrics : leftover.record.metrics =
        markTruncated ((before ++ request :: later).foldl Request.addTo leftover.call.errors) := by
      rw [settled.record, ← split]
    rw [CallRecord.metric?, metrics, markTruncated,
      SortedMap.get?_insert_of_ne _ (errorName_ne_truncatedName request.collector), List.foldl_append, List.foldl_cons,
      get?_foldl_addTo_of_silent silent, Request.addTo, report, Request.insertAll_marker, SortedMap.get?_insert_self]

def Run.leftovers (run : Run σ α) (thread : ThreadId) : List (Leftover σ) :=
  Session.leftovers thread { run.session with phase := .finalized, pending := .empty } run.world
    (newestFirst run.session.pending.all)

/-- What the report and the session are like when a run is finalized on a thread. -/
structure Run.Finalizes (run : Run σ α) (thread : ThreadId) (report : Report) (after : Session σ) : Prop where
  left : (run.leftovers thread).map (fun leftover => outlineOf leftover.call) =
    run.history.openCalls.map Begun.outline
  calls : report.calls = run.session.ended.reverse ++ (run.leftovers thread).map (·.record)
  requests : run.session.requests run.world (.finalize thread : Event σ α) =
    (run.leftovers thread).flatMap (·.requests)
  settled : ∀ leftover ∈ run.leftovers thread, leftover.Settled thread run.session.collectors
  resumed : Resumed run.history.asked ((run.leftovers thread).flatMap (·.requests))
  measured : ∀ leftover ∈ run.leftovers thread, ∀ request ∈ leftover.requests,
    (leftover.call.thread = thread ∨ request.collector.threadBound = false) →
      request.demand = .finish leftover.call.id
  skipped : ∀ leftover ∈ run.leftovers thread, ∀ request ∈ leftover.requests,
    leftover.call.thread ≠ thread → request.collector.threadBound = true → leftover.Skipped request
  released : ∀ leftover ∈ run.leftovers thread, ∀ (position : Nat) collector,
    after.collectors[position]? = some collector → leftover.call.began[position]? = some true →
      leftover.call.id ∉ collector.openIds

theorem Run.Resuming.finalizes {run : Run σ α} (resuming : run.Resuming) (accounted : run.Accounted)
    (running : run.session.phase = .running) (thread : ThreadId) :
    ∃ report after world, run.session.finalize thread run.world = .ok (report, after, world) ∧
      run.Finalizes thread report after := by
  obtain ⟨frames, stacked, outlines⟩ := accounted.stacked
  have found : newestFirst run.session.pending.all = frames := stacked.newestFirst_eq (.refl _)
  have calls : (run.leftovers thread).map (·.call) = frames := by
    rw [Run.leftovers, leftovers_calls, found]
  obtain ⟨noted, apart⟩ := resuming.noted_newestFirst accounted
  have settled : ∀ leftover ∈ run.leftovers thread, leftover.Settled thread run.session.collectors := by
    intro leftover member
    exact (settled_of_leftover thread member :)
  refine ⟨_, _, _, finalizeFrom_of_running running run.session.pending.all thread run.world, ?_⟩
  constructor
  · rw [← outlines, ← calls, List.map_map]
    rfl
  · rw [Session.truncated, leftovers_records, List.reverse_append, List.reverse_reverse]
    rfl
  · simp only [requests, refusal?, ensureRunning_of_running running, Event.ending?, Option.bind_none, leftovers_requests]
    rfl
  · exact settled
  · exact noted.resumed_leftovers { run.session with phase := .finalized, pending := .empty } apart thread run.world
  · intro leftover member request asked usual
    rw [((settled leftover member).demands request asked).2, closingDemand, if_neg]
    rintro ⟨foreign, bound⟩
    rcases usual with own | free
    · exact foreign own
    · rw [free] at bound
      cases bound
  · intro leftover member request asked foreign bound
    have backed := noted.leftovers thread run.world { run.session with phase := .finalized, pending := .empty } apart
      member request asked
    exact (settled leftover member).skipped backed asked foreign bound
  · intro leftover member position collector here taken
    obtain ⟨-, -, -, released⟩ := openIds_of_truncate thread here
    refine released leftover.call ?_ taken
    rw [found, ← calls]
    exact List.mem_map_of_mem member

end Finalizing

/--
What is read at the end of a call was read at its beginning, on the same thread if the counters belong to threads.
A call that is left open on another thread is not read again but marked, and everything else is measured as usual.
-/
theorem readings_stay_on_their_threads (act : α → σ → σ) (config : SessionConfig) (world : σ)
    (events : List (Event σ α)) :
    let run : Run σ α := (Run.fresh config world).play act events
    (∀ entry (past : History σ α), entry :: past <:+ run.history → Resumed past.asked entry.requests) ∧
      (run.session.phase = .running → ∀ thread, ∃ report after world,
        run.session.finalize thread run.world = .ok (report, after, world) ∧ run.Finalizes thread report after) ∧
      ∀ (request : Request σ) hardware, request.collector = .hardware hardware →
        request.worldAfter =
          match request.reading? with
          | none => request.world
          | some reading =>
            (hardware.backend.read reading.thread reading.device reading.counters request.world).2 := by
  intro run
  have resuming : run.Resuming := resuming_play act config world events
  refine ⟨resuming.resumed, fun running thread => ?_, fun request hardware kind => request.worldAfter_of_hardware kind⟩
  have accounted := accounted_play act (accounted_fresh config world) events (by rw [running]; decide)
  exact resuming.finalizes accounted running thread

def strands : Backend Nat where
  name := "strands"
  perThread := true
  available _ _ := ["ticks"]
  read thread _ names now := (.ok (names.map fun _ => .ofNat (100 * thread.number + now)), now + 1)

def strandCollectors : List (Collector Nat) :=
  [.hardware ⟨strands, .ofList [(.cpu 0, ["ticks"])], .empty⟩, .ofClock fun now => (now, now)]

def leftOnTwoThreads : List (Event Nat Nat) :=
  [.start strandCollectors, .beginCall ⟨0⟩ "own" (.cpu 0), .beginCall ⟨1⟩ "other" (.cpu 0), .outside 5]

def twoThreadsRun : Run Nat Nat := (Run.fresh (.named "run") 0).play (fun steps now => now + steps) leftOnTwoThreads

theorem newestFirst_twoThreadsRun :
    newestFirst twoThreadsRun.session.pending.all = twoThreadsRun.session.pending.all.reverse := by
  refine CallStacks.newestFirst_of_perm ?_ (List.reverse_perm _).symm
  exact List.pairwise_pair.mpr (by decide)

theorem readings_stay_on_their_threads_two :
    twoThreadsRun.session.phase = .running ∧
      ∃ report after world, twoThreadsRun.session.finalize ⟨0⟩ twoThreadsRun.world = .ok (report, after, world) ∧
        twoThreadsRun.Finalizes ⟨0⟩ report after ∧
        report.calls.map (fun record => (record.name, record.metric? "ticks", record.metric? "strands counters error")) =
          [("other", none, some (.text "call was left open on another thread")), ("own", some (.count 7), none)] := by
  obtain ⟨-, finalizes, -⟩ :=
    readings_stay_on_their_threads (fun steps now => now + steps) (.named "run") 0 leftOnTwoThreads
  obtain ⟨report, after, world, finalized, described⟩ := finalizes rfl ⟨0⟩
  have calls : report.calls = twoThreadsRun.session.ended.reverse ++ (twoThreadsRun.leftovers ⟨0⟩).map (·.record) :=
    described.calls
  refine ⟨rfl, report, after, world, finalized, described, ?_⟩
  rw [calls, Run.leftovers, newestFirst_twoThreadsRun]
  rfl

end CallProfile.Session
