import CallProfile.Proofs.Session.Events
import CallProfile.Proofs.Session.Stacks

namespace CallProfile

structure Heading where
  name : String
  device : Device
  depth : UInt32
deriving DecidableEq

def CallRecord.heading (record : CallRecord) : Heading := ⟨record.name, record.device, record.depth⟩

def OpenCall.heading (call : OpenCall) : Heading := ⟨call.name, call.device, call.depth⟩

namespace Session

variable {σ α : Type}

structure Entry (σ α : Type) where
  event : Event σ α
  outcome : Outcome
  requests : List (Request σ)

/-- What has happened so far, the last thing first. -/
abbrev History (σ α : Type) := List (Entry σ α)

structure Run (σ α : Type) where
  session : Session σ
  world : σ
  history : History σ α

namespace Run

def fresh (config : SessionConfig) (world : σ) : Run σ α := ⟨.new config, world, []⟩

def next (act : α → σ → σ) (run : Run σ α) (event : Event σ α) : Run σ α where
  session := (perform act run.session run.world event).2.1
  world := (perform act run.session run.world event).2.2
  history :=
    ⟨event, (perform act run.session run.world event).1, run.session.requests run.world event⟩ :: run.history

def play (act : α → σ → σ) (run : Run σ α) (events : List (Event σ α)) : Run σ α := events.foldl (next act) run

/-- What holds after every transition that an event can make holds after the event. -/
theorem next_of_transition {act : α → σ → σ} {motive : Run σ α → Prop} (run : Run σ α) (event : Event σ α)
    (step : ∀ outcome requests session world,
      Transition act run.session run.world event outcome requests session world →
        motive ⟨session, world, ⟨event, outcome, requests⟩ :: run.history⟩) :
    motive (run.next act event) :=
  step _ _ _ _ (performs act run.session run.world event)

theorem play_induction {act : α → σ → σ} {motive : Run σ α → Prop} {run : Run σ α} (events : List (Event σ α))
    (first : motive run) (step : ∀ run, ∀ event ∈ events, motive run → motive (run.next act event)) :
    motive (run.play act events) := by
  induction events generalizing run with
  | nil => exact first
  | cons event rest ih =>
    refine ih (step run event List.mem_cons_self first) fun run event member => ?_
    exact step run event (List.mem_cons_of_mem _ member)

end Run

structure Begun (σ α : Type) where
  id : CallId
  thread : ThreadId
  name : String
  device : Device
  past : History σ α

def Entry.begun? (entry : Entry σ α) (past : History σ α) : Option (Begun σ α) :=
  match entry.outcome with
  | .began id => entry.event.beginning?.map fun (thread, name, device) => ⟨id, thread, name, device, past⟩
  | _ => none

theorem Entry.past_of_begun {entry : Entry σ α} {past : History σ α} {call : Begun σ α}
    (begun : entry.begun? past = some call) : call.past = past := by
  unfold Entry.begun? at begun
  split at begun
  next =>
    obtain ⟨asked, -, rfl⟩ := Option.map_eq_some_iff.mp begun
    rfl
  next => cases begun

def Entry.endedId? (entry : Entry σ α) : Option CallId :=
  match entry.outcome with
  | .ended id => some id
  | _ => none

namespace History

def begunCalls : History σ α → List (Begun σ α)
  | [] => []
  | entry :: past => (entry.begun? past).toList ++ begunCalls past

def endedIds (history : History σ α) : List CallId := history.filterMap Entry.endedId?

def openCalls (history : History σ α) : List (Begun σ α) :=
  history.begunCalls.filter fun call => call.id ∉ history.endedIds

/-- The calls that are open on a thread, the innermost one first. -/
def openOn (history : History σ α) (thread : ThreadId) : List (Begun σ α) :=
  history.openCalls.filter fun call => call.thread = thread

/-- The calls that have ended, each with what had happened before its end; the last one first. -/
def closedCalls : History σ α → List (Begun σ α × History σ α)
  | [] => []
  | entry :: past =>
    (entry.endedId?.bind fun id => (begunCalls past).find? fun call => call.id = id).toList.map (·, past) ++
      closedCalls past

theorem mem_begun_of_open {history : History σ α} {call : Begun σ α} (member : call ∈ history.openCalls) :
    call ∈ history.begunCalls := (List.mem_filter.mp member).1

section Quiet

variable {entry : Entry σ α} {past : History σ α}

theorem begunCalls_quiet (begun : entry.begun? past = none) : begunCalls (entry :: past) = past.begunCalls := by
  simp [begunCalls, begun]

theorem endedIds_quiet (past : History σ α) (ended : entry.endedId? = none) :
    endedIds (entry :: past) = past.endedIds := by
  simp [endedIds, ended]

theorem openCalls_quiet (begun : entry.begun? past = none) (ended : entry.endedId? = none) :
    openCalls (entry :: past) = past.openCalls := by
  simp [openCalls, begunCalls_quiet begun, endedIds_quiet past ended]

theorem closedCalls_quiet (past : History σ α) (ended : entry.endedId? = none) :
    closedCalls (entry :: past) = past.closedCalls := by
  simp [closedCalls, ended]

end Quiet

section Entries

variable {event : Event σ α} (requests : List (Request σ)) {past : History σ α}

theorem begunCalls_began (id : CallId) {thread : ThreadId} {name : String} {device : Device}
    (asked : event.beginning? = some (thread, name, device)) :
    begunCalls (⟨event, .began id, requests⟩ :: past) = ⟨id, thread, name, device, past⟩ :: begunCalls past := by
  simp [begunCalls, Entry.begun?, asked]

theorem openCalls_began {id : CallId} {thread : ThreadId} {name : String} {device : Device}
    (asked : event.beginning? = some (thread, name, device)) (unknown : id ∉ past.endedIds) :
    openCalls (⟨event, .began id, requests⟩ :: past) = ⟨id, thread, name, device, past⟩ :: openCalls past := by
  have ended : endedIds (⟨event, .began id, requests⟩ :: past) = past.endedIds := rfl
  simp [openCalls, begunCalls_began requests id asked, ended, unknown]

theorem openCalls_ended (id : CallId) :
    openCalls (⟨event, .ended id, requests⟩ :: past) = past.openCalls.filter fun call => call.id ≠ id := by
  have ended : endedIds (⟨event, .ended id, requests⟩ :: past) = id :: past.endedIds := rfl
  have begun : begunCalls (⟨event, .ended id, requests⟩ :: past) = past.begunCalls := rfl
  simp only [openCalls, ended, begun, List.filter_filter]
  refine List.filter_congr fun call _ => ?_
  simp

theorem closedCalls_ended (event : Event σ α) {id : CallId} {call : Begun σ α}
    (found : past.begunCalls.find? (fun other => other.id = id) = some call) :
    closedCalls (⟨event, .ended id, requests⟩ :: past) = (call, past) :: closedCalls past := by
  simp [closedCalls, Entry.endedId?, found]

end Entries

end History

def Begun.depth (call : Begun σ α) : Nat := (call.past.openOn call.thread).length + 1

def Begun.heading (call : Begun σ α) : Heading := ⟨call.name, call.device, .ofNat call.depth⟩

/-- An open call without what the collectors have to do with it. -/
structure Outline where
  id : CallId
  thread : ThreadId
  heading : Heading

def Begun.outline (call : Begun σ α) : Outline := ⟨call.id, call.thread, call.heading⟩

def outlineOf (call : OpenCall) : Outline := ⟨call.id, call.thread, call.heading⟩

/-- The session is what its history makes it. -/
structure Run.Accounted (run : Run σ α) : Prop where
  ids : run.history.begunCalls.map (·.id.number) = (List.range' 1 run.history.begunCalls.length).reverse
  nextId : run.session.nextId.number = run.history.begunCalls.length + 1
  ended_known : ∀ id ∈ run.history.endedIds, id.number < run.session.nextId.number
  stacked : ∃ frames, run.session.pending.Stacked frames ∧
    frames.map outlineOf = run.history.openCalls.map Begun.outline
  closed_ids : run.history.closedCalls.map (·.1.id) = run.history.endedIds
  complete : (run.history.closedCalls.map (·.1) ++ run.history.openCalls).Perm run.history.begunCalls
  records : run.session.ended.map CallRecord.heading = run.history.closedCalls.map (·.1.heading)

theorem truncate_frame (thread : ThreadId) (session : Session σ) (world : σ) (calls : List OpenCall) :
    ∃ collectors ended, (truncate thread session world calls).1 = { session with collectors, ended } := by
  induction calls generalizing session world with
  | nil => exact ⟨_, _, rfl⟩
  | cons call rest ih =>
    obtain ⟨collectors, ended, same⟩ := ih _ _
    exact ⟨collectors, ended, same⟩

theorem truncated_phase (session : Session σ) (found : List OpenCall) (thread : ThreadId) (world : σ) :
    (session.truncated found thread world).1.phase = .finalized := by
  obtain ⟨collectors, ended, same⟩ := truncate_frame thread
    { session with phase := .finalized, pending := .empty } world (newestFirst found)
  rw [truncated, same]

theorem truncated_pending (session : Session σ) (found : List OpenCall) (thread : ThreadId) (world : σ) :
    (session.truncated found thread world).1.pending = .empty := by
  obtain ⟨collectors, ended, same⟩ := truncate_frame thread
    { session with phase := .finalized, pending := .empty } world (newestFirst found)
  rw [truncated, same]

theorem perm_cons_filter_ne {β : Type} (id : β → CallId) {calls : List β}
    (apart : calls.Pairwise fun one other => id one ≠ id other) {call : β} (member : call ∈ calls) :
    calls.Perm (call :: calls.filter fun other => id other ≠ id call) := by
  induction calls with
  | nil => cases member
  | cons head rest ih =>
    obtain ⟨others, tail⟩ := List.pairwise_cons.mp apart
    rcases List.mem_cons.mp member with rfl | within
    · have kept : rest.filter (fun other => id other ≠ id call) = rest := by
        simpa [List.filter_eq_self] using fun other h => (others other h).symm
      simp only [List.filter_cons, ne_eq, not_true_eq_false, decide_false, Bool.false_eq_true, if_false] at kept ⊢
      rw [kept]
    · have differs : id head ≠ id call := others call within
      simp only [List.filter_cons, ne_eq, differs, not_false_eq_true, decide_true, if_true]
      exact ((ih tail within).cons head).trans (.swap call head _)

namespace Run.Accounted

variable {run : Run σ α}

theorem number_of_begun (accounted : run.Accounted) {call : Begun σ α} (member : call ∈ run.history.begunCalls) :
    1 ≤ call.id.number ∧ call.id.number < run.session.nextId.number := by
  have listed : call.id.number ∈ run.history.begunCalls.map (·.id.number) := List.mem_map_of_mem member
  rw [accounted.ids, List.mem_reverse, List.mem_range'_1] at listed
  have := accounted.nextId
  omega

theorem begun_descending (accounted : run.Accounted) :
    run.history.begunCalls.Pairwise fun later earlier => earlier.id.number < later.id.number := by
  have numbers : (run.history.begunCalls.map (·.id.number)).Pairwise fun later earlier => earlier < later := by
    rw [accounted.ids, List.pairwise_reverse]
    exact List.pairwise_lt_range'
  exact List.pairwise_map.mp numbers

theorem begun_apart (accounted : run.Accounted) :
    run.history.begunCalls.Pairwise fun one other => one.id ≠ other.id := by
  refine accounted.begun_descending.imp ?_
  intro later earlier less same
  rw [same] at less
  omega

theorem eq_of_id (accounted : run.Accounted) {one other : Begun σ α} (first : one ∈ run.history.begunCalls)
    (second : other ∈ run.history.begunCalls) (same : one.id = other.id) : one = other := by
  have nodup : (run.history.begunCalls.map (·.id)).Nodup := List.pairwise_map.mpr accounted.begun_apart
  exact List.inj_on_of_nodup_map nodup first second same

theorem find_begun (accounted : run.Accounted) {call : Begun σ α} (member : call ∈ run.history.begunCalls) :
    run.history.begunCalls.find? (fun other => other.id = call.id) = some call := by
  cases found : run.history.begunCalls.find? (fun other => other.id = call.id) with
  | none =>
    have := List.find?_eq_none.mp found call member
    simp at this
  | some other =>
    have same : other.id = call.id := by simpa using List.find?_some found
    rw [accounted.eq_of_id (List.mem_of_find?_eq_some found) member same]

theorem outlines_on (accounted : run.Accounted) (thread : ThreadId) :
    (run.session.pending.on thread).map outlineOf = (run.history.openOn thread).map Begun.outline := by
  obtain ⟨frames, stacked, outlines⟩ := accounted.stacked
  have parts := congrArg (List.filter fun outline => decide (outline.thread = thread)) outlines
  rw [List.filter_map, List.filter_map] at parts
  rw [stacked.on_eq]
  exact parts

theorem ids_on (accounted : run.Accounted) (thread : ThreadId) :
    (run.session.pending.on thread).map (·.id) = (run.history.openOn thread).map (·.id) := by
  have ids := congrArg (List.map Outline.id) (accounted.outlines_on thread)
  rw [List.map_map, List.map_map] at ids
  exact ids

theorem headings_on (accounted : run.Accounted) (thread : ThreadId) :
    (run.session.pending.on thread).map OpenCall.heading = (run.history.openOn thread).map Begun.heading := by
  have headings := congrArg (List.map Outline.heading) (accounted.outlines_on thread)
  rw [List.map_map, List.map_map] at headings
  exact headings

theorem length_on (accounted : run.Accounted) (thread : ThreadId) :
    (run.session.pending.on thread).length = (run.history.openOn thread).length := by
  have lengths := congrArg List.length (accounted.outlines_on thread)
  rw [List.length_map, List.length_map] at lengths
  exact lengths

theorem quiet (accounted : run.Accounted) {session : Session σ} {world : σ} {entry : Entry σ α}
    (begun : entry.begun? run.history = none) (ended : entry.endedId? = none)
    (pending : session.pending = run.session.pending) (nextId : session.nextId = run.session.nextId)
    (records : session.ended = run.session.ended) :
    (Run.mk session world (entry :: run.history)).Accounted := by
  have same := History.begunCalls_quiet begun
  have sameEnded := History.endedIds_quiet run.history ended
  have sameOpen := History.openCalls_quiet begun ended
  have sameClosed := History.closedCalls_quiet run.history ended
  constructor
  · simpa [same] using accounted.ids
  · simpa [same, nextId] using accounted.nextId
  · simpa [sameEnded, nextId] using accounted.ended_known
  · simpa [sameOpen, pending] using accounted.stacked
  · simpa [sameClosed, sameEnded] using accounted.closed_ids
  · simpa [same, sameOpen, sameClosed] using accounted.complete
  · simpa [sameClosed, records] using accounted.records

theorem below_nextId (accounted : run.Accounted) {frames : List OpenCall}
    (outlines : frames.map outlineOf = run.history.openCalls.map Begun.outline) {frame : OpenCall}
    (member : frame ∈ frames) : frame.id.number < run.session.nextId.number := by
  have listed : outlineOf frame ∈ run.history.openCalls.map Begun.outline := outlines ▸ List.mem_map_of_mem member
  obtain ⟨call, isOpen, same⟩ := List.mem_map.mp listed
  have known := (accounted.number_of_begun (History.mem_begun_of_open isOpen)).2
  have id : call.id = frame.id := congrArg Outline.id same
  rwa [id] at known

theorem nextId_not_ended (accounted : run.Accounted) : run.session.nextId ∉ run.history.endedIds := by
  intro member
  exact Nat.lt_irrefl _ (accounted.ended_known _ member)

theorem begin (accounted : run.Accounted) {event : Event σ α} {thread : ThreadId} {name : String} {device : Device}
    (asked : event.beginning? = some (thread, name, device)) (requests : List (Request σ)) :
    (Run.mk (run.session.begun thread name device run.world) (run.session.opening thread device run.world).world
      (⟨event, .began run.session.nextId, requests⟩ :: run.history)).Accounted := by
  let call : Begun σ α := ⟨run.session.nextId, thread, name, device, run.history⟩
  have opened := History.openCalls_began requests asked accounted.nextId_not_ended
  constructor <;> simp only [History.begunCalls_began requests run.session.nextId asked, opened]
  · have number : call.id.number = 1 + run.history.begunCalls.length := by
      rw [Nat.add_comm]
      exact accounted.nextId
    rw [List.map_cons, List.length_cons, List.range'_1_concat, List.reverse_append, accounted.ids]
    exact congrArg (· :: _) number
  · rw [List.length_cons, ← accounted.nextId]
    rfl
  · intro id member
    exact Nat.lt_succ_of_lt (accounted.ended_known id member)
  · obtain ⟨frames, stacked, outlines⟩ := accounted.stacked
    refine ⟨run.session.nextCall thread name device run.world :: frames, ?_, ?_⟩
    · exact stacked.push (run.session.nextCall thread name device run.world) fun frame member =>
        accounted.below_nextId outlines member
    · have depth : (run.session.nextCall thread name device run.world).depth = .ofNat call.depth := by
        simp only [nextCall, Begun.depth, call, accounted.length_on]
      rw [List.map_cons, List.map_cons, outlines]
      simp only [outlineOf, Begun.outline, OpenCall.heading, Begun.heading, depth, call]
      rfl
  · exact accounted.closed_ids
  · exact List.perm_middle.trans (accounted.complete.cons call)
  · exact accounted.records

theorem number_of_open (accounted : run.Accounted) {frame : OpenCall} (isOpen : frame ∈ run.session.pending.all) :
    frame.id.number < run.session.nextId.number := by
  obtain ⟨frames, stacked, outlines⟩ := accounted.stacked
  exact accounted.below_nextId outlines (stacked.mem_all.mp isOpen)

theorem all_apart (accounted : run.Accounted) :
    run.session.pending.all.Pairwise fun one other => one.id ≠ other.id := by
  obtain ⟨frames, stacked, -⟩ := accounted.stacked
  have apart : frames.Pairwise fun one other => one.id ≠ other.id := stacked.descending.apart
  exact (stacked.perm.pairwise_iff fun differs => Ne.symm differs).mpr apart

theorem mem_all_begun (accounted : run.Accounted) (thread : ThreadId) (name : String) (device : Device) (world : σ)
    {frame : OpenCall} : frame ∈ (run.session.begun thread name device world).pending.all ↔
      frame = run.session.nextCall thread name device world ∨ frame ∈ run.session.pending.all := by
  obtain ⟨frames, stacked, outlines⟩ := accounted.stacked
  have pushed := stacked.push (run.session.nextCall thread name device world) fun frame member =>
    accounted.below_nextId outlines member
  rw [stacked.mem_all]
  exact pushed.mem_all.trans List.mem_cons

theorem mem_all_popped (accounted : run.Accounted) {thread : ThreadId} {call : OpenCall} {around : List OpenCall}
    (top : run.session.pending.on thread = call :: around) (world : σ) {frame : OpenCall} :
    frame ∈ (run.session.popped thread call around world).pending.all ↔
      frame ∈ run.session.pending.all ∧ frame.id ≠ call.id := by
  obtain ⟨frames, stacked, -⟩ := accounted.stacked
  rw [stacked.mem_all]
  exact (stacked.pop top).mem_all.trans (by simp)

theorem begun_of_top (accounted : run.Accounted) {thread : ThreadId} {frame : OpenCall} {around : List OpenCall}
    (top : run.session.pending.on thread = frame :: around) :
    ∃ call ∈ run.history.openCalls, call.outline = outlineOf frame ∧ frame.thread = thread := by
  obtain ⟨frames, stacked, outlines⟩ := accounted.stacked
  obtain ⟨member, own⟩ := stacked.mem_on.mp (top ▸ List.mem_cons_self)
  have listed : outlineOf frame ∈ run.history.openCalls.map Begun.outline :=
    outlines ▸ List.mem_map_of_mem member
  obtain ⟨call, isOpen, same⟩ := List.mem_map.mp listed
  exact ⟨call, isOpen, same, own⟩

theorem finish (accounted : run.Accounted) (event : Event σ α) {thread : ThreadId} {frame : OpenCall}
    {around : List OpenCall} (top : run.session.pending.on thread = frame :: around)
    (requests : List (Request σ)) :
    (Run.mk (run.session.popped thread frame around run.world) (run.session.closing thread frame run.world).world
      (⟨event, .ended frame.id, requests⟩ :: run.history)).Accounted := by
  obtain ⟨call, isOpen, same, -⟩ := accounted.begun_of_top top
  have known := History.mem_begun_of_open isOpen
  have id : call.id = frame.id := congrArg Outline.id same
  have closed := History.closedCalls_ended requests event (id ▸ accounted.find_begun known)
  constructor <;> simp only [History.openCalls_ended, closed]
  · exact accounted.ids
  · exact accounted.nextId
  · intro other member
    rcases List.mem_cons.mp member with rfl | member
    · exact id ▸ (accounted.number_of_begun known).2
    · exact accounted.ended_known other member
  · obtain ⟨frames, stacked, outlines⟩ := accounted.stacked
    refine ⟨_, stacked.pop top, ?_⟩
    have parts := congrArg (List.filter fun outline => decide (outline.id ≠ frame.id)) outlines
    rw [List.filter_map, List.filter_map] at parts
    exact parts
  · rw [List.map_cons, accounted.closed_ids, id]
    rfl
  · have split := perm_cons_filter_ne Begun.id (accounted.begun_apart.filter _) isOpen
    rw [id] at split
    exact (List.perm_middle.symm.trans (split.symm.append_left _)).trans accounted.complete
  · have heading : call.heading = frame.heading := congrArg Outline.heading same
    rw [List.map_cons, ← accounted.records, heading]
    rfl

end Run.Accounted

theorem accounted_new {session : Session σ} (nextId : session.nextId = ⟨1⟩) (pending : session.pending = .empty)
    (ended : session.ended = []) (world : σ) : (Run.mk session world [] : Run σ α).Accounted where
  ids := rfl
  nextId := by rw [nextId]; rfl
  ended_known := fun _ member => by cases member
  stacked := ⟨[], pending ▸ CallStacks.stacked_empty, rfl⟩
  closed_ids := rfl
  complete := .nil
  records := by rw [ended]; rfl

theorem accounted_fresh (config : SessionConfig) (world : σ) : (Run.fresh config world : Run σ α).Accounted :=
  accounted_new rfl rfl rfl world

/-- Every event keeps the account, as long as the session is not finalized. -/
theorem accounted_next (act : α → σ → σ) {run : Run σ α} (accounted : run.session.phase ≠ .finalized → run.Accounted)
    (event : Event σ α) :
    (run.next act event).session.phase ≠ .finalized → (run.next act event).Accounted := by
  refine Run.next_of_transition (motive := fun run => run.session.phase ≠ .finalized → run.Accounted) run event ?_
  intro outcome requests session world step going
  cases step with
  | refused reason => exact (accounted going).quiet rfl rfl rfl rfl rfl
  | started collectors idle => exact (accounted (by simp [idle])).quiet rfl rfl rfl rfl rfl
  | began asked running => exact (accounted (by simp [running])).begin asked _
  | ended asked running top => exact (accounted (by simp [running])).finish event top _
  | finalized thread running =>
    exfalso
    apply going
    exact truncated_phase _ _ _ _
  | passed action => exact (accounted going).quiet rfl rfl rfl rfl rfl

theorem accounted_play (act : α → σ → σ) {start : Run σ α} (accounted : start.Accounted)
    (events : List (Event σ α)) :
    (start.play act events).session.phase ≠ .finalized → (start.play act events).Accounted :=
  Run.play_induction (motive := fun run => run.session.phase ≠ .finalized → run.Accounted) events
    (fun _ => accounted) fun _ event _ accounted => accounted_next act accounted event

end Session

end CallProfile
