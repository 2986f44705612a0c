import CallProfile.Proofs.Session.Endings
import CallProfile.Proofs.Session.Lifecycle

namespace CallProfile.Session

variable {σ α : Type}

def Run.started (act : α → σ → σ) (config : SessionConfig) (collectors : List (Collector σ)) (world : σ)
    (events : List (Event σ α)) : Run σ α :=
  (Run.fresh config world).play act (.start collectors :: events)

/-- Two runs in which the same calls have begun, ended and been closed. -/
structure Run.SameCalls (run other : Run σ α) : Prop where
  running : run.session.phase = .running ∧ other.session.phase = .running
  accounted : run.Accounted ∧ other.Accounted
  begun : run.history.begunCalls.map Begun.outline = other.history.begunCalls.map Begun.outline
  ended : run.history.endedIds = other.history.endedIds
  closed : run.history.closedCalls.map (·.1.outline) = other.history.closedCalls.map (·.1.outline)

namespace Run.SameCalls

variable {run other : Run σ α} (same : run.SameCalls other)
include same

theorem nextId_eq : run.session.nextId = other.session.nextId := by
  have lengths := congrArg List.length same.begun
  rw [List.length_map, List.length_map] at lengths
  have number : run.session.nextId.number = other.session.nextId.number := by
    rw [same.accounted.1.nextId, same.accounted.2.nextId, lengths]
  exact congrArg CallId.mk number

theorem openCalls_eq : run.history.openCalls.map Begun.outline = other.history.openCalls.map Begun.outline := by
  have parts := congrArg (List.filter fun outline : Outline => decide (outline.id ∉ run.history.endedIds)) same.begun
  rw [List.filter_map, List.filter_map] at parts
  rw [History.openCalls, History.openCalls, ← same.ended]
  exact parts

theorem openOn_eq (thread : ThreadId) :
    (run.history.openOn thread).map Begun.outline = (other.history.openOn thread).map Begun.outline := by
  have parts := congrArg (List.filter fun outline : Outline => decide (outline.thread = thread)) same.openCalls_eq
  rw [List.filter_map, List.filter_map] at parts
  exact parts

theorem on_eq (thread : ThreadId) :
    (run.session.pending.on thread).map outlineOf = (other.session.pending.on thread).map outlineOf := by
  rw [same.accounted.1.outlines_on, same.accounted.2.outlines_on, same.openOn_eq]

theorem top_of_top {thread : ThreadId} {frame : OpenCall} {around : List OpenCall}
    (top : run.session.pending.on thread = frame :: around) :
    ∃ frame' around', other.session.pending.on thread = frame' :: around' ∧ outlineOf frame = outlineOf frame' := by
  have outlines := same.on_eq thread
  rw [top, List.map_cons] at outlines
  obtain ⟨frame', around', found, first, -⟩ := List.map_eq_cons_iff.mp outlines.symm
  exact ⟨frame', around', found, first.symm⟩

theorem endRefusal?_eq (thread : ThreadId) (id : CallId) :
    run.session.endRefusal? thread id = other.session.endRefusal? thread id := by
  unfold endRefusal?
  cases top : run.session.pending.on thread with
  | nil =>
    have outlines := same.on_eq thread
    rw [top, List.map_nil] at outlines
    rw [List.map_eq_nil_iff.mp outlines.symm]
  | cons frame around =>
    obtain ⟨frame', around', top', first⟩ := same.top_of_top top
    simp only [outlineOf, OpenCall.heading, Outline.mk.injEq, Heading.mk.injEq] at first
    obtain ⟨ids, -, ⟨names, -⟩⟩ := first
    have messages : innerCallMessage frame = innerCallMessage frame' := by
      cases frame
      cases frame'
      simp only at ids names
      subst ids names
      rfl
    simp only [top', messages, ids]

theorem refusal?_eq (event : Event σ α) : run.session.refusal? event = other.session.refusal? event := by
  cases event <;>
    simp only [refusal?, same.running.1, same.running.2, ensureRunning_of_running same.running.1,
      ensureRunning_of_running same.running.2, Event.ending?, Option.bind_some, same.endRefusal?_eq]

theorem isOpen_iff {call call' : Begun σ α} (begun : call ∈ run.history.begunCalls)
    (begun' : call' ∈ other.history.begunCalls) (outlines : call.outline = call'.outline) :
    run.IsOpen call ↔ other.IsOpen call' := by
  have ids : call.id = call'.id := congrArg Outline.id outlines
  rw [same.accounted.1.isOpen_iff begun, same.accounted.2.isOpen_iff begun', same.ended, ids]

theorem quiet {event : Event σ α} {outcome : Outcome} {requests requests' : List (Request σ)} {world world' : σ}
    (begun : ∀ id, outcome ≠ .began id) (ended : ∀ id, outcome ≠ .ended id) :
    (Run.mk run.session world (⟨event, outcome, requests⟩ :: run.history)).SameCalls
      ⟨other.session, world', ⟨event, outcome, requests'⟩ :: other.history⟩ := by
  have begins (requests : List (Request σ)) (past : History σ α) :
      (Entry.mk event outcome requests).begun? past = none := by
    cases outcome with
    | began id => exact absurd rfl (begun id)
    | _ => rfl
  have ends (requests : List (Request σ)) : (Entry.mk event outcome requests).endedId? = none := by
    cases outcome with
    | ended id => exact absurd rfl (ended id)
    | _ => rfl
  refine ⟨same.running, ⟨same.accounted.1.quiet (begins _ _) (ends _) rfl rfl rfl,
    same.accounted.2.quiet (begins _ _) (ends _) rfl rfl rfl⟩, ?_, ?_, ?_⟩
  · rw [History.begunCalls_quiet (begins _ _), History.begunCalls_quiet (begins _ _)]
    exact same.begun
  · rw [History.endedIds_quiet _ (ends _), History.endedIds_quiet _ (ends _)]
    exact same.ended
  · rw [History.closedCalls_quiet _ (ends _), History.closedCalls_quiet _ (ends _)]
    exact same.closed

theorem begin {event : Event σ α} {thread : ThreadId} {name : String} {device : Device}
    (asked : event.beginning? = some (thread, name, device)) (requests requests' : List (Request σ)) :
    (Run.mk (run.session.begun thread name device run.world) (run.session.opening thread device run.world).world
      (⟨event, .began run.session.nextId, requests⟩ :: run.history)).SameCalls
      ⟨other.session.begun thread name device other.world, (other.session.opening thread device other.world).world,
        ⟨event, .began other.session.nextId, requests'⟩ :: other.history⟩ := by
  have depths := congrArg List.length (same.openOn_eq thread)
  rw [List.length_map, List.length_map] at depths
  refine ⟨same.running, ⟨same.accounted.1.begin asked requests, same.accounted.2.begin asked requests'⟩, ?_, ?_, ?_⟩
  · rw [History.begunCalls_began _ _ asked, History.begunCalls_began _ _ asked, List.map_cons, List.map_cons,
      same.begun]
    simp only [Begun.outline, Begun.heading, Begun.depth, same.nextId_eq, depths]
  · exact same.ended
  · exact same.closed

theorem finish (event : Event σ α) {thread : ThreadId} {frame frame' : OpenCall} {around around' : List OpenCall}
    (top : run.session.pending.on thread = frame :: around)
    (top' : other.session.pending.on thread = frame' :: around') (first : outlineOf frame = outlineOf frame')
    (requests requests' : List (Request σ)) :
    (Run.mk (run.session.popped thread frame around run.world) (run.session.closing thread frame run.world).world
      (⟨event, .ended frame.id, requests⟩ :: run.history)).SameCalls
      ⟨other.session.popped thread frame' around' other.world,
        (other.session.closing thread frame' other.world).world,
        ⟨event, .ended frame'.id, requests'⟩ :: other.history⟩ := by
  obtain ⟨call, isOpen, outline, -⟩ := same.accounted.1.begun_of_top top
  obtain ⟨call', isOpen', outline', -⟩ := same.accounted.2.begun_of_top top'
  have id : call.id = frame.id := congrArg Outline.id outline
  have id' : call'.id = frame'.id := congrArg Outline.id outline'
  have ids : frame.id = frame'.id := congrArg Outline.id first
  refine ⟨same.running, ⟨same.accounted.1.finish event top requests, same.accounted.2.finish event top' requests'⟩,
    same.begun, ?_, ?_⟩
  · exact congrArg₂ List.cons ids same.ended
  · rw [History.closedCalls_ended _ event (id ▸ same.accounted.1.find_begun (History.mem_begun_of_open isOpen)),
      History.closedCalls_ended _ event (id' ▸ same.accounted.2.find_begun (History.mem_begun_of_open isOpen')),
      List.map_cons, List.map_cons, same.closed, outline, outline', first]

end Run.SameCalls

theorem sameCalls_next (act : α → σ → σ) {run other : Run σ α}
    (same : run.session.phase ≠ .finalized → run.SameCalls other) (event : Event σ α)
    (going : (run.next act event).session.phase ≠ .finalized) :
    (run.next act event).SameCalls (other.next act event) := by
  have step := performs act run.session run.world event
  unfold Performs at step
  simp only [Run.next] at going ⊢
  generalize perform act run.session run.world event = performed at step going ⊢
  obtain ⟨outcome, session, world⟩ := performed
  simp only at step going ⊢
  generalize run.session.requests run.world event = requests at step ⊢
  generalize other.session.requests other.world event = requests'
  cases step with
  | refused reason =>
    have same := same going
    rw [perform_refused act ((same.refusal?_eq event).symm.trans reason)]
    exact same.quiet (by simp) (by simp)
  | started collectors idle =>
    have running := (same (by simp [idle])).running.1
    cases idle.symm.trans running
  | began asked running =>
    have same := same (by simp [running])
    rw [perform_began act same.running.2 other.world asked]
    exact same.begin asked _ _
  | ended asked running top =>
    have same := same (by simp [running])
    obtain ⟨frame', around', top', first⟩ := same.top_of_top top
    have ids := congrArg Outline.id first
    rw [perform_ended act same.running.2 other.world (asked.trans (congrArg _ (congrArg _ ids))) top']
    exact same.finish event top top' first _ _
  | finalized thread running => exact absurd (truncated_phase _ _ _ _) going
  | passed action =>
    exact (same going).quiet (by simp) (by simp)

theorem sameCalls_play (act : α → σ → σ) (events : List (Event σ α)) {run other : Run σ α}
    (same : run.session.phase ≠ .finalized → run.SameCalls other)
    (going : (run.play act events).session.phase ≠ .finalized) :
    (run.play act events).SameCalls (other.play act events) := by
  induction events generalizing run other with
  | nil => exact same going
  | cons event rest ih => exact ih (sameCalls_next act same event) going

theorem sameCalls_started (act : α → σ → σ) (config : SessionConfig) (collectors others : List (Collector σ))
    (world world' : σ) (events : List (Event σ α))
    (going : (Run.started act config collectors world events).session.phase ≠ .finalized) :
    (Run.started act config collectors world events).SameCalls (Run.started act config others world' events) := by
  have accounted (collectors : List (Collector σ)) (world : σ) :
      ((Run.fresh config world).next act (.start collectors)).Accounted :=
    accounted_next act (fun _ => accounted_fresh config world) _ nofun
  have first : ((Run.fresh config world).next act (.start collectors)).SameCalls
      ((Run.fresh config world').next act (.start others)) :=
    ⟨⟨rfl, rfl⟩, ⟨accounted collectors world, accounted others world'⟩, rfl, rfl, rfl⟩
  exact sameCalls_play act events (fun _ => first) going

end CallProfile.Session
