import CallProfile.Proofs.Session.Lifecycle
import CallProfile.Proofs.Session.ThreadStacks

namespace CallProfile.Session

variable {σ α : Type}

namespace Work

/-- What becomes of a guard in the end. It ends its call unless it is finished, and nobody hears of a failure. -/
def dropGuard (guard : CallGuard) (finished : Bool) : Work σ Unit := ExceptT.mk do
  if !finished then let _ ← (endCall guard.thread guard.id).run
  return .ok ()

/-- Ends the call of a guard, which is then dropped as finished, before it is told what came of it. -/
def finishGuard (guard : CallGuard) : Work σ Unit := ExceptT.mk do
  let result ← (endCall guard.thread guard.id).run
  let _ ← (dropGuard guard true).run
  return result

theorem dropGuard_on (guard : CallGuard) (bench : Bench σ) :
    (dropGuard guard false).on bench = (.ok (), ((endCall guard.thread guard.id).on bench).2) := rfl

theorem finishGuard_on (guard : CallGuard) (bench : Bench σ) :
    (finishGuard guard).on bench = (endCall guard.thread guard.id).on bench := rfl

end Work

def openIds (session : Session σ) : List CallId := session.pending.all.map (·.id)

/-- The calls that an event has closed. -/
def closedIn (before after : Session σ) : List CallId := before.openIds.filter fun id => id ∉ after.openIds

def Run.closings (act : α → σ → σ) (run : Run σ α) : List (Event σ α) → List CallId
  | [] => []
  | event :: rest => closedIn run.session (run.next act event).session ++ (run.next act event).closings act rest

theorem mem_closedIn {before after : Session σ} {id : CallId} :
    id ∈ closedIn before after ↔ id ∈ before.openIds ∧ id ∉ after.openIds := by
  simp [closedIn]

theorem closedIn_self (session : Session σ) : closedIn session session = [] := by
  refine List.eq_nil_iff_forall_not_mem.mpr fun id member => ?_
  obtain ⟨before, after⟩ := mem_closedIn.mp member
  exact after before

namespace Run.Accounted

variable {run : Run σ α}

theorem mem_openIds_begun (accounted : run.Accounted) (thread : ThreadId) (name : String) (device : Device)
    {id : CallId} : id ∈ (run.session.begun thread name device run.world).openIds ↔
      id = run.session.nextId ∨ id ∈ run.session.openIds := by
  simp only [openIds, List.mem_map, accounted.mem_all_begun, or_and_right, exists_or, exists_eq_left]
  rw [eq_comm]
  rfl

theorem mem_openIds_popped (accounted : run.Accounted) {thread : ThreadId} {frame : OpenCall} {around : List OpenCall}
    (top : run.session.pending.on thread = frame :: around) (world : σ) {id : CallId} :
    id ∈ (run.session.popped thread frame around world).openIds ↔ id ∈ run.session.openIds ∧ id ≠ frame.id := by
  simp only [openIds, List.mem_map, accounted.mem_all_popped top]
  constructor
  · rintro ⟨call, ⟨isOpen, other⟩, rfl⟩
    exact ⟨⟨call, isOpen, rfl⟩, other⟩
  · rintro ⟨⟨call, isOpen, rfl⟩, other⟩
    exact ⟨call, ⟨isOpen, other⟩, rfl⟩

end Run.Accounted

/-- What is known of a run in every phase. -/
structure Run.Tidy (run : Run σ α) : Prop where
  accounted : run.session.phase ≠ .finalized → run.Accounted
  cleared : run.session.phase = .finalized → run.session.pending = .empty
  begun : run.history.begunCalls ≠ [] → run.session.phase ≠ .idle

namespace Run.Tidy

variable {run : Run σ α}

theorem next (tidy : run.Tidy) (act : α → σ → σ) (event : Event σ α) : (run.next act event).Tidy := by
  have phases : ((run.next act event).session.phase = .finalized → (run.next act event).session.pending = .empty) ∧
      ((run.next act event).history.begunCalls ≠ [] → (run.next act event).session.phase ≠ .idle) := by
    refine Run.next_of_transition (motive := fun after =>
      (after.session.phase = .finalized → after.session.pending = .empty) ∧
        (after.history.begunCalls ≠ [] → after.session.phase ≠ .idle)) run event ?_
    intro outcome requests session world step
    cases step with
    | refused reason => exact ⟨tidy.cleared, tidy.begun⟩
    | started collectors idle => simp
    | began asked running => simp [Session.begun, running]
    | ended asked running top => simp [popped, running]
    | finalized thread running => exact ⟨fun _ => truncated_pending _ _ _ _, fun _ => by simp [truncated_phase]⟩
    | passed action => exact ⟨tidy.cleared, tidy.begun⟩
  exact ⟨accounted_next act tidy.accounted event, phases.1, phases.2⟩

theorem play (act : α → σ → σ) (config : SessionConfig) (world : σ) (events : List (Event σ α)) :
    ((Run.fresh config world).play act events).Tidy := by
  refine Run.play_induction events ?_ fun _ event _ tidy => tidy.next act event
  exact ⟨fun _ => accounted_fresh config world, nofun, nofun⟩

theorem nodup_openIds (tidy : run.Tidy) : run.session.openIds.Nodup := by
  by_cases finished : run.session.phase = .finalized
  · rw [openIds, tidy.cleared finished]
    exact .nil
  · exact List.pairwise_map.mpr (tidy.accounted finished).all_apart

theorem number_of_openIds (tidy : run.Tidy) {id : CallId} (isOpen : id ∈ run.session.openIds) :
    id.number < run.session.nextId.number := by
  obtain ⟨frame, member, rfl⟩ := List.mem_map.mp isOpen
  by_cases finished : run.session.phase = .finalized
  · rw [tidy.cleared finished] at member
    cases member
  · exact (tidy.accounted finished).number_of_open member

theorem openIds_next (tidy : run.Tidy) (act : α → σ → σ) (event : Event σ α) :
    run.session.nextId.number ≤ (run.next act event).session.nextId.number ∧
      ∀ id ∈ (run.next act event).session.openIds,
        id ∈ run.session.openIds ∨ run.session.nextId.number ≤ id.number := by
  refine Run.next_of_transition (motive := fun after => run.session.nextId.number ≤ after.session.nextId.number ∧
    ∀ id ∈ after.session.openIds, id ∈ run.session.openIds ∨ run.session.nextId.number ≤ id.number) run event ?_
  intro outcome requests session world step
  cases step with
  | refused reason => exact ⟨Nat.le_refl _, fun id isOpen => .inl isOpen⟩
  | started collectors idle => exact ⟨Nat.le_refl _, fun id isOpen => .inl isOpen⟩
  | began asked running =>
    refine ⟨Nat.le_succ _, fun id isOpen => ?_⟩
    rcases ((tidy.accounted (by simp [running])).mem_openIds_begun _ _ _).mp isOpen with rfl | isOpen
    · exact .inr (Nat.le_refl _)
    · exact .inl isOpen
  | ended asked running top =>
    refine ⟨Nat.le_refl _, fun id isOpen => .inl ?_⟩
    exact (((tidy.accounted (by simp [running])).mem_openIds_popped top run.world).mp isOpen).1
  | finalized thread running =>
    obtain ⟨collectors, ended, same⟩ := truncate_frame thread
      { run.session with phase := .finalized, pending := .empty } run.world (newestFirst run.session.pending.all)
    rw [truncated, same]
    refine ⟨Nat.le_refl _, fun id isOpen => ?_⟩
    cases isOpen
  | passed action => exact ⟨Nat.le_refl _, fun id isOpen => .inl isOpen⟩

theorem closings (tidy : run.Tidy) (act : α → σ → σ) (events : List (Event σ α)) :
    (run.closings act events).Nodup ∧
      ∀ id ∈ run.closings act events, id ∈ run.session.openIds ∨ run.session.nextId.number ≤ id.number := by
  induction events generalizing run with
  | nil => exact ⟨.nil, nofun⟩
  | cons event rest ih =>
    obtain ⟨nodup, later⟩ := ih (tidy.next act event)
    obtain ⟨larger, opened⟩ := tidy.openIds_next act event
    rw [Run.closings]
    refine ⟨List.nodup_append'.mpr ⟨tidy.nodup_openIds.filter _, nodup, ?_⟩, fun id member => ?_⟩
    · -- what is open afterwards, or begins afterwards, is not what the event closed
      intro id now again
      obtain ⟨before, after⟩ := mem_closedIn.mp now
      have known := tidy.number_of_openIds before
      rcases later id again with isOpen | new
      · exact after isOpen
      · omega
    · rcases List.mem_append.mp member with now | again
      · exact .inl (mem_closedIn.mp now).1
      · rcases later id again with isOpen | new
        · exact opened id isOpen
        · exact .inr (Nat.le_trans larger new)

end Run.Tidy

def Event.isEnter : Event σ α → Bool
  | .enter _ _ _ => true
  | _ => false

def History.guardedCalls : History σ α → List (Begun σ α)
  | [] => []
  | entry :: past => (if entry.event.isEnter then (entry.begun? past).toList else []) ++ guardedCalls past

def Begun.guard (call : Begun σ α) : CallGuard := ⟨call.id, call.thread⟩

theorem begun_of_guarded {history : History σ α} {call : Begun σ α} (guarded : call ∈ history.guardedCalls) :
    call ∈ history.begunCalls := by
  induction history with
  | nil => cases guarded
  | cons entry past ih =>
    rw [History.guardedCalls, List.mem_append] at guarded
    rw [History.begunCalls, List.mem_append]
    rcases guarded with here | before
    · split at here
      · exact .inl here
      · cases here
    · exact .inr (ih before)

/-- The call is the innermost open call of its thread, and the session is running. -/
def Run.Innermost (run : Run σ α) (call : Begun σ α) : Prop :=
  run.session.phase = .running ∧ (run.history.openOn call.thread).head? = some call

/-- From one session to the other this call is closed, and nothing else happens to the calls. -/
structure Closes (call : Begun σ α) (before after : Session σ) : Prop where
  own : after.pending.on call.thread = (before.pending.on call.thread).tail
  others : ∀ thread, thread ≠ call.thread → after.pending.on thread = before.pending.on thread
  closed : closedIn before after = [call.id]
  recorded : ∃ record, record.heading = call.heading ∧ after.ended = record :: before.ended
  kept : after.config = before.config ∧ after.phase = before.phase ∧ after.nextId = before.nextId

namespace Run.Accounted

variable {run : Run σ α} {call : Begun σ α}

theorem innermost_iff (accounted : run.Accounted) (begun : call ∈ run.history.begunCalls) :
    (run.history.openOn call.thread).head? = some call ↔
      ∃ frame around, run.session.pending.on call.thread = frame :: around ∧ outlineOf frame = call.outline := by
  have outlines := accounted.outlines_on call.thread
  constructor
  · intro innermost
    obtain ⟨rest, opened⟩ := List.head?_eq_some_iff.mp innermost
    rw [opened, List.map_cons] at outlines
    obtain ⟨frame, around, top, same, -⟩ := List.map_eq_cons_iff.mp outlines
    exact ⟨frame, around, top, same⟩
  · rintro ⟨frame, around, top, same⟩
    obtain ⟨other, rest, opened, outline, isOpen, -⟩ := accounted.openOn_of_top top
    have id : other.id = call.id := congrArg Outline.id (outline.trans same)
    rw [opened, List.head?_cons, accounted.eq_of_id (History.mem_begun_of_open isOpen) begun id]

theorem outline_of_id (accounted : run.Accounted) (begun : call ∈ run.history.begunCalls) {frame : OpenCall}
    {around : List OpenCall} (top : run.session.pending.on call.thread = frame :: around) (own : frame.id = call.id) :
    outlineOf frame = call.outline := by
  obtain ⟨other, rest, -, outline, isOpen, -⟩ := accounted.openOn_of_top top
  have id : other.id = call.id := (congrArg Outline.id outline).trans own
  rw [← outline, accounted.eq_of_id (History.mem_begun_of_open isOpen) begun id]

theorem closes_popped (accounted : run.Accounted) {frame : OpenCall} {around : List OpenCall}
    (top : run.session.pending.on call.thread = frame :: around) (same : outlineOf frame = call.outline) :
    Closes call run.session (run.session.popped call.thread frame around run.world) where
  own := by
    rw [top]
    exact CallStacks.on_setOn_self _ _ _
  others thread apart := CallStacks.on_setOn_of_ne _ apart _
  closed := by
    have id : frame.id = call.id := congrArg Outline.id same
    have isOpen : call.id ∈ run.session.openIds :=
      List.mem_map.mpr ⟨frame, CallStacks.mem_all_iff.mpr ⟨call.thread, top ▸ List.mem_cons_self⟩, id⟩
    have nodup : run.session.openIds.Nodup := List.pairwise_map.mpr accounted.all_apart
    have kept : closedIn run.session (run.session.popped call.thread frame around run.world) =
        run.session.openIds.filter (· = call.id) := by
      refine List.filter_congr fun other member => ?_
      simp [accounted.mem_openIds_popped top, member, id]
    rw [kept, List.filter_eq, nodup.count, if_pos isOpen, List.replicate_one]
  recorded := ⟨run.session.recordOf call.thread frame run.world, congrArg Outline.heading same, rfl⟩
  kept := ⟨rfl, rfl, rfl⟩

end Run.Accounted

/-- What a guard does for the call that was begun with it. -/
structure Run.Guards (run : Run σ α) (act : α → σ → σ) (call : Begun σ α) : Prop where
  finishing : (run.next act (.finish call.guard)).bench = ((Work.finishGuard call.guard).on run.bench).2
  dropping : (run.next act (.drop call.guard)).bench = ((Work.dropGuard call.guard false).on run.bench).2
  top_iff : run.Innermost call ↔ run.session.phase = .running ∧
    ∃ frame around, run.session.pending.on call.thread = frame :: around ∧ outlineOf frame = call.outline
  alike : ((Work.dropGuard call.guard false).on run.bench).2 = ((Work.finishGuard call.guard).on run.bench).2
  changes_iff : ((Work.finishGuard call.guard).on run.bench).2.session ≠ run.session ↔ run.Innermost call
  only : ∀ id ∈ closedIn run.session ((Work.finishGuard call.guard).on run.bench).2.session, id = call.id
  innermost : run.Innermost call → ∃ after : Bench σ, Closes call run.session after.session ∧
    (Work.finishGuard call.guard).on run.bench = (.ok (), after) ∧
    (Work.dropGuard call.guard false).on run.bench = (.ok (), after)
  otherwise : ¬ run.Innermost call → ∃ error,
    (Work.finishGuard call.guard).on run.bench = (.error error, run.bench) ∧
    (Work.dropGuard call.guard false).on run.bench = (.ok (), run.bench) ∧
    (run.session.phase = .running ∧ (∃ reason, error = .unmatched call.id reason) ∨
      run.session.phase = .finalized ∧ error = .alreadyFinalized)

theorem carryOut_ending (act : α → σ → σ) {event : Event σ α} {thread : ThreadId} {id : CallId}
    (asked : event.ending? = some (thread, id)) (bench : Bench σ) :
    (carryOut act event bench).2 = ((Work.endCall thread id).on bench).2 := by
  rcases ended : (Work.endCall thread id).on bench with ⟨error | done, after⟩
  · cases event <;> simp only [Event.ending?, reduceCtorEq, Option.some.injEq, Prod.mk.injEq] at asked
    all_goals
      obtain ⟨rfl, rfl⟩ := asked
      rw [carryOut, Work.event, Work.on_bind_error ended]
  · cases event <;> simp only [Event.ending?, reduceCtorEq, Option.some.injEq, Prod.mk.injEq] at asked
    all_goals
      obtain ⟨rfl, rfl⟩ := asked
      rw [carryOut, Work.event, Work.on_bind_ok ended]
      rfl

theorem next_ending (act : α → σ → σ) (run : Run σ α) {event : Event σ α} {thread : ThreadId} {id : CallId}
    (asked : event.ending? = some (thread, id)) :
    (run.next act event).bench = ((Work.endCall thread id).on run.bench).2 := by
  rw [← carryOut_ending act asked, carryOut_bench]

theorem Run.Tidy.endCall_innermost {run : Run σ α} (tidy : run.Tidy) {call : Begun σ α}
    (begun : call ∈ run.history.begunCalls) (innermost : run.Innermost call) :
    ∃ after : Bench σ, Closes call run.session after.session ∧
      (Work.endCall call.thread call.id).on run.bench = (.ok (), after) := by
  obtain ⟨running, head⟩ := innermost
  have accounted := tidy.accounted (by simp [running])
  obtain ⟨frame, around, top, same⟩ := (accounted.innermost_iff begun).mp head
  have id : frame.id = call.id := congrArg Outline.id same
  have worked : (Work.endCall call.thread frame.id).on run.bench = _ := Work.endCall_on running call.thread top
  rw [id] at worked
  exact ⟨_, accounted.closes_popped top same, worked⟩

theorem Run.Tidy.endCall_otherwise {run : Run σ α} (tidy : run.Tidy) {call : Begun σ α}
    (begun : call ∈ run.history.begunCalls) (otherwise : ¬ run.Innermost call) :
    ∃ error, (Work.endCall call.thread call.id).on run.bench = (.error error, run.bench) ∧
      (run.session.phase = .running ∧ (∃ reason, error = .unmatched call.id reason) ∨
        run.session.phase = .finalized ∧ error = .alreadyFinalized) := by
  cases phase : run.session.phase with
  | idle => exact absurd phase (tidy.begun (List.ne_nil_of_mem begun))
  | running =>
    have accounted := tidy.accounted (by simp [phase])
    have foreign : (run.session.pending.on call.thread).head?.map (·.id) ≠ some call.id := by
      intro own
      obtain ⟨frame, head, id⟩ := Option.map_eq_some_iff.mp own
      obtain ⟨around, top⟩ := List.head?_eq_some_iff.mp head
      have same := accounted.outline_of_id begun top id
      exact otherwise ⟨phase, (accounted.innermost_iff begun).mpr ⟨frame, around, top, same⟩⟩
    obtain ⟨reason, refused⟩ := endRefusal?_unmatched foreign
    have refusal : run.session.refusal? (.endCall call.thread call.id : Event σ α) =
        some (.unmatched call.id reason) := by
      rw [refusal?_of_ending phase rfl, refused]
    exact ⟨_, Work.endCall_refused refusal, .inl ⟨rfl, reason, rfl⟩⟩
  | finalized =>
    have refusal : run.session.refusal? (.endCall call.thread call.id : Event σ α) = some .alreadyFinalized := by
      simp [refusal?, ensureRunning, phase]
    exact ⟨_, Work.endCall_refused refusal, .inr ⟨rfl, rfl⟩⟩

theorem Closes.changes {call : Begun σ α} {before after : Session σ} (closes : Closes call before after) :
    after ≠ before := by
  rintro rfl
  have closed := closes.closed
  rw [closedIn_self] at closed
  cases closed

theorem Run.Tidy.guards {run : Run σ α} (tidy : run.Tidy) (act : α → σ → σ) {call : Begun σ α}
    (begun : call ∈ run.history.begunCalls) : run.Guards act call where
  finishing := next_ending act run rfl
  dropping := next_ending act run rfl
  top_iff := and_congr_right fun running => (tidy.accounted (by simp [running])).innermost_iff begun
  alike := rfl
  changes_iff := by
    rw [Work.finishGuard_on]
    by_cases here : run.Innermost call
    · obtain ⟨after, closes, worked⟩ := tidy.endCall_innermost begun here
      rw [Begun.guard, worked]
      exact iff_of_true closes.changes here
    · obtain ⟨error, refused, -⟩ := tidy.endCall_otherwise begun here
      rw [Begun.guard, refused]
      exact iff_of_false (fun changed => changed rfl) here
  only := by
    rw [Work.finishGuard_on]
    by_cases here : run.Innermost call
    · obtain ⟨after, closes, worked⟩ := tidy.endCall_innermost begun here
      rw [Begun.guard, worked, closes.closed]
      exact fun id member => List.mem_singleton.mp member
    · obtain ⟨error, refused, -⟩ := tidy.endCall_otherwise begun here
      rw [Begun.guard, refused]
      exact fun id member => nomatch (closedIn_self run.session) ▸ member
  innermost here := by
    obtain ⟨after, closes, worked⟩ := tidy.endCall_innermost begun here
    exact ⟨after, closes, worked, by rw [Work.dropGuard_on, Begun.guard, worked]⟩
  otherwise elsewhere := by
    obtain ⟨error, refused, reason⟩ := tidy.endCall_otherwise begun elsewhere
    exact ⟨error, refused, by rw [Work.dropGuard_on, Begun.guard, refused], reason⟩

/--
However guards, raw ends by id and the end of the session come together, no call is closed twice, and a guard closes
its own call, if that is the innermost one of its thread in a running session, and changes nothing otherwise.
-/
theorem guards_end_their_own_calls (act : α → σ → σ) (config : SessionConfig) (world : σ) (events : List (Event σ α)) :
    ((Run.fresh config world).closings act events).Nodup ∧
      ∀ call ∈ ((Run.fresh config world).play act events).history.guardedCalls,
        ((Run.fresh config world).play act events).Guards act call := by
  have fresh : (Run.fresh config world : Run σ α).Tidy := .play act config world []
  refine ⟨(fresh.closings act events).1, fun call guarded => ?_⟩
  exact (Run.Tidy.play act config world events).guards act (begun_of_guarded guarded)

def crossed : List (Event Unit Empty) :=
  [.start [], .enter ⟨0⟩ "outer" (.cpu 0), .enter ⟨0⟩ "inner" (.cpu 0), .finish ⟨⟨1⟩, ⟨0⟩⟩, .drop ⟨⟨2⟩, ⟨0⟩⟩]

theorem guards_end_their_own_calls_crossed :
    let run : Run Unit Empty := (Run.fresh (.named "run") ()).play (fun action _ => action.elim) crossed
    (Run.fresh (.named "run") ()).closings (fun action _ => action.elim)
        (crossed ++ [.drop ⟨⟨1⟩, ⟨0⟩⟩, .endCall ⟨0⟩ ⟨2⟩, .finalize ⟨0⟩]) = [⟨2⟩, ⟨1⟩] ∧
      ∃ outer inner, run.history.guardedCalls = [inner, outer] ∧ run.Innermost outer ∧
        run.Guards (fun action _ => action.elim) outer ∧ run.Guards (fun action _ => action.elim) inner ∧
        ((Work.finishGuard inner.guard).on run.bench).1 = .error (.unmatched ⟨2⟩ (innerCallMessage
          ⟨⟨1⟩, "outer", .cpu 0, 1, ⟨0⟩, [], .empty⟩)) := by
  intro run
  have law := (guards_end_their_own_calls (fun action _ => action.elim) (.named "run") () crossed).2
  exact ⟨rfl, _, _, rfl, ⟨rfl, rfl⟩, law _ (.tail _ (.head _)), law _ (.head _), rfl⟩

end CallProfile.Session
