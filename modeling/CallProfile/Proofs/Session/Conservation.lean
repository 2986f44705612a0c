import CallProfile.Proofs.Session.History

namespace CallProfile.Session

variable {σ α : Type}

/-- The report has one record for each call of the run. -/
structure Conserved (run : Run σ α) (report : Report) : Prop where
  one_each : (run.history.closedCalls.reverse.map (·.1) ++ run.history.openCalls).Perm run.history.begunCalls
  headings : report.calls.map CallRecord.heading =
    (run.history.closedCalls.reverse.map (·.1) ++ run.history.openCalls).map Begun.heading
  in_order_of_ends : run.history.closedCalls.reverse.map (·.1.id) = run.history.endedIds.reverse
  descending : run.history.openCalls.Pairwise fun later earlier => earlier.id.number < later.id.number
  innermost_first : ∀ thread,
    (run.session.pending.on thread).map (·.id) = (run.history.openOn thread).map (·.id)
  marked : ∀ record ∈ report.calls.drop run.history.closedCalls.length,
    record.metric? truncatedName = some (.text "true")

theorem metric?_close_truncated (session : Session σ) (thread : ThreadId) (call : OpenCall) (world : σ) :
    (session.close thread call true world).1.metric? truncatedName = some (.text "true") := by
  simp [close, CallRecord.metric?, markTruncated]

theorem truncate_ended (thread : ThreadId) (session : Session σ) (world : σ) (calls : List OpenCall) :
    ∃ records : List CallRecord, (truncate thread session world calls).1.ended = records.reverse ++ session.ended ∧
      records.map CallRecord.heading = calls.map OpenCall.heading ∧
      ∀ record ∈ records, record.metric? truncatedName = some (.text "true") := by
  induction calls generalizing session world with
  | nil => exact ⟨[], rfl, rfl, by simp⟩
  | cons call rest ih =>
    let closed := session.close thread call true world
    obtain ⟨records, ended, headings, marked⟩ := ih { closed.2.1 with ended := closed.1 :: session.ended } closed.2.2
    refine ⟨closed.1 :: records, ?_, ?_, ?_⟩
    · simp only [List.reverse_cons, List.append_assoc, List.singleton_append]
      exact ended
    · rw [List.map_cons, List.map_cons, headings]
      rfl
    · intro record member
      rcases List.mem_cons.mp member with rfl | member
      · exact metric?_close_truncated session thread call world
      · exact marked record member

theorem phase_of_finalize {session after : Session σ} {thread : ThreadId} {world worldAfter : σ} {report : Report}
    (finished : session.finalize thread world = .ok (report, after, worldAfter)) : session.phase = .running := by
  cases running : session.ensureRunning with
  | error error => simp [finalize, finalizeFrom, running, Bind.bind, Except.bind] at finished
  | ok _ => exact (ensureRunning_eq_ok_iff session).mp running

theorem calls_of_finalize {session after : Session σ} {thread : ThreadId} {world worldAfter : σ} {report : Report}
    (finished : session.finalize thread world = .ok (report, after, worldAfter)) :
    report.calls = (session.truncated session.pending.all thread world).1.ended.reverse := by
  rw [finalize, finalizeFrom_of_running (phase_of_finalize finished)] at finished
  cases finished
  rfl

theorem Run.Accounted.conserved {run : Run σ α} (accounted : run.Accounted) {thread : ThreadId} {report : Report}
    {after : Session σ} {worldAfter : σ}
    (finished : run.session.finalize thread run.world = .ok (report, after, worldAfter)) :
    Conserved run report := by
  obtain ⟨frames, stacked, outlines⟩ := accounted.stacked
  have found : newestFirst run.session.pending.all = frames := stacked.newestFirst_eq (.refl _)
  obtain ⟨records, ended, headings, marked⟩ := truncate_ended thread
    { run.session with phase := .finalized, pending := .empty } run.world frames
  have calls : report.calls = run.session.ended.reverse ++ records := by
    rw [calls_of_finalize finished, truncated, found, ended]
    simp
  have frameHeadings : frames.map OpenCall.heading = run.history.openCalls.map Begun.heading := by
    simpa [Function.comp_def, outlineOf, Begun.outline] using congrArg (List.map Outline.heading) outlines
  have endedCount : run.session.ended.reverse.length = run.history.closedCalls.length := by
    simpa using congrArg List.length accounted.records
  constructor
  · exact ((List.reverse_perm _).map _ |>.append_right _).trans accounted.complete
  · rw [calls, List.map_append, List.map_append, headings, frameHeadings, List.map_reverse, accounted.records]
    simp
  · rw [List.map_reverse, accounted.closed_ids]
  · exact accounted.begun_descending.filter _
  · exact accounted.ids_on
  · intro record member
    rw [calls, List.drop_append_of_le_length (Nat.le_of_eq endedCount.symm), ← endedCount, List.drop_length,
      List.nil_append] at member
    exact marked record member

theorem Run.Accounted.finalizeFrom_eq {run : Run σ α} (accounted : run.Accounted) {found : List OpenCall}
    (same : found.Perm run.session.pending.all) (thread : ThreadId) :
    run.session.finalizeFrom found thread run.world = run.session.finalize thread run.world := by
  obtain ⟨frames, stacked, -⟩ := accounted.stacked
  simp only [finalize, finalizeFrom, stacked.newestFirst_eq same, stacked.newestFirst_eq (.refl _)]

/-- Whatever the collectors do, and in whatever order threads begin and end calls. -/
theorem finalize_conserves (act : α → σ → σ) (config : SessionConfig) (world : σ) (events : List (Event σ α))
    (thread : ThreadId) {report : Report} {after : Session σ} {worldAfter : σ}
    (finished : ((Run.fresh config world).play act events).session.finalize thread
      ((Run.fresh config world).play act events).world = .ok (report, after, worldAfter)) :
    Conserved ((Run.fresh config world).play act events) report ∧
      ∀ found, found.Perm ((Run.fresh config world).play act events).session.pending.all →
        ((Run.fresh config world).play act events).session.finalizeFrom found thread
          ((Run.fresh config world).play act events).world = .ok (report, after, worldAfter) := by
  have accounted := accounted_play act (accounted_fresh config world) events (by simp [phase_of_finalize finished])
  refine ⟨accounted.conserved finished, fun found same => ?_⟩
  rw [accounted.finalizeFrom_eq same]
  exact finished

def unreliable : List (Collector Unit) :=
  [.ofCallbacks ⟨"door", fun _ _ _ world => (.error "closed", world), fun _ _ world => (.ok .empty, world)⟩,
    .ofCallbacks ⟨"gate", fun _ _ _ world => (.ok (), world), fun _ _ world => (.error "lost", world)⟩]

def twoThreads : List (Event Unit Empty) :=
  [.start unreliable, .beginCall ⟨0⟩ "outer" (.cpu 0), .beginCall ⟨1⟩ "other" (.gpu 0),
    .enter ⟨0⟩ "inner" (.gpu 1), .endCall ⟨0⟩ ⟨1⟩, .drop ⟨⟨3⟩, ⟨0⟩⟩]

def twoThreadRun : Run Unit Empty := (Run.fresh (.named "run") ()).play (fun action _ => action.elim) twoThreads

theorem finalize_conserves_two_threads :
    ∃ report after, twoThreadRun.session.finalize ⟨7⟩ twoThreadRun.world = .ok (report, after, ()) ∧
      Conserved twoThreadRun report ∧
      report.calls.map CallRecord.heading = [⟨"inner", .gpu 1, 2⟩, ⟨"other", .gpu 0, 1⟩, ⟨"outer", .cpu 0, 1⟩] := by
  have conserved := (finalize_conserves (fun action _ => Empty.elim action) (.named "run") () twoThreads ⟨7⟩ rfl).1
  exact ⟨_, _, rfl, conserved, conserved.headings.trans rfl⟩

end CallProfile.Session
