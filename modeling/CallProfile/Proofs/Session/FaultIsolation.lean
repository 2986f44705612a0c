import CallProfile.Proofs.Session.SameCalls
import CallProfile.Proofs.Session.Testimonies

namespace CallProfile.Session

variable {σ α : Type}

def Entry.begunId? (entry : Entry σ α) : Option CallId :=
  match entry.outcome with
  | .began id => some id
  | _ => none

def History.openings : History σ α → CallId → List (Request σ)
  | [], _ => []
  | entry :: past, id => if entry.begunId? = some id then entry.requests else openings past id

/-- What the collectors have said about a call, in the order of the collectors. -/
def History.testimonies (history : History σ α) (ending : Ending σ α) : List Testimony :=
  Session.testimonies (history.openings ending.call.id) ending.requests

theorem openings_cons_of_ne {entry : Entry σ α} (past : History σ α) {id : CallId} (other : entry.begunId? ≠ some id) :
    History.openings (entry :: past) id = past.openings id := if_neg other

/-- What is kept of the beginning of an open call is what the requests came to that were made then. -/
structure Admitted (collectors : List (Collector σ)) (openings : List (Request σ)) (frame : OpenCall) : Prop where
  opens : ∀ opening ∈ openings, opening.Opens
  opened : openings.map (·.collector.cleared) = collectors.map Collector.cleared
  errors : frame.errors = openings.foldl Request.addTo .empty
  began : frame.began = openings.map (·.answer.isOk)

/-- Metrics that hold what the requests about a call have added, from its beginning to its end. -/
structure Made (collectors : List (Collector σ)) (openings closings : List (Request σ)) (metrics : MetricMap) :
    Prop where
  heard : Heard collectors openings closings
  metrics : metrics = closings.foldl Request.addTo (openings.foldl Request.addTo .empty)

theorem closes_of_closingDemand {request : Request σ} {thread : ThreadId} {call : OpenCall}
    (demand : request.demand = closingDemand thread call request.collector) : request.Closes := by
  refine ⟨call.id, ?_⟩
  rw [demand, closingDemand]
  split
  · exact .inr rfl
  · exact .inl rfl

section Admission

variable {collectors : List (Collector σ)} {session : Session σ}
  (same : session.collectors.map Collector.cleared = collectors.map Collector.cleared)
include same

theorem admitted_nextCall (thread : ThreadId) (name : String) (device : Device) (world : σ) :
    Admitted collectors (openRequests thread session.nextId device world session.collectors)
      (session.nextCall thread name device world) where
  opens opening member := ⟨_, _, (demand_of_mem_openRequests member).1⟩
  opened := by
    have asked : (openRequests thread session.nextId device world session.collectors).map Request.collector =
        session.collectors := openRequests_collectors world session.collectors
    have own := congrArg (List.map Collector.cleared) asked
    rw [List.map_map] at own
    exact own.trans same
  errors := openWith_errors world session.collectors
  began := openWith_began world session.collectors

theorem Admitted.made {openings closings : List (Request σ)} {frame : OpenCall}
    (admitted : Admitted collectors openings frame) (closes : ∀ closing ∈ closings, closing.Closes)
    (asked : closings.map (·.collector.cleared) = (takers session.collectors frame.began).map Collector.cleared) :
    Made collectors openings closings (closings.foldl Request.addTo frame.errors) := by
  refine ⟨heard_of_asked admitted.opens closes admitted.opened ?_, by rw [admitted.errors]⟩
  rw [asked, map_takers, map_takers, same, admitted.began]

end Admission

namespace Run

theorem Accounted.id_of_ending {run : Run σ α} (accounted : run.Accounted) {ending : Ending σ α}
    (member : ending ∈ run.history.endings) : ending.call.id ≠ run.session.nextId := by
  have listed : ending.call ∈ run.history.closedCalls.map (·.1) :=
    History.endings_calls run.history ▸ List.mem_map_of_mem member
  have known := accounted.complete.subset (List.mem_append_left _ listed)
  intro same
  have below := (accounted.number_of_begun known).2
  rw [same] at below
  omega

/-- All that a run keeps and has recorded of its calls, from its start on, comes from what was asked about them. -/
structure Attested (collectors : List (Collector σ)) (run : Run σ α) : Prop where
  running : run.session.phase = .running
  registered : run.session.collectors.map Collector.cleared = collectors.map Collector.cleared
  admitted : ∀ frame ∈ run.session.pending.all, Admitted collectors (run.history.openings frame.id) frame
  made : List.Forall₂ (fun ending record =>
      Made collectors (run.history.openings ending.call.id) ending.requests record.metrics)
    run.history.endings run.session.ended

namespace Attested

variable {collectors : List (Collector σ)} {run : Run σ α}

theorem quiet (attested : run.Attested collectors) (world : σ) {entry : Entry σ α} (begun : entry.begunId? = none)
    (ended : entry.endedId? = none) : (Run.mk run.session world (entry :: run.history)).Attested collectors := by
  have same (id : CallId) : History.openings (entry :: run.history) id = run.history.openings id :=
    openings_cons_of_ne run.history (by simp [begun])
  refine ⟨attested.running, attested.registered, ?_, ?_⟩
  · simpa only [same] using attested.admitted
  · rw [History.endings_quiet run.history ended]
    simpa only [same] using attested.made

theorem begun (attested : run.Attested collectors) (accounted : run.Accounted) (event : Event σ α) (thread : ThreadId)
    (name : String) (device : Device) (world : σ) :
    (Run.mk (run.session.begun thread name device run.world) world
      (⟨event, .began run.session.nextId,
        openRequests thread run.session.nextId device run.world run.session.collectors⟩ :: run.history)).Attested
      collectors := by
  -- Only the new call has been opened by the new requests: all others have smaller numbers.
  have older {id : CallId} (other : id ≠ run.session.nextId) (requests : List (Request σ)) :
      History.openings (⟨event, .began run.session.nextId, requests⟩ :: run.history) id = run.history.openings id :=
    openings_cons_of_ne run.history fun same => other (Option.some.inj same).symm
  have newest (requests : List (Request σ)) :
      History.openings (⟨event, .began run.session.nextId, requests⟩ :: run.history) run.session.nextId = requests :=
    if_pos rfl
  refine ⟨attested.running, ?_, ?_, ?_⟩
  · exact (cleared_openWith run.world run.session.collectors).trans attested.registered
  · intro frame isOpen
    rcases (accounted.mem_all_begun thread name device run.world).mp isOpen with rfl | isOpen
    · rw [show (run.session.nextCall thread name device run.world).id = run.session.nextId from rfl, newest]
      exact admitted_nextCall attested.registered thread name device run.world
    · rw [older]
      · exact attested.admitted frame isOpen
      · intro same
        have below := accounted.number_of_open isOpen
        rw [same] at below
        omega
  · rw [History.endings_quiet run.history rfl]
    have known : ∀ ending ∈ run.history.endings, ending.call.id ≠ run.session.nextId :=
      fun ending member => accounted.id_of_ending member
    refine ((List.forall₂_and_left _ _).mpr ⟨known, attested.made⟩).imp ?_
    rintro ending record ⟨other, made⟩
    rw [older other]
    exact made

theorem popped (attested : run.Attested collectors) (accounted : run.Accounted) (event : Event σ α) {thread : ThreadId}
    {frame : OpenCall} {around : List OpenCall} (top : run.session.pending.on thread = frame :: around) (world : σ) :
    (Run.mk (run.session.popped thread frame around run.world) world
      (⟨event, .ended frame.id, closeRequests thread frame run.world run.session.collectors frame.began⟩ ::
        run.history)).Attested collectors := by
  obtain ⟨call, isOpen, same, -⟩ := accounted.begun_of_top top
  have id : call.id = frame.id := congrArg Outline.id same
  have member : frame ∈ run.session.pending.all := CallStacks.mem_all_iff.mpr ⟨thread, top ▸ List.mem_cons_self⟩
  have unmoved (requests : List (Request σ)) (other : CallId) :
      History.openings (⟨event, .ended frame.id, requests⟩ :: run.history) other = run.history.openings other :=
    openings_cons_of_ne run.history nofun
  have closes : ∀ closing ∈ closeRequests thread frame run.world run.session.collectors frame.began, closing.Closes :=
    fun closing asked => closes_of_closingDemand (position_of_mem_closeRequests asked).2.1
  have made := (attested.admitted frame member).made attested.registered closes
    (cleared_closeRequests thread frame run.world run.session.collectors frame.began)
  refine ⟨attested.running, ?_, ?_, ?_⟩
  · exact (cleared_closeWith run.world run.session.collectors frame.began).trans attested.registered
  · intro other isOpen
    rw [unmoved]
    exact attested.admitted other ((accounted.mem_all_popped top run.world).mp isOpen).1
  · rw [History.endings_ended event _ (id ▸ accounted.find_begun (History.mem_begun_of_open isOpen))]
    simp only [unmoved]
    refine .cons ?_ attested.made
    rw [id, show (run.session.recordOf thread frame run.world).metrics = _ from closeWith_metrics _ _ _]
    exact made

end Attested

theorem attested_next (act : α → σ → σ) {collectors : List (Collector σ)} {run : Run σ α}
    (accounted : run.session.phase ≠ .finalized → run.Accounted)
    (attested : run.session.phase ≠ .finalized → run.Attested collectors) (event : Event σ α) :
    (run.next act event).session.phase ≠ .finalized → (run.next act event).Attested collectors := by
  refine Run.next_of_transition
    (motive := fun run => run.session.phase ≠ .finalized → run.Attested collectors) run event ?_
  intro outcome requests session world step going
  cases step with
  | refused reason => exact (attested going).quiet run.world rfl rfl
  | passed action => exact (attested going).quiet _ rfl rfl
  | started collectors idle =>
    have running := (attested (by simp [idle])).running
    cases idle.symm.trans running
  | @began _ thread name device asked running =>
    exact (attested (by simp [running])).begun (accounted (by simp [running])) event thread name device _
  | ended asked running top =>
    exact (attested (by simp [running])).popped (accounted (by simp [running])) event top _
  | finalized thread running =>
    exfalso
    apply going
    exact truncated_phase _ _ _ _

theorem attested_started (act : α → σ → σ) (config : SessionConfig) (collectors : List (Collector σ)) (world : σ)
    (events : List (Event σ α)) (going : (started act config collectors world events).session.phase ≠ .finalized) :
    (started act config collectors world events).Attested collectors := by
  have general : ((started act config collectors world events).session.phase ≠ .finalized →
        (started act config collectors world events).Accounted) ∧
      ((started act config collectors world events).session.phase ≠ .finalized →
        (started act config collectors world events).Attested collectors) := by
    refine Run.play_induction (motive := fun run => (run.session.phase ≠ .finalized → run.Accounted) ∧
      (run.session.phase ≠ .finalized → run.Attested collectors)) events ⟨?_, fun _ => ?_⟩ ?_
    · exact accounted_next act (fun _ => accounted_fresh config world) _
    · exact ⟨rfl, rfl, nofun, .nil⟩
    · rintro run event - ⟨accounted, attested⟩
      exact ⟨accounted_next act accounted event, attested_next act accounted attested event⟩
  exact general.2 going

/-- A record that holds what the collectors have said about its call, and the mark if the call was left open. -/
structure Attests (run : Run σ α) (collectors : List (Collector σ)) (ending : Ending σ α) (record : CallRecord) :
    Prop where
  heading : record.heading = ending.call.heading
  heard : (run.history.testimonies ending).map (·.collector) = collectors.map (·.name)
  marked : run.IsOpen ending.call → record.metric? truncatedName = some (.text "true")
  told : ∀ name, (name = truncatedName → ¬ run.IsOpen ending.call) →
    record.metric? name = Testimony.recorded? (run.history.testimonies ending) name

namespace Attested

variable {collectors : List (Collector σ)} {run : Run σ α} (attested : run.Attested collectors)
  (telling : run.Telling) (accounted : run.Accounted)
include attested telling accounted

theorem attests_closed : List.Forall₂ (run.Attests collectors) run.history.endings run.session.ended := by
  refine List.Forall₂.mp (fun ending record made tells => ?_) attested.made (telling.tells_closed accounted)
  refine ⟨tells.heading, made.heard.collectors_of_testimonies, tells.marked, fun name _ => ?_⟩
  rw [CallRecord.metric?, made.metrics]
  exact made.heard.get?_recorded name

theorem attests_leftover {thread : ThreadId} {call : Begun σ α} {leftover : Leftover σ}
    (begun : call ∈ run.history.openCalls) (listed : leftover ∈ run.leftovers thread)
    (settled : leftover.Settled thread run.session.collectors) (same : outlineOf leftover.call = call.outline) :
    run.Attests collectors ⟨call, leftover.requests⟩ leftover.record := by
  have tells := telling.tells_leftover accounted begun listed settled same
  have pending : leftover.call ∈ run.session.pending.all := mem_all_of_leftover listed
  have closes : ∀ closing ∈ leftover.requests, closing.Closes :=
    fun closing asked => closes_of_closingDemand (settled.demands closing asked).2
  have made := (attested.admitted leftover.call pending).made attested.registered closes settled.asked
  rw [show leftover.call.id = call.id from congrArg Outline.id same] at made
  refine ⟨tells.heading, made.heard.collectors_of_testimonies, tells.marked, fun name other => ?_⟩
  have apart : name ≠ truncatedName := fun mark => other mark (accounted.isOpen_of_left begun)
  rw [settled.record, CallRecord.metric?, markTruncated, SortedMap.get?_insert_of_ne _ apart, made.metrics]
  exact made.heard.get?_recorded name

end Attested

namespace Attests

variable {collectors others : List (Collector σ)} {run without : Run σ α} {ending spared : Ending σ α}
  {record sparedRecord : CallRecord}

theorem marked_of_failed (attests : run.Attests collectors ending record) {failing : Testimony}
    (listed : failing ∈ run.history.testimonies ending) (failed : failing.Failed) :
    (record.metric? failing.marker).isSome := by
  rw [attests.told failing.marker fun mark => absurd mark (unmarked_truncatedName failing.collector)]
  exact Testimony.marked_of_failed listed failed

theorem metric?_without (attests : run.Attests collectors ending record)
    (attests' : without.Attests others spared sparedRecord)
    (isOpen : run.IsOpen ending.call ↔ without.IsOpen spared.call) {position : Nat} {failing : Testimony}
    (here : (run.history.testimonies ending)[position]? = some failing) (failed : failing.Failed)
    (same : without.history.testimonies spared = (run.history.testimonies ending).eraseIdx position) {name : String}
    (apart : name ≠ failing.marker) : record.metric? name = sparedRecord.metric? name := by
  -- The session puts in the mark itself, whatever the collectors have said.
  by_cases mark : name = truncatedName ∧ run.IsOpen ending.call
  · obtain ⟨rfl, left⟩ := mark
    rw [attests.marked left, attests'.marked (isOpen.mp left)]
  · have told := attests.told name fun named left => mark ⟨named, left⟩
    have told' := attests'.told name fun named left => mark ⟨named, isOpen.mpr left⟩
    obtain ⟨inside, rfl⟩ := List.getElem?_eq_some_iff.mp here
    rw [told, told', same, List.eraseIdx_eq_take_drop_succ]
    conv_lhs => rw [← List.take_append_drop position (run.history.testimonies ending), List.drop_eq_getElem_cons inside]
    exact Testimony.recorded?_without failed _ _ apart

end Attests

structure AttestsAll (run : Run σ α) (collectors : List (Collector σ)) (thread : ThreadId) (report : Report) :
    Prop where
  calls : (run.endings thread).map (·.call) = run.history.closedCalls.reverse.map (·.1) ++ run.history.openCalls
  attests : List.Forall₂ (run.Attests collectors) (run.endings thread) report.calls

theorem finalize_attests (act : α → σ → σ) (config : SessionConfig) (collectors : List (Collector σ)) (world : σ)
    (events : List (Event σ α)) (running : (started act config collectors world events).session.phase = .running)
    (thread : ThreadId) :
    ∃ report after worldAfter, (started act config collectors world events).session.finalize thread
        (started act config collectors world events).world = .ok (report, after, worldAfter) ∧
      (started act config collectors world events).AttestsAll collectors thread report := by
  have going : (started act config collectors world events).session.phase ≠ .finalized := by simp [running]
  have accounted := accounted_play act (accounted_fresh config world) (.start collectors :: events) going
  have telling := telling_play act config world (.start collectors :: events) going
  have attested := attested_started act config collectors world events going
  obtain ⟨report, after, worldAfter, finished, finalizes⟩ :=
    (resuming_play act config world (.start collectors :: events)).finalizes accounted running thread
  refine ⟨report, after, worldAfter, finished, endings_calls finalizes, ?_⟩
  rw [Run.endings, finalizes.calls]
  refine List.rel_append (List.forall₂_reverse_iff.mpr (attested.attests_closed telling accounted)) ?_
  exact forall₂_left finalizes fun _ begun leftover listed same =>
    attested.attests_leftover telling accounted begun listed (finalizes.settled leftover listed) same

/--
A call with its record, beside the same call in a run in which one of the collectors is missing. Where that collector
has failed and the others have said the same without it, the two records differ under its marker at most.
-/
structure Spared (position : Nat) (run without : Run σ α) (told spared : Ending σ α × CallRecord) : Prop where
  call : told.1.call.outline = spared.1.call.outline
  isOpen : run.IsOpen told.1.call ↔ without.IsOpen spared.1.call
  heading : told.2.heading = spared.2.heading
  kept : ∀ failing, (run.history.testimonies told.1)[position]? = some failing → failing.Failed →
    without.history.testimonies spared.1 = (run.history.testimonies told.1).eraseIdx position →
      ∀ name, name ≠ failing.marker → told.2.metric? name = spared.2.metric? name

theorem forall₂_zip_zip {β γ δ ε : Type} {first : β → γ → Prop} {second : δ → ε → Prop} {across : β → δ → Prop}
    {xs : List β} {ys : List γ} {zs : List δ} {ws : List ε} (left : List.Forall₂ first xs ys)
    (right : List.Forall₂ second zs ws) (between : List.Forall₂ across xs zs) :
    List.Forall₂ (fun one other => first one.1 one.2 ∧ second other.1 other.2 ∧ across one.1 other.1)
      (xs.zip ys) (zs.zip ws) := by
  induction left generalizing zs ws with
  | nil =>
    cases between
    exact .nil
  | cons head tail ih =>
    cases between with
    | cons here rest =>
      cases right with
      | cons head' tail' => exact .cons ⟨head, head', here⟩ (ih tail' rest)

namespace AttestsAll

variable {collectors others : List (Collector σ)} {run without : Run σ α} {thread : ThreadId} {report report' : Report}

theorem one_each (attests : run.AttestsAll collectors thread report) (accounted : run.Accounted) :
    ((run.endings thread).map (·.call)).Perm run.history.begunCalls := by
  rw [attests.calls]
  exact ((List.reverse_perm _).map _ |>.append_right _).trans accounted.complete

theorem outlines_eq (attests : run.AttestsAll collectors thread report)
    (attests' : without.AttestsAll others thread report') (same : run.SameCalls without) :
    (run.endings thread).map (·.call.outline) = (without.endings thread).map (·.call.outline) := by
  have closed := congrArg List.reverse same.closed
  have outlines := congrArg (List.map Begun.outline) attests.calls
  have outlines' := congrArg (List.map Begun.outline) attests'.calls
  simp only [List.map_append, List.map_map, List.map_reverse] at outlines outlines'
  exact outlines.trans ((congrArg₂ List.append closed same.openCalls_eq).trans outlines'.symm)

theorem spared (attests : run.AttestsAll collectors thread report)
    (attests' : without.AttestsAll others thread report') (same : run.SameCalls without) (position : Nat) :
    List.Forall₂ (Spared position run without) ((run.endings thread).zip report.calls)
      ((without.endings thread).zip report'.calls) := by
  have outlines := forall₂_of_map_eq (attests.outlines_eq attests' same)
  have begun : ∀ ending ∈ run.endings thread, ending.call ∈ run.history.begunCalls := fun ending listed =>
    (attests.one_each same.accounted.1).subset (List.mem_map_of_mem listed)
  have begun' : ∀ ending ∈ without.endings thread, ending.call ∈ without.history.begunCalls := fun ending listed =>
    (attests'.one_each same.accounted.2).subset (List.mem_map_of_mem listed)
  have known := (List.forall₂_and_left _ _).mpr ⟨begun, attests.attests⟩
  have known' := (List.forall₂_and_left _ _).mpr ⟨begun', attests'.attests⟩
  refine (forall₂_zip_zip known known' outlines).imp ?_
  rintro ⟨ending, record⟩ ⟨ending', record'⟩ ⟨⟨listed, tells⟩, ⟨listed', tells'⟩, outline⟩
  have isOpen := same.isOpen_iff listed listed' outline
  refine ⟨outline, isOpen, ?_, ?_⟩
  · exact tells.heading.trans ((congrArg Outline.heading outline).trans tells'.heading.symm)
  · intro failing here failed others name apart
    exact tells.metric?_without tells' isOpen here failed others apart

end AttestsAll

end Run

/--
What a record holds under a name, whatever goes wrong with the collectors of its call, and that a collector that fails
makes no difference to it but for its own marker: the run without that collector has the same calls, and where the
others say the same about one of them, its record is the same under every other name.
-/
theorem faults_are_isolated (act : α → σ → σ) (config : SessionConfig) (collectors : List (Collector σ)) (world : σ)
    (events : List (Event σ α)) (thread : ThreadId)
    (running : (Run.started act config collectors world events).session.phase = .running) :
    let run := Run.started act config collectors world events
    ∃ report after worldAfter, run.session.finalize thread run.world = .ok (report, after, worldAfter) ∧
      ((run.endings thread).map (·.call)).Perm run.history.begunCalls ∧
      List.Forall₂ (fun ending record => run.Attests collectors ending record ∧
          ∀ failing ∈ run.history.testimonies ending, failing.Failed → (record.metric? failing.marker).isSome)
        (run.endings thread) report.calls ∧
      ∀ front failing back, collectors = front ++ failing :: back → ∀ worldWithout,
        let without := Run.started act config (front ++ back) worldWithout events
        ∃ spared afterWithout worldAfterWithout,
          without.session.finalize thread without.world = .ok (spared, afterWithout, worldAfterWithout) ∧
          List.Forall₂ (Run.Spared front.length run without) ((run.endings thread).zip report.calls)
            ((without.endings thread).zip spared.calls) := by
  intro run
  obtain ⟨report, after, worldAfter, finished, attests⟩ :=
    Run.finalize_attests act config collectors world events running thread
  have going : run.session.phase ≠ .finalized := by
    rw [running]
    decide
  have accounted : run.Accounted :=
    accounted_play act (accounted_fresh config world) (.start collectors :: events) going
  refine ⟨report, after, worldAfter, finished, attests.one_each accounted, ?_, ?_⟩
  · refine attests.attests.imp fun ending record tells => ⟨tells, ?_⟩
    intro failing listed failed
    exact tells.marked_of_failed listed failed
  · rintro front failing back rfl worldWithout without
    have same : run.SameCalls without := sameCalls_started act config _ (front ++ back) world worldWithout events going
    obtain ⟨spared, afterWithout, worldAfterWithout, finished', attests'⟩ :=
      Run.finalize_attests act config (front ++ back) worldWithout events same.running.2 thread
    exact ⟨spared, afterWithout, worldAfterWithout, finished', attests.spared attests' same front.length⟩

def refusing (own message : String) : Collector Unit :=
  .ofCallbacks ⟨own, fun _ _ _ world => (.error message, world), fun _ _ world => (.ok .empty, world)⟩

def early : Collector Unit := giving "early" "probe error" (.count 1)

def late : Collector Unit := giving "late" "ticks" (.count 2)

def briefRun (collectors : List (Collector Unit)) : Run Unit Empty :=
  Run.started (fun action _ => action.elim) (.named "s") collectors () oneLeftOpen

def probed : List Testimony :=
  [⟨"early", .gave (.ofList [("probe error", .count 1)])⟩, ⟨"probe", .refused "collector `probe` failed: busy"⟩,
    ⟨"late", .gave (.ofList [("ticks", .count 2)])⟩]

theorem faults_are_isolated_probe :
    let run := briefRun [early, refusing "probe" "busy", late]
    let without := briefRun [early, late]
    run.session.phase = .running ∧
      ∃ report after spared afterWithout, run.session.finalize ⟨0⟩ run.world = .ok (report, after, ()) ∧
        without.session.finalize ⟨0⟩ without.world = .ok (spared, afterWithout, ()) ∧
        List.Forall₂ (fun ending record => record.heading = ending.call.heading ∧
            record.metric? "ticks" = some (.count 2) ∧ record.metric? "probe error" = some (.count 1))
          (run.endings ⟨0⟩) report.calls ∧
        List.Forall₂ (fun told spared => ∀ name, name ≠ "probe error" → told.2.metric? name = spared.2.metric? name)
          ((run.endings ⟨0⟩).zip report.calls) ((without.endings ⟨0⟩).zip spared.calls) := by
  intro run without
  have said : ∀ ending ∈ run.endings ⟨0⟩, run.history.testimonies ending = probed := by decide +kernel
  have said' : ∀ ending ∈ without.endings ⟨0⟩, without.history.testimonies ending = probed.eraseIdx 1 := by
    decide +kernel
  obtain ⟨report, after, ⟨⟩, finished, -, attests, others⟩ :=
    faults_are_isolated (fun action _ => Empty.elim action) (.named "s") [early, refusing "probe" "busy", late] ()
      oneLeftOpen ⟨0⟩ rfl
  obtain ⟨spared, afterWithout, ⟨⟩, finished', same⟩ := others [early] (refusing "probe" "busy") [late] rfl ()
  refine ⟨rfl, report, after, spared, afterWithout, finished, finished', ?_, ?_⟩
  · refine ((List.forall₂_and_left _ _).mpr ⟨said, attests⟩).imp ?_
    rintro ending record ⟨said, tells, -⟩
    have told (name : String) (other : name ≠ truncatedName) :
        record.metric? name = Testimony.recorded? probed name := by
      rw [← said]
      exact tells.told name fun mark => absurd mark other
    refine ⟨tells.heading, ?_, ?_⟩
    · rw [told "ticks" (by decide)]
      decide +kernel
    · rw [told "probe error" (by decide)]
      decide +kernel
  · have left := (List.forall₂_and_left _ _).mpr ⟨fun told listed => said told.1 (List.of_mem_zip listed).1, same⟩
    have both := (List.forall₂_and_left _ _).mpr
      ⟨fun spared listed => said' spared.1 (List.of_mem_zip listed).1, left.flip⟩
    refine both.flip.imp ?_
    rintro told spared ⟨said', said, same⟩ name apart
    have here : (run.history.testimonies told.1)[1]? =
        some ⟨"probe", .refused "collector `probe` failed: busy"⟩ := by
      rw [said]
      rfl
    exact same.kept _ here nofun (said'.trans (congrArg (·.eraseIdx 1) said.symm)) name apart

end CallProfile.Session
