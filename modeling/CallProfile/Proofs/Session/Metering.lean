import CallProfile.Proofs.Session.Meters
import CallProfile.Proofs.Session.Spells

namespace CallProfile.Session

open ManualCounters

variable {τ : Type} (tick : Clock τ) (plan : CounterPlan) (earlier : List Operation)

abbrev ManualRun (τ : Type) := Run (ManualCounters × τ) Operation

def operate (operation : Operation) (world : ManualCounters × τ) : ManualCounters × τ :=
  (world.1.apply operation, world.2)

/-- The counters after what has been done to them, first before and then during the session. -/
def countersAt (history : History (ManualCounters × τ) Operation) : ManualCounters := after (earlier ++ history.actions)

/-- The record has what was measured, and the mark of a call that was closed at the end if it was. -/
def Recorded (closed : Begun (ManualCounters × τ) Operation × History (ManualCounters × τ) Operation)
    (record : CallRecord) : Prop :=
  ∃ metrics, Measured plan (countersAt earlier closed.1.past) (countersAt earlier closed.2) closed.1.device metrics ∧
    (record.metrics = metrics ∨ record.metrics = markTruncated metrics)

/-- The collectors have noted what they need of the open calls, and nothing has failed so far. -/
structure Run.Metered (run : ManualRun τ) (meters : Meters) : Prop where
  counters : run.world.1 = countersAt earlier run.history
  collectors : run.session.collectors = meters.collectors tick plan
  bare : meters.readings = none → plan.isEmpty = true
  below : meters.Below run.session.nextId
  know : ∀ call ∈ run.history.openCalls, meters.Know plan call.id call.device (countersAt earlier call.past)
  taken : ∀ frame ∈ run.session.pending.all,
    frame.began = (run.session.collectors.map fun _ => true) ∧ frame.errors = .empty
  answered : ∀ entry ∈ run.history, ∀ request ∈ entry.requests, request.answer = .ok ()
  records : List.Forall₂ (Recorded plan earlier) run.history.closedCalls run.session.ended

def Declared : Prop :=
  ∀ device names, plan.get? device = some names →
    names ≠ [] ∧ ∀ counter ∈ names, (total? earlier device counter).isSome

variable {tick plan earlier}

theorem Declared.readable (declared : Declared plan earlier) (history : History (ManualCounters × τ) Operation) :
    (countersAt earlier history).Readable plan := by
  intro device names found
  obtain ⟨listed, known⟩ := declared device names found
  refine ⟨listed, fun counter member => ?_⟩
  rw [countersAt, value_after (known counter member)]
  rfl

theorem countersAt_quiet {entry : Entry (ManualCounters × τ) Operation} (quiet : entry.event.action? = none)
    (past : History (ManualCounters × τ) Operation) : countersAt earlier (entry :: past) = countersAt earlier past := by
  rw [countersAt, actions_cons, quiet, Option.toList_none, List.append_nil, countersAt]

theorem countersAt_outside (operation : Operation) (requests : List (Request (ManualCounters × τ)))
    (past : History (ManualCounters × τ) Operation) :
    countersAt earlier (⟨.outside operation, .passed, requests⟩ :: past) = (countersAt earlier past).apply operation := by
  rw [countersAt, actions_cons]
  simp only [Event.action?, Option.toList_some, ← List.append_assoc, after, List.foldl_append, countersAt]
  rfl

namespace Run.Metered

variable {run : ManualRun τ} {meters : Meters}

theorem quiet (metered : run.Metered tick plan earlier meters) {world : ManualCounters × τ}
    {entry : Entry (ManualCounters × τ) Operation} (begun : entry.begun? run.history = none)
    (ended : entry.endedId? = none) (asked : entry.requests = [])
    (counters : world.1 = countersAt earlier (entry :: run.history)) :
    (Run.mk run.session world (entry :: run.history)).Metered tick plan earlier meters where
  counters := counters
  collectors := metered.collectors
  bare := metered.bare
  below := metered.below
  know := by
    rw [History.openCalls_quiet begun ended]
    exact metered.know
  taken := metered.taken
  answered := by
    intro other member
    rcases List.mem_cons.mp member with rfl | member
    · rw [asked]
      nofun
    · exact metered.answered other member
  records := by
    rw [History.closedCalls_quiet run.history ended]
    exact metered.records

theorem began (metered : run.Metered tick plan earlier meters) (declared : Declared plan earlier)
    (accounted : run.Accounted) {event : Event (ManualCounters × τ) Operation} {thread : ThreadId} {name : String}
    {device : Device} (asked : event.beginning? = some (thread, name, device)) :
    ∃ meters, (Run.mk (run.session.begun thread name device run.world) (run.session.opening thread device run.world).world
      (⟨event, .began run.session.nextId,
          openRequests thread run.session.nextId device run.world run.session.collectors⟩ ::
        run.history)).Metered tick plan earlier meters := by
  have readable : run.world.1.Readable plan := metered.counters ▸ declared.readable run.history
  obtain ⟨now, rest, opened⟩ := openWith_meters tick readable metered.below thread device
  rw [← metered.collectors] at opened
  have opening : run.session.opening thread device run.world = _ := opened
  refine ⟨meters.noting run.session.nextId now (run.world.1.reading plan device), ?_⟩
  constructor
  · rw [countersAt_quiet (action?_of_beginning asked), opening]
    exact metered.counters
  · simp only [begun, opening]
  · intro none
    exact metered.bare (Option.map_eq_none_iff.mp none)
  · exact metered.below.noting now _
  · rw [History.openCalls_began _ asked accounted.nextId_not_ended]
    intro call member
    rcases List.mem_cons.mp member with rfl | member
    · simp only [← metered.counters]
      exact .noting_self meters plan run.session.nextId now device run.world.1
    · have known := (accounted.number_of_begun (History.mem_begun_of_open member)).2
      refine (metered.know call member).noting ?_ now _
      intro same
      rw [same] at known
      exact Nat.lt_irrefl _ known
  · intro frame isOpen
    have marks : (run.session.begun thread name device run.world).collectors.map (fun _ => true) =
        run.session.collectors.map fun _ => true := by
      simp only [begun, opening, metered.collectors]
      exact Meters.marks_noting tick now _
    rw [marks]
    rcases (accounted.mem_all_begun thread name device run.world).mp isOpen with rfl | isOpen
    · simp only [nextCall, opening]
      exact ⟨trivial, trivial⟩
    · exact metered.taken frame isOpen
  · intro entry member
    rcases List.mem_cons.mp member with rfl | member
    · have taken : (openWith thread run.session.nextId device .empty run.world run.session.collectors).began =
          run.session.collectors.map fun _ => true := by
        rw [opened, metered.collectors]
      exact answer_of_openWith taken
    · exact metered.answered entry member
  · exact metered.records

theorem ended (metered : run.Metered tick plan earlier meters) (declared : Declared plan earlier)
    (accounted : run.Accounted) {event : Event (ManualCounters × τ) Operation} {thread : ThreadId} {frame : OpenCall}
    {around : List OpenCall} (asked : event.ending? = some (thread, frame.id))
    (top : run.session.pending.on thread = frame :: around) :
    ∃ meters, (Run.mk (run.session.popped thread frame around run.world) (run.session.closing thread frame run.world).world
      (⟨event, .ended frame.id, closeRequests thread frame run.world run.session.collectors frame.began⟩ ::
        run.history)).Metered tick plan earlier meters := by
  have readable : run.world.1.Readable plan := metered.counters ▸ declared.readable run.history
  obtain ⟨call, isOpen, same, -⟩ := accounted.begun_of_top top
  have id : call.id = frame.id := congrArg Outline.id same
  have known := id ▸ metered.know call isOpen
  obtain ⟨taken, clean⟩ := metered.taken frame (CallStacks.mem_all_iff.mpr ⟨thread, top ▸ List.mem_cons_self⟩)
  obtain ⟨metrics, rest, measured, closed⟩ := closeWith_meters tick thread run.world readable metered.bare known
  rw [← metered.collectors, ← taken, ← clean] at closed
  have closing : run.session.closing thread frame run.world = _ := closed
  refine ⟨meters.without frame.id, ?_⟩
  constructor
  · rw [countersAt_quiet (action?_of_ending asked), closing]
    exact metered.counters
  · simp only [popped, closing]
  · intro none
    exact metered.bare (Option.map_eq_none_iff.mp none)
  · exact metered.below.without frame.id
  · rw [History.openCalls_ended]
    intro other member
    obtain ⟨within, apart⟩ := List.mem_filter.mp member
    exact (metered.know other within).without (by simpa using apart)
  · intro other isOpen
    have marks : (run.session.popped thread frame around run.world).collectors.map (fun _ => true) =
        run.session.collectors.map fun _ => true := by
      simp only [popped, closing, metered.collectors]
      exact Meters.marks_without tick
    rw [marks]
    exact metered.taken other ((accounted.mem_all_popped top run.world).mp isOpen).1
  · intro entry member
    rcases List.mem_cons.mp member with rfl | member
    · simp only [taken, metered.collectors]
      exact closeRequests_meters tick thread run.world readable known
    · exact metered.answered entry member
  · have found := accounted.find_begun (History.mem_begun_of_open isOpen)
    rw [History.closedCalls_ended _ event (id ▸ found)]
    refine .cons ⟨metrics, ?_, .inl ?_⟩ metered.records
    · simp only [← metered.counters]
      exact measured
    · simp only [recordOf, closing]

end Run.Metered

theorem truncate_metered (thread : ThreadId) {frames : List OpenCall} {calls : List (Begun (ManualCounters × τ) Operation)}
    {marks : List Bool}
    (pairs : List.Forall₂ (fun frame call => call.id = frame.id ∧ frame.began = marks ∧ frame.errors = .empty) frames calls)
    (apart : calls.Pairwise fun one other => one.id ≠ other.id) (session : Session (ManualCounters × τ))
    (world : ManualCounters × τ) (meters : Meters) (collectors : session.collectors = meters.collectors tick plan)
    (marked : (meters.collectors tick plan).map (fun _ => true) = marks)
    (bare : meters.readings = none → plan.isEmpty = true) (readable : world.1.Readable plan)
    (know : ∀ call ∈ calls, meters.Know plan call.id call.device (countersAt earlier call.past)) :
    ∃ records, (truncate thread session world frames).1.ended = records.reverse ++ session.ended ∧
      List.Forall₂ (fun call record => ∃ metrics,
        Measured plan (countersAt earlier call.past) world.1 call.device metrics ∧
          record.metrics = markTruncated metrics) calls records ∧
      ∀ request ∈ truncateRequests thread session world frames, request.answer = .ok () := by
  induction pairs generalizing session world meters with
  | nil => exact ⟨[], rfl, .nil, by nofun⟩
  | @cons frame call frames calls pair _ ih =>
    obtain ⟨id, taken, clean⟩ := pair
    obtain ⟨others, tail⟩ := List.pairwise_cons.mp apart
    have known := id ▸ know call List.mem_cons_self
    obtain ⟨metrics, rest, measured, closed⟩ := closeWith_meters tick thread world readable bare known
    have answered := closeRequests_meters tick thread world readable known
    rw [marked, ← collectors, ← taken] at answered closed
    rw [← clean] at closed
    have close : session.close thread frame true world =
        (⟨frame.name, frame.device, frame.depth, markTruncated metrics⟩,
          { session with collectors := (meters.without frame.id).collectors tick plan }, (world.1, rest)) := by
      simp only [Session.close, closed, if_true]
    obtain ⟨records, ended, matched, further⟩ := ih tail
      { session with
        collectors := (meters.without frame.id).collectors tick plan
        ended := ⟨frame.name, frame.device, frame.depth, markTruncated metrics⟩ :: session.ended }
      (world.1, rest) (meters.without frame.id) rfl ((Meters.marks_without tick).trans marked)
      (fun none => bare (Option.map_eq_none_iff.mp none)) readable fun other member =>
        (know other (List.mem_cons_of_mem _ member)).without fun same => others other member (id.trans same.symm)
    refine ⟨⟨frame.name, frame.device, frame.depth, markTruncated metrics⟩ :: records, ?_, ?_, ?_⟩
    · simp only [truncate, close]
      rw [ended]
      simp
    · exact .cons ⟨metrics, measured, rfl⟩ matched
    · simp only [truncateRequests, close]
      intro request member
      rcases List.mem_append.mp member with member | member
      · exact answered request member
      · exact further request member

theorem metered_next (declared : Declared plan earlier) {run : ManualRun τ}
    (kept : run.session.phase ≠ .finalized →
      run.session.phase = .running ∧ run.Accounted ∧ ∃ meters, run.Metered tick plan earlier meters)
    (event : Event (ManualCounters × τ) Operation) :
    (run.next operate event).session.phase ≠ .finalized →
      (run.next operate event).session.phase = .running ∧ (run.next operate event).Accounted ∧
        ∃ meters, (run.next operate event).Metered tick plan earlier meters := by
  have counted := accounted_next operate (fun going => (kept going).2.1) event
  suffices rest : (run.next operate event).session.phase ≠ .finalized →
      (run.next operate event).session.phase = .running ∧
        ∃ meters, (run.next operate event).Metered tick plan earlier meters from
    fun going => ⟨(rest going).1, counted going, (rest going).2⟩
  refine Run.next_of_transition (motive := fun after => after.session.phase ≠ .finalized →
    after.session.phase = .running ∧ ∃ meters, after.Metered tick plan earlier meters) run event ?_
  intro outcome requests session world step going
  cases step with
  | @refused _ error reason =>
    obtain ⟨running, -, meters, metered⟩ := kept going
    refine ⟨running, meters, metered.quiet rfl rfl rfl ?_⟩
    rw [countersAt_quiet (action?_of_refusal reason)]
    exact metered.counters
  | started collectors idle =>
    obtain ⟨running, -⟩ := kept (by simp [idle])
    cases idle.symm.trans running
  | began asked running =>
    obtain ⟨-, accounted, meters, metered⟩ := kept (by simp [running])
    exact ⟨running, metered.began declared accounted asked⟩
  | ended asked running top =>
    obtain ⟨-, accounted, meters, metered⟩ := kept (by simp [running])
    exact ⟨running, metered.ended declared accounted asked top⟩
  | finalized thread running =>
    exfalso
    apply going
    exact truncated_phase _ _ _ _
  | passed action =>
    obtain ⟨running, -, meters, metered⟩ := kept going
    refine ⟨running, meters, metered.quiet rfl rfl rfl ?_⟩
    rw [countersAt_outside, ← metered.counters]
    rfl

theorem metered_of_ofConfig {config : SessionConfig} {rest : τ} {session : Session (ManualCounters × τ)}
    (made : ofConfig config (beside tick) manual (after earlier, rest) = .ok session) :
    ∃ plan, config.plan = .ok plan ∧ Declared plan earlier ∧ session.phase = .running ∧
      (Run.mk session (after earlier, rest) [] : ManualRun τ).Accounted ∧
      ∃ meters, (Run.mk session (after earlier, rest) [] : ManualRun τ).Metered tick plan earlier meters := by
  obtain ⟨plan, planned, supported, rfl⟩ := ofConfig_eq_ok made
  refine ⟨plan, planned, ?_, rfl, accounted_new rfl rfl rfl _,
    ⟨if config.wallClock then some .empty else none, if plan.isEmpty then none else some .empty⟩, ?_⟩
  · intro device names found
    obtain ⟨listed, has⟩ := supported device names found
    refine ⟨listed, fun counter member => ?_⟩
    have known := (supports_iff Prod.fst _ device counter).mp (has counter member)
    rw [value?_after, Option.isSome_map] at known
    exact known
  · constructor
    · simp only [countersAt, History.actions, List.filterMap_nil, List.reverse_nil, List.append_nil]
    · simp only [configured, Meters.collectors]
      cases config.wallClock <;> cases plan.isEmpty <;> rfl
    · intro none
      by_cases bare : plan.isEmpty = true
      · exact bare
      · simp [bare] at none
    · constructor
      · intro calls found id member
        generalize config.wallClock = timed at found
        cases timed <;> cases found
        cases member
      · intro calls found id member
        generalize SortedMap.isEmpty plan = bare at found
        cases bare <;> cases found
        cases member
    · intro call member
      cases member
    · intro frame member
      cases member
    · intro entry member
      cases member
    · exact .nil

theorem metered_play {config : SessionConfig} {rest : τ} {session : Session (ManualCounters × τ)}
    (made : ofConfig config (beside tick) manual (after earlier, rest) = .ok session)
    (events : List (Event (ManualCounters × τ) Operation)) {run : ManualRun τ}
    (played : run = (Run.mk session (after earlier, rest) []).play operate events)
    (running : run.session.phase = .running) :
    ∃ plan, config.plan = .ok plan ∧ Declared plan earlier ∧ run.Accounted ∧
      ∃ meters, run.Metered tick plan earlier meters := by
  obtain ⟨plan, planned, declared, started, accounted, metered⟩ := metered_of_ofConfig made
  have kept := Run.play_induction (motive := fun run => run.session.phase ≠ .finalized →
    run.session.phase = .running ∧ run.Accounted ∧ ∃ meters, run.Metered tick plan earlier meters) events
    (fun _ => ⟨started, accounted, metered⟩) (fun _ event _ kept => metered_next declared kept event)
    (by rw [← played, running]; decide)
  rw [← played] at kept
  exact ⟨plan, planned, declared, kept.2⟩

end CallProfile.Session
