import CallProfile.Proofs.Session.Metering

namespace CallProfile.Session

open ManualCounters

variable {τ : Type} {tick : Clock τ} {plan : CounterPlan} {earlier : List Operation}

theorem Run.Metered.finalize {run : ManualRun τ} {meters : Meters} (metered : run.Metered tick plan earlier meters)
    (declared : Declared plan earlier) (accounted : run.Accounted) {thread : ThreadId} {report : Report}
    {after : Session (ManualCounters × τ)} {worldAfter : ManualCounters × τ}
    (finished : run.session.finalize thread run.world = .ok (report, after, worldAfter)) :
    List.Forall₂ (Recorded plan earlier) run.spells report.calls ∧
      ∀ request ∈ run.session.requests run.world (.finalize thread : Event (ManualCounters × τ) Operation),
        request.answer = .ok () := by
  obtain ⟨frames, stacked, outlines⟩ := accounted.stacked
  have found : newestFirst run.session.pending.all = frames := stacked.newestFirst_eq (.refl _)
  have readable : run.world.1.Readable plan := metered.counters ▸ declared.readable run.history
  have pairs : List.Forall₂ (fun frame call => call.id = frame.id ∧
      frame.began = ((meters.collectors tick plan).map fun _ => true) ∧ frame.errors = .empty)
      frames run.history.openCalls := by
    have listed := (List.forall₂_and_left frames _).mpr
      ⟨fun frame member => stacked.mem_all.mpr member, forall₂_of_map_eq outlines⟩
    refine listed.imp ?_
    rintro frame call ⟨isOpen, outline⟩
    rw [← metered.collectors]
    exact ⟨(congrArg Outline.id outline).symm, metered.taken frame isOpen⟩
  obtain ⟨records, ended, matched, answered⟩ := truncate_metered thread pairs (accounted.begun_apart.filter _)
    { run.session with phase := .finalized, pending := .empty } run.world meters metered.collectors rfl metered.bare
    readable metered.know
  constructor
  · have calls : report.calls = run.session.ended.reverse ++ records := by
      rw [calls_of_finalize finished, truncated, found, ended]
      simp
    rw [calls, Run.spells]
    refine List.rel_append (List.forall₂_reverse_iff.mpr metered.records) (List.forall₂_map_left_iff.mpr ?_)
    refine matched.imp ?_
    rintro call record ⟨metrics, measured, marked⟩
    refine ⟨metrics, ?_, .inr marked⟩
    rw [metered.counters] at measured
    exact measured
  · have running := phase_of_finalize finished
    simp only [requests, refusal?, ensureRunning_of_running running, Event.ending?, Option.bind_none, found]
    exact answered

/-- The record of a call has what its counters rose by while it ran, and nothing that failed. -/
structure Attributed (config : SessionConfig) (earlier : List Operation)
    (spell : Begun (ManualCounters × τ) Operation × History (ManualCounters × τ) Operation) (record : CallRecord) :
    Prop where
  heading : record.heading = spell.1.heading
  unfailing : ∀ name text, record.metric? name = some (.text text) → name = truncatedName ∧ text = "true"
  counted : ∀ names, config.Lists record.device names → ∀ counter ∈ names, counter ≠ truncatedName →
    ∃ growth, record.metric? counter = some (.count growth) ∧
      min (total (earlier ++ spell.1.past.actions) record.device counter) Count.limit + growth.toNat =
        min (total (earlier ++ spell.2.actions) record.device counter) Count.limit
  uncounted : (∀ names, ¬ config.Lists record.device names) → ∀ name metric, record.metric? name = some metric →
    name = durationName ∧ metric.variant = .duration ∨ name = truncatedName ∧ metric = .text "true"

theorem get?_markTruncated_of_ne (metrics : MetricMap) {name : String} (apart : name ≠ truncatedName) :
    (markTruncated metrics).get? name = metrics.get? name := SortedMap.get?_insert_of_ne metrics apart _

theorem metric?_of_recorded {metrics : MetricMap} {record : CallRecord}
    (recorded : record.metrics = metrics ∨ record.metrics = markTruncated metrics) {name : String} {metric : Metric}
    (known : record.metric? name = some metric) :
    metrics.get? name = some metric ∨ name = truncatedName ∧ metric = .text "true" := by
  rw [CallRecord.metric?] at known
  rcases recorded with same | same <;> rw [same] at known
  · exact .inl known
  · by_cases mark : name = truncatedName
    · rw [mark, markTruncated, SortedMap.get?_insert_self] at known
      exact .inr ⟨mark, (Option.some.inj known).symm⟩
    · rw [get?_markTruncated_of_ne metrics mark] at known
      exact .inl known

theorem growth_value {operations : List Operation} {device : Device} {counter : String}
    (declared : (total? earlier device counter).isSome) (more : List Operation) :
    min (total (earlier ++ operations) device counter) Count.limit +
        (Count.growth ((after (earlier ++ operations)).value device counter)
          ((after (earlier ++ (operations ++ more))).value device counter)).toNat =
      min (total (earlier ++ (operations ++ more)) device counter) Count.limit := by
  have first : (total? (earlier ++ operations) device counter).isSome := by
    obtain ⟨start, known⟩ := Option.isSome_iff_exists.mp declared
    obtain ⟨grown, reached, -⟩ := total?_append start known operations
    rw [reached]
    rfl
  have larger := total_mono first more
  rw [List.append_assoc] at larger
  rw [value, value, value_after declared, value_after declared, Option.getD_some, Option.getD_some, Count.toNat_growth,
    Count.toNat_ofNat, Count.toNat_ofNat]
  omega

theorem attributed_of_recorded {config : SessionConfig} (planned : config.plan = .ok plan)
    (declared : Declared plan earlier)
    {spell : Begun (ManualCounters × τ) Operation × History (ManualCounters × τ) Operation} {record : CallRecord}
    (recorded : Recorded plan earlier spell record) (heading : record.heading = spell.1.heading)
    (later : ∃ more, spell.2.actions = spell.1.past.actions ++ more) : Attributed config earlier spell record := by
  obtain ⟨metrics, measured, recorded⟩ := recorded
  have device : record.device = spell.1.device := congrArg Heading.device heading
  constructor
  · exact heading
  · intro name text known
    rcases metric?_of_recorded recorded known with within | ⟨mark, same⟩
    · rcases measured.others name _ within with ⟨names, found, member⟩ | ⟨-, seconds, same⟩
      · have counted := measured.counted names found name member
        rw [within] at counted
        cases counted
      · cases same
    · cases same
      exact ⟨mark, rfl⟩
  · intro names listed counter member unmarked
    rw [device] at listed ⊢
    have found := (SessionConfig.plan_get?_iff planned _ _).mpr listed
    have counted := measured.counted names found counter member
    obtain ⟨more, same⟩ := later
    have kept : record.metric? counter = metrics.get? counter := by
      rw [CallRecord.metric?]
      rcases recorded with same | same <;> rw [same]
      exact get?_markTruncated_of_ne metrics unmarked
    refine ⟨_, kept.trans counted, ?_⟩
    rw [countersAt, countersAt, same]
    exact growth_value ((declared _ _ found).2 counter member) more
  · intro unlisted name metric known
    rcases metric?_of_recorded recorded known with within | marked
    · rcases measured.others name metric within with ⟨names, found, -⟩ | ⟨own, seconds, same⟩
      · rw [← device] at found
        exact absurd ((SessionConfig.plan_get?_iff planned _ _).mp found) (unlisted names)
      · exact .inl ⟨own, by rw [same]; rfl⟩
    · exact .inr marked

/--
Calls on any threads, and whatever the program does to its counters in between: no configured collector fails,
and each record has just what was added to the counters of its device while its call was open.
-/
theorem counters_are_attributed (tick : Clock τ) (config : SessionConfig) (earlier : List Operation) (rest : τ)
    {session : Session (ManualCounters × τ)}
    (made : ofConfig config (beside tick) manual (after earlier, rest) = .ok session)
    (events : List (Event (ManualCounters × τ) Operation)) {run : ManualRun τ}
    (played : run = (Run.mk session (after earlier, rest) []).play operate events)
    (running : run.session.phase = .running) :
    (∀ device counter, run.world.1.value? device counter =
        (total? (earlier ++ run.history.actions) device counter).map Count.ofNat) ∧
      (∀ entry ∈ run.history, ∀ request ∈ entry.requests, request.answer = .ok ()) ∧
      ∀ thread, ∃ report after worldAfter,
        run.session.finalize thread run.world = .ok (report, after, worldAfter) ∧
          (∀ request ∈ run.session.requests run.world (.finalize thread : Event (ManualCounters × τ) Operation),
            request.answer = .ok ()) ∧
          List.Forall₂ (Attributed config earlier) run.spells report.calls := by
  obtain ⟨plan, planned, declared, counted, meters, kept⟩ := metered_play made events played running
  refine ⟨?_, kept.answered, ?_⟩
  · intro device counter
    rw [kept.counters, countersAt, value?_after]
  · intro thread
    have finished : run.session.finalize thread run.world = _ := finalizeFrom_of_running running _ thread run.world
    obtain ⟨recorded, answered⟩ := kept.finalize declared counted finished
    refine ⟨_, _, _, finished, answered, ?_⟩
    have headings := (counted.conserved finished).spells
    have listed := (List.forall₂_and_left run.spells _).mpr ⟨fun _ member => actions_of_spells member, headings⟩
    refine recorded.mp ?_ listed
    rintro spell record known ⟨later, heading⟩
    exact attributed_of_recorded planned declared known heading later

def oneCounter : SessionConfig := ⟨"run", true, .ofList [("cuda", ["warps"])]⟩

def warmUp : List Operation := [.define (.gpu 0) "warps", .add (.gpu 0) "warps" 3]

def crossedCalls : List (Event (ManualCounters × Nat) Operation) :=
  [.beginCall ⟨0⟩ "outer" (.gpu 0), .outside (.add (.gpu 0) "warps" 5), .beginCall ⟨1⟩ "other" (.cpu 0),
    .enter ⟨0⟩ "inner" (.gpu 0), .outside (.define (.gpu 1) "warps"), .outside (.add (.gpu 0) "warps" (.ofNat Count.limit)),
    .drop ⟨⟨3⟩, ⟨0⟩⟩, .outside (.add (.gpu 0) "warps" 7)]

def warps (spell : Begun (ManualCounters × Nat) Operation × History (ManualCounters × Nat) Operation) : Nat × Nat :=
  (total (warmUp ++ spell.1.past.actions) (.gpu 0) "warps", total (warmUp ++ spell.2.actions) (.gpu 0) "warps")

theorem counters_are_attributed_crossed :
    ∃ session run, ofConfig oneCounter (beside fun now => (now, now + 1)) manual (after warmUp, 0) = .ok session ∧
      run = (Run.mk session (after warmUp, 0) []).play operate crossedCalls ∧ run.session.phase = .running ∧
      run.spells.map warps = [(8, 8 + Count.limit), (8, 15 + Count.limit), (3, 15 + Count.limit)] ∧
      ∃ report after worldAfter, run.session.finalize ⟨7⟩ run.world = .ok (report, after, worldAfter) ∧
        List.Forall₂ (Attributed oneCounter warmUp) run.spells report.calls := by
  have attributed := counters_are_attributed (fun now => (now, now + 1)) oneCounter warmUp 0 rfl crossedCalls rfl rfl
  obtain ⟨report, after, worldAfter, finished, -, attributed⟩ := attributed.2.2 ⟨7⟩
  exact ⟨_, _, rfl, rfl, rfl, rfl, report, after, worldAfter, finished, attributed⟩

end CallProfile.Session
