import CallProfile.Proofs.Metric.Grouping
import CallProfile.Proofs.Session.Attribution
import CallProfile.Proofs.Session.Nesting

namespace CallProfile.Session

open ManualCounters

theorem actions_append {σ α : Type} (recent past : History σ α) :
    History.actions (recent ++ past) = past.actions ++ History.actions recent := by
  simp [History.actions]

theorem exactSum_le {β : Type} {start stop : β → Nat} {part : β → Option Metric} {items : List β}
    (inTurn : items.Pairwise fun one two => stop one ≤ start two) {low high : Nat} (bounds : low ≤ high)
    (within : ∀ item ∈ items, low ≤ start item ∧ stop item ≤ high ∧
      ∃ count, part item = some (.count count) ∧ start item + count.toNat = stop item) :
    low + Metric.exactSum (items.filterMap part) ≤ high := by
  induction items generalizing low with
  | nil => exact bounds
  | cons item rest ih =>
    obtain ⟨later, tail⟩ := List.pairwise_cons.mp inTurn
    obtain ⟨above, below, count, counted, rises⟩ := within item List.mem_cons_self
    have others := ih tail below fun other member =>
      ⟨later other member, (within other (List.mem_cons_of_mem _ member)).2⟩
    have sum : Metric.exactSum ((item :: rest).filterMap part) =
        count.toNat + Metric.exactSum (rest.filterMap part) := by
      simp only [List.filterMap_cons, counted, Metric.exactSum, Metric.number?, List.foldr_cons]
    omega

/-- The records of the calls that began directly inside a call, on the same device. -/
def Run.childRecords {σ α : Type} (run : Run σ α) (report : Report) (parent : Begun σ α) : List CallRecord :=
  ((run.spells.zip report.calls).filter fun entry =>
    entry.1.1.isChildOf parent && entry.1.1.device = parent.device).map (·.2)

variable {τ : Type}

/-- How a counter stands after what has been done to it, first before and then during the session. -/
def level (earlier : List Operation) (device : Device) (counter : String)
    (history : History (ManualCounters × τ) Operation) : Nat :=
  min (total (earlier ++ history.actions) device counter) Count.limit

theorem level_mono {earlier : List Operation} {device : Device} {counter : String}
    (declared : (total? earlier device counter).isSome) {past history : History (ManualCounters × τ) Operation}
    (before : past <:+ history) :
    level earlier device counter past ≤ level earlier device counter history := by
  obtain ⟨recent, rfl⟩ := before
  obtain ⟨first, known⟩ := Option.isSome_iff_exists.mp declared
  obtain ⟨reached, here, -⟩ := total?_append first known past.actions
  have grown := total_mono (by rw [here]; rfl) (History.actions recent)
  rw [level, level, actions_append, ← List.append_assoc]
  omega

theorem records_attributed {tick : Clock τ} {config : SessionConfig} {earlier : List Operation} {rest : τ}
    {session : Session (ManualCounters × τ)}
    (made : ofConfig config (beside tick) manual (after earlier, rest) = .ok session)
    (events : List (Event (ManualCounters × τ) Operation)) {run : ManualRun τ}
    (played : run = (Run.mk session (after earlier, rest) []).play operate events)
    (running : run.session.phase = .running) (thread : ThreadId) :
    ∃ report after worldAfter, run.session.finalize thread run.world = .ok (report, after, worldAfter) ∧
      List.Forall₂ (Attributed config earlier) run.spells report.calls := by
  obtain ⟨plan, planned, declared, counted, meters, kept⟩ := metered_play made events played running
  have finished : run.session.finalize thread run.world = _ := finalizeFrom_of_running running _ thread run.world
  refine ⟨_, _, _, finished, ?_⟩
  have recorded := (kept.finalize declared counted finished).1
  have headings := (counted.conserved finished).spells
  have listed := (List.forall₂_and_left run.spells _).mpr ⟨fun _ member => actions_of_spells member, headings⟩
  refine recorded.mp ?_ listed
  rintro spell record known ⟨later, heading⟩
  exact attributed_of_recorded planned declared known heading later

theorem Run.Nested.entries_in_turn {σ α : Type} {run : Run σ α} (nested : run.Nested) (accounted : run.Accounted)
    {report : Report} (listed : run.spells.length = report.calls.length) {parent : Begun σ α}
    (around : parent ∈ run.history.begunCalls) :
    ((run.spells.zip report.calls).filter fun entry =>
      entry.1.1.isChildOf parent && entry.1.1.device = parent.device).Pairwise
        fun one two => one.1.2 <:+ two.1.1.past := by
  have spells : ((run.spells.zip report.calls).filter fun entry =>
      entry.1.1.isChildOf parent && entry.1.1.device = parent.device).map (·.1) =
        (run.spells.filter fun spell => spell.1.isChildOf parent).filter fun spell => spell.1.device = parent.device := by
    rw [List.filter_filter]
    conv_rhs => rw [← List.map_fst_zip (Nat.le_of_eq listed), List.filter_map]
    simp only [Function.comp_def, Bool.and_comm]
  have inTurn := (nested.children_in_turn accounted around).filter fun spell => spell.1.device = parent.device
  rw [← spells] at inTurn
  exact List.pairwise_map.mp inTurn

abbrev RecordedSpell (τ : Type) : Type :=
  (Begun (ManualCounters × τ) Operation × History (ManualCounters × τ) Operation) × CallRecord

/-- One call is counted from its beginning to its end, both of which the other one has around it. -/
structure CountedWithin (earlier : List Operation) (counter : String) (outer inner : RecordedSpell τ) : Prop where
  starts : level earlier outer.2.device counter outer.1.1.past ≤ level earlier outer.2.device counter inner.1.1.past
  ends : level earlier outer.2.device counter inner.1.2 ≤ level earlier outer.2.device counter outer.1.2
  counted : ∃ part, inner.2.metric? counter = some (.count part) ∧
    level earlier outer.2.device counter inner.1.1.past + part.toNat = level earlier outer.2.device counter inner.1.2

theorem counted_within {run : ManualRun τ} (nested : run.Nested) (accounted : run.Accounted) {config : SessionConfig}
    {earlier : List Operation} {report : Report}
    (paired : ∀ spell ∈ run.spells.zip report.calls, Attributed config earlier spell.1 spell.2)
    {outer inner : RecordedSpell τ} (member : outer ∈ run.spells.zip report.calls)
    (chosen : inner ∈ run.spells.zip report.calls) (child : inner.1.1.isChildOf outer.1.1 = true)
    (sameDevice : inner.1.1.device = outer.1.1.device) {names : List String}
    (lists : config.Lists outer.2.device names) {counter : String} (named : counter ∈ names)
    (unmarked : counter ≠ truncatedName) (existing : (total? earlier outer.2.device counter).isSome) :
    CountedWithin earlier counter outer inner := by
  have around := accounted.begun_of_spells (List.of_mem_zip member).1
  have within := (List.of_mem_zip chosen).1
  obtain ⟨-, -, -, before⟩ := accounted.parent_of_child (accounted.begun_of_spells within) around child
  have device : inner.2.device = outer.2.device := by
    have innerDevice : inner.2.device = inner.1.1.device := congrArg Heading.device (paired inner chosen).heading
    have outerDevice : outer.2.device = outer.1.1.device := congrArg Heading.device (paired outer member).heading
    rw [innerDevice, outerDevice, sameDevice]
  have part := (paired inner chosen).counted names (device ▸ lists) counter named unmarked
  rw [device] at part
  have ends := nested.closed_within accounted (List.of_mem_zip member).1 within child
  exact ⟨level_mono existing (History.past_of_begun before), level_mono existing ends, part⟩

/--
However calls end, whatever other threads do and even if counters cannot grow any more: what is counted for a
call is at least the exact sum of what is counted for the calls directly inside it on its device.
-/
theorem nested_counters_within_parent (tick : Clock τ) (config : SessionConfig) (earlier : List Operation) (rest : τ)
    {session : Session (ManualCounters × τ)}
    (made : ofConfig config (beside tick) manual (after earlier, rest) = .ok session)
    (events : List (Event (ManualCounters × τ) Operation)) {run : ManualRun τ}
    (played : run = (Run.mk session (after earlier, rest) []).play operate events)
    (running : run.session.phase = .running) (thread : ThreadId) :
    ∃ report after worldAfter, run.session.finalize thread run.world = .ok (report, after, worldAfter) ∧
      List.Forall₂ (fun spell record => record.heading = spell.1.heading) run.spells report.calls ∧
      ∀ entry ∈ run.spells.zip report.calls, ∀ names, config.Lists entry.2.device names →
        ∀ counter ∈ names, counter ≠ truncatedName →
          ∃ count, entry.2.metric? counter = some (.count count) ∧
            (∀ child ∈ run.childRecords report entry.1.1, ∃ part, child.metric? counter = some (.count part)) ∧
            Metric.exactSum ((run.childRecords report entry.1.1).filterMap (·.metric? counter)) ≤ count.toNat := by
  obtain ⟨report, after, worldAfter, finished, attributed⟩ := records_attributed made events played running thread
  refine ⟨report, after, worldAfter, finished, attributed.imp fun _ _ known => known.heading, ?_⟩
  obtain ⟨plan, planned, declared, -, started, -⟩ := metered_of_ofConfig made
  obtain ⟨accounted, nested⟩ : run.Accounted ∧ run.Nested := by
    rw [played] at running ⊢
    exact nested_play operate started rfl events (by simp [running])
  obtain ⟨listed, paired⟩ := List.forall₂_iff_zip.mp attributed
  rintro ⟨spell, record⟩ member names lists counter named unmarked
  have existing := (declared _ names ((SessionConfig.plan_get?_iff planned _ _).mpr lists)).2 counter named
  obtain ⟨count, counted, rises⟩ := (paired member).counted names lists counter named unmarked
  -- Each child lies within its parent, and by the order of the stack the children follow one another.
  have children : ∀ inner ∈ (run.spells.zip report.calls).filter fun entry =>
      entry.1.1.isChildOf spell.1 && entry.1.1.device = spell.1.device,
      CountedWithin earlier counter (spell, record) inner := by
    intro inner chosen
    obtain ⟨chosen, directly⟩ := List.mem_filter.mp chosen
    obtain ⟨child, sameDevice⟩ : inner.1.1.isChildOf spell.1 = true ∧ inner.1.1.device = spell.1.device := by
      simpa using directly
    exact counted_within nested accounted (fun _ => paired) member chosen child sameDevice lists named unmarked existing
  have around := accounted.begun_of_spells (List.of_mem_zip member).1
  have inTurn := (nested.entries_in_turn accounted listed around).imp fun {one two} before =>
    show level earlier record.device counter _ ≤ level earlier record.device counter _ from level_mono existing before
  have bounds := level_mono existing (past_of_spells (List.of_mem_zip member).1)
  have sum := exactSum_le inTurn bounds fun inner chosen =>
    have within := children inner chosen
    ⟨within.starts, within.ends, within.counted⟩
  refine ⟨count, counted, ?_, ?_⟩
  · intro child listed
    obtain ⟨inner, chosen, rfl⟩ := List.mem_map.mp listed
    obtain ⟨part, here, -⟩ := (children inner chosen).counted
    exact ⟨part, here⟩
  · rw [Run.childRecords, List.filterMap_map]
    simp only [level] at sum rises
    simp only [Function.comp_def]
    omega

def twoInside : List (Event (ManualCounters × Nat) Operation) :=
  [.beginCall ⟨0⟩ "outer" (.gpu 0), .outside (.add (.gpu 0) "warps" 5), .beginCall ⟨0⟩ "first" (.gpu 0),
    .beginCall ⟨1⟩ "other" (.gpu 0), .outside (.add (.gpu 0) "warps" 2), .endCall ⟨0⟩ ⟨2⟩,
    .enter ⟨0⟩ "second" (.gpu 0), .outside (.add (.gpu 0) "warps" (.ofNat Count.limit))]

theorem nested_counters_within_parent_saturated :
    ∃ session run, ofConfig oneCounter (beside fun now => (now, now + 1)) manual (after warmUp, 0) = .ok session ∧
      run = (Run.mk session (after warmUp, 0) []).play operate twoInside ∧ run.session.phase = .running ∧
      run.spells.map (fun spell => (spell.1.name, (run.spells.filter (·.1.isChildOf spell.1)).map (·.1.name))) =
        [("first", []), ("second", []), ("other", []), ("outer", ["first", "second"])] ∧
      ∃ report after worldAfter, run.session.finalize ⟨0⟩ run.world = .ok (report, after, worldAfter) ∧
        ∀ entry ∈ run.spells.zip report.calls, ∀ names, oneCounter.Lists entry.2.device names →
          ∀ counter ∈ names, counter ≠ truncatedName → ∃ count, entry.2.metric? counter = some (.count count) ∧
            Metric.exactSum ((run.childRecords report entry.1.1).filterMap (·.metric? counter)) ≤ count.toNat := by
  obtain ⟨report, after, worldAfter, finished, -, within⟩ :=
    nested_counters_within_parent (fun now => (now, now + 1)) oneCounter warmUp 0 rfl twoInside rfl rfl ⟨0⟩
  refine ⟨_, _, rfl, rfl, rfl, rfl, report, after, worldAfter, finished, ?_⟩
  intro entry member names listed counter named unmarked
  obtain ⟨count, counted, -, sum⟩ := within entry member names listed counter named unmarked
  exact ⟨count, counted, sum⟩

end CallProfile.Session
