import CallProfile.Proofs.Report.Totals
import CallProfile.Proofs.Session.Attribution

namespace CallProfile

open ManualCounters

def CounterPlan.variant (plan : CounterPlan) (device : Device) (name : String) : Metric.Variant :=
  if name ∈ (plan.get? device).getD [] then .count else .duration

def SessionConfig.totalVariant (config : SessionConfig) (device : Device) (name : String) : Metric.Variant :=
  if name = callsName then .count
  else match config.plan with
    | .ok plan => plan.variant device name
    | .error _ => .duration

theorem Report.mergeable_of_variants {reports : List Report} {variant : Device → String → Metric.Variant}
    (alike : ∀ report ∈ reports, ∀ device name total, report.deviceMetric? device name = some total →
      total.variant = variant device name ∧ total.isAdditive) : Mergeable reports := by
  intro device name several
  have known : ∀ total ∈ held reports device name, total.variant = variant device name ∧ total.isAdditive := by
    intro total member
    obtain ⟨report, given, found⟩ := List.mem_filterMap.mp member
    exact alike report given device name total found
  obtain ⟨total, member⟩ := List.exists_mem_of_length_pos (show 0 < (held reports device name).length by omega)
  obtain ⟨same, additive⟩ := known total member
  rw [Metric.isAdditive, same] at additive
  exact ⟨variant device name, additive, fun other within => (known other within).1⟩

namespace Session

variable {τ : Type} {plan : CounterPlan} {earlier : List Operation}

theorem variant_of_recorded {spell : Begun (ManualCounters × τ) Operation × History (ManualCounters × τ) Operation}
    {record : CallRecord} (recorded : Recorded plan earlier spell record) (heading : record.heading = spell.1.heading)
    {name : String} {metric : Metric} (known : record.metric? name = some metric) (additive : metric.isAdditive) :
    metric.variant = plan.variant record.device name := by
  obtain ⟨metrics, measured, recorded⟩ := recorded
  have device : record.device = spell.1.device := congrArg Heading.device heading
  rcases metric?_of_recorded recorded known with within | ⟨-, mark⟩
  · rw [CounterPlan.variant, device]
    by_cases listed : name ∈ (plan.get? spell.1.device).getD []
    · rw [if_pos listed]
      obtain ⟨names, found, member⟩ : ∃ names, plan.get? spell.1.device = some names ∧ name ∈ names := by
        cases found : plan.get? spell.1.device with
        | none => simp [found] at listed
        | some names => exact ⟨names, rfl, by simpa [found] using listed⟩
      have counted := measured.counted names found name member
      rw [within] at counted
      rw [Option.some.inj counted]
      rfl
    · rw [if_neg listed]
      rcases measured.others name metric within with ⟨names, found, member⟩ | ⟨-, seconds, rfl⟩
      · rw [found] at listed
        exact absurd member listed
      · rfl
  · rw [mark] at additive
    cases additive

/-- The report of a run of a session that was made from the configuration, over counters that it can read. -/
inductive ReportOf (config : SessionConfig) : Report → Prop where
  | intro {τ : Type} (tick : Clock τ) (earlier : List Operation) (rest : τ) {session : Session (ManualCounters × τ)}
      (made : ofConfig config (beside tick) manual (after earlier, rest) = .ok session)
      (events : List (Event (ManualCounters × τ) Operation)) {run : ManualRun τ}
      (played : run = (Run.mk session (after earlier, rest) []).play operate events) (thread : ThreadId) {report : Report}
      {closed : Session (ManualCounters × τ)} {worldAfter : ManualCounters × τ}
      (finished : run.session.finalize thread run.world = .ok (report, closed, worldAfter)) : ReportOf config report

theorem report_of_finalize {σ : Type} {session after : Session σ} {thread : ThreadId} {world worldAfter : σ}
    {report : Report} (finished : session.finalize thread world = .ok (report, after, worldAfter)) :
    report = .ofCalls report.calls := by
  rw [finalize, finalizeFrom_of_running (phase_of_finalize finished)] at finished
  cases finished
  rfl

/-- Whatever is recorded in a run of the configuration has the variant that the plan gives to its name. -/
def Planned (plan : CounterPlan) (record : CallRecord) : Prop :=
  ∀ name metric, record.metric? name = some metric → metric.isAdditive → metric.variant = plan.variant record.device name

theorem planned_of_recorded
    {spells : List (Begun (ManualCounters × τ) Operation × History (ManualCounters × τ) Operation)}
    {records : List CallRecord} (recorded : List.Forall₂ (Recorded plan earlier) spells records)
    (headings : List.Forall₂ (fun spell record => record.heading = spell.1.heading) spells records) :
    ∀ record ∈ records, Planned plan record := by
  induction recorded with
  | nil => simp
  | @cons spell record _ _ known _ rest =>
    obtain ⟨heading, others⟩ := List.forall₂_cons.mp headings
    intro other member
    rcases List.mem_cons.mp member with rfl | member
    · intro name metric
      exact variant_of_recorded known heading
    · exact rest others other member

theorem ReportOf.planned {config : SessionConfig} {report : Report} (made : ReportOf config report) :
    ∃ plan, config.plan = .ok plan ∧ report = .ofCalls report.calls ∧ ∀ record ∈ report.calls, Planned plan record := by
  obtain ⟨tick, earlier, rest, made, events, played, thread, finished⟩ := made
  obtain ⟨plan, planned, declared, counted, meters, kept⟩ := metered_play made events played (phase_of_finalize finished)
  have recorded := (kept.finalize declared counted finished).1
  have headings := (counted.conserved finished).spells
  exact ⟨plan, planned, report_of_finalize finished, planned_of_recorded recorded headings⟩

theorem variant_of_mem_samples {calls : List CallRecord} (planned : ∀ record ∈ calls, Planned plan record)
    {device : Device} {name : String} {sample : Metric} (member : sample ∈ samples calls device name)
    (other : name ≠ callsName) : sample.variant = plan.variant device name := by
  obtain ⟨record, listed, member⟩ := List.mem_flatMap.mp member
  obtain ⟨within, place⟩ := List.mem_filter.mp listed
  rw [CallRecord.samples, if_neg other, List.nil_append] at member
  obtain ⟨known, additive⟩ := Option.filter_eq_some_iff.mp (Option.mem_toList.mp member)
  rw [← of_decide_eq_true place]
  exact planned record within name sample known additive

theorem ReportOf.variant {config : SessionConfig} {report : Report} (made : ReportOf config report) {device : Device}
    {name : String} {total : Metric} (found : report.deviceMetric? device name = some total) :
    total.variant = config.totalVariant device name ∧ total.isAdditive := by
  obtain ⟨plan, planned, same, all⟩ := made.planned
  rw [same] at found
  rw [SessionConfig.totalVariant, planned]
  apply DeviceTotals.variant_ofCalls _ found
  intro sample first
  by_cases calls : name = callsName
  · rw [calls] at first
    rw [if_pos calls, head?_samples_callsName first]
    rfl
  · rw [if_neg calls]
    exact variant_of_mem_samples all (List.mem_of_mem_head? first) calls

/-- What kind of value a total is depends on the configuration alone, so its runs merge in every order and grouping. -/
theorem runs_of_one_config_merge (config : SessionConfig) :
    (∀ report, ReportOf config report → ∀ device name total, report.deviceMetric? device name = some total →
      total.variant = config.totalVariant device name) ∧
    (∀ plan : Report.MergePlan, (∀ report ∈ plan.reports, ReportOf config report) → ∃ merged, plan.run = .ok merged) ∧
    ∀ reports, (∀ report ∈ reports, ReportOf config report) → ∃ merged, Report.mergeAll reports = .ok merged := by
  have mergeable (reports : List Report) (all : ∀ report ∈ reports, ReportOf config report) : Report.Mergeable reports :=
    Report.mergeable_of_variants fun report given _ _ _ => (all report given).variant
  refine ⟨fun report made device name total found => (made.variant found).1, ?_, ?_⟩
  · intro plan all
    exact plan.exists_run_iff.mpr (mergeable _ all)
  · intro reports all
    rw [← Report.MergePlan.run_leftward]
    apply (Report.MergePlan.exists_run_iff _).mpr
    rw [Report.MergePlan.reports_leftward]
    exact mergeable reports all

def likeNamed : SessionConfig := ⟨"run", true, .ofList [("cuda", ["Duration", "Calls"])]⟩

def declarations : List Operation := [.define (.gpu 0) "Duration", .define (.gpu 0) "Calls"]

def leftOpen : List (Event (ManualCounters × Nat) Operation) :=
  [.beginCall ⟨0⟩ "outer" (.cpu 0), .enter ⟨0⟩ "inner" (.gpu 0), .outside (.add (.gpu 0) "Duration" 5),
    .outside (.add (.gpu 0) "Calls" 2), .finish ⟨⟨2⟩, ⟨0⟩⟩]

theorem runs_of_one_config_merge_like_named :
    ∃ busy idle merged, ReportOf likeNamed busy ∧ ReportOf likeNamed idle ∧
      busy.deviceMetric? (.gpu 0) "Duration" = some (.count 5) ∧
      (busy.deviceMetric? (.cpu 0) "Duration").map Metric.variant = some .duration ∧
      Report.mergeAll [busy, idle, busy] = .ok merged := by
  have busy := ReportOf.intro (fun now => (now, now + 1)) declarations 0
    (show ofConfig likeNamed _ manual (after declarations, 0) = .ok _ from rfl) leftOpen rfl ⟨7⟩ rfl
  have idle := ReportOf.intro (fun now => (now, now + 1)) declarations 0
    (show ofConfig likeNamed _ manual (after declarations, 0) = .ok _ from rfl) [] rfl ⟨0⟩ rfl
  obtain ⟨merged, done⟩ := (runs_of_one_config_merge likeNamed).2.2 [_, _, _] (by
    intro report member
    simp only [List.mem_cons, List.not_mem_nil, or_false] at member
    rcases member with rfl | rfl | rfl
    · exact busy
    · exact idle
    · exact busy)
  exact ⟨_, _, merged, busy, idle, by decide +kernel, by decide +kernel, done⟩

end Session

end CallProfile
