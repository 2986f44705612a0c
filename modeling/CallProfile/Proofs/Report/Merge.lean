import CallProfile.Proofs.Metric.Grouping
import CallProfile.Proofs.SortedMap
import CallProfile.Report.Merge

namespace CallProfile

def Metric.joinUnder (name : String) (total : Option Metric) (value : Metric) : Except MetricClash Metric :=
  match total with
  | none => .ok value
  | some total => total.combineUnder name value

theorem Metric.combineUnder_eq_ok {name : String} {left right sum : Metric} :
    left.combineUnder name right = .ok sum ↔ left.combine right = some sum := by
  rw [combineUnder]
  cases left.combine right with
  | none => simp
  | some => simp

theorem MetricMap.accumulate_eq_map_joinUnder (totals : MetricMap) (name : String) (value : Metric) :
    MetricMap.accumulate totals name value =
      (Metric.joinUnder name (totals.get? name) value).map (totals.insert name) := by
  rw [accumulate]
  cases totals.get? name <;> rfl

theorem MetricMap.merge_eq_foldIn (totals values : MetricMap) :
    MetricMap.merge totals values = totals.foldIn Metric.joinUnder values.entries := by
  rw [merge, SortedMap.foldIn]
  simp only [accumulate_eq_map_joinUnder]

/-- What two maps hold together under one name, unless their values clash. -/
inductive Metric.Joined : Option Metric → Option Metric → Option Metric → Prop where
  | first (value : Option Metric) : Joined value none value
  | second (value : Metric) : Joined none (some value) (some value)
  | sum {left right total : Metric} (added : left.combine right = some total) :
    Joined (some left) (some right) (some total)

theorem MetricMap.joined_of_merge {totals values merged : MetricMap}
    (done : MetricMap.merge totals values = .ok merged) (name : String) :
    Metric.Joined (totals.get? name) (values.get? name) (merged.get? name) := by
  rw [merge_eq_foldIn] at done
  cases found : values.get? name with
  | none =>
    rw [SortedMap.get?_of_foldIn_none done found]
    exact .first _
  | some value =>
    obtain ⟨joined, join, known⟩ := SortedMap.get?_of_foldIn_some done found
    rw [known]
    cases before : totals.get? name with
    | none =>
      rw [before] at join
      cases join
      exact .second value
    | some total =>
      rw [before] at join
      exact .sum (Metric.combineUnder_eq_ok.mp join)

theorem MetricMap.exists_merge_iff (totals values : MetricMap) :
    (∃ merged, MetricMap.merge totals values = .ok merged) ↔
      ∀ name left right, totals.get? name = some left → values.get? name = some right →
        (left.combine right).isSome := by
  rw [merge_eq_foldIn, SortedMap.exists_foldIn_iff]
  constructor
  · intro all name left right first second
    obtain ⟨joined, join⟩ := all name right second
    rw [first] at join
    exact Option.isSome_of_eq_some (Metric.combineUnder_eq_ok.mp join)
  · intro all name right second
    cases first : totals.get? name with
    | none => exact ⟨right, rfl⟩
    | some left =>
      obtain ⟨sum, added⟩ := Option.isSome_iff_exists.mp (all name left right first second)
      exact ⟨sum, Metric.combineUnder_eq_ok.mpr added⟩

theorem DeviceTotals.merge_eq_foldIn (totals others : DeviceTotals) :
    DeviceTotals.merge totals others =
      totals.foldIn (fun _ metrics values => MetricMap.merge (metrics.getD .empty) values) others.entries := by
  have step (totals : DeviceTotals) (entry : Device × MetricMap) :
      (do let merged ← MetricMap.merge ((totals.get? entry.1).getD .empty) entry.2
          return totals.insert entry.1 merged) =
        (MetricMap.merge ((totals.get? entry.1).getD .empty) entry.2).map (totals.insert entry.1) := by
    cases MetricMap.merge ((totals.get? entry.1).getD .empty) entry.2 <;> rfl
  rw [merge, SortedMap.foldIn]
  simp only [step]

def DeviceTotals.total? (totals : DeviceTotals) (device : Device) (name : String) : Option Metric :=
  (totals.get? device).bind (·.get? name)

theorem DeviceTotals.total?_eq_getD (totals : DeviceTotals) (device : Device) (name : String) :
    totals.total? device name = ((totals.get? device).getD .empty).get? name := by
  rw [total?]
  cases totals.get? device <;> rfl

theorem DeviceTotals.contains_of_merge {totals others merged : DeviceTotals}
    (done : totals.merge others = .ok merged) (device : Device) :
    merged.contains device ↔ totals.contains device ∨ others.contains device := by
  rw [merge_eq_foldIn] at done
  simp only [SortedMap.contains]
  cases found : others.get? device with
  | none => simp [SortedMap.get?_of_foldIn_none done found]
  | some values =>
    obtain ⟨joined, -, known⟩ := SortedMap.get?_of_foldIn_some done found
    simp [known]

theorem DeviceTotals.joined_of_merge {totals others merged : DeviceTotals}
    (done : totals.merge others = .ok merged) (device : Device) (name : String) :
    Metric.Joined (totals.total? device name) (others.total? device name) (merged.total? device name) := by
  rw [merge_eq_foldIn] at done
  cases found : others.get? device with
  | none =>
    rw [total?, total?, total?, found, SortedMap.get?_of_foldIn_none done found]
    exact .first _
  | some values =>
    obtain ⟨joined, join, known⟩ := SortedMap.get?_of_foldIn_some done found
    rw [total?_eq_getD totals, total?, total?, found, known]
    exact MetricMap.joined_of_merge join name

theorem DeviceTotals.exists_merge_iff (totals others : DeviceTotals) :
    (∃ merged, totals.merge others = .ok merged) ↔
      ∀ device name left right, totals.total? device name = some left → others.total? device name = some right →
        (left.combine right).isSome := by
  rw [merge_eq_foldIn, SortedMap.exists_foldIn_iff]
  simp only [MetricMap.exists_merge_iff, total?_eq_getD totals]
  constructor
  · intro all device name left right first second
    obtain ⟨values, found, known⟩ := Option.bind_eq_some_iff.mp second
    exact all device values found name left right first known
  · intro all device values found name left right first second
    have present : others.get? device = some values := found
    exact all device name left right first (by rw [total?, present]; exact second)

namespace Report

theorem deviceMetric?_eq_total? (report : Report) : report.deviceMetric? = report.deviceMetrics.total? := rfl

theorem merge_eq_ok {first second merged : Report} :
    first.merge second = .ok merged ↔
      merged.calls = first.calls ++ second.calls ∧
        first.deviceMetrics.merge second.deviceMetrics = .ok merged.deviceMetrics := by
  rw [merge]
  cases done : first.deviceMetrics.merge second.deviceMetrics with
  | error =>
    constructor <;> intro h
    · cases h
    · cases h.2
  | ok totals =>
    cases merged
    constructor
    · intro h; cases h; exact ⟨rfl, rfl⟩
    · rintro ⟨rfl, h⟩; cases h; rfl

theorem exists_merge_iff (first second : Report) :
    (∃ merged, first.merge second = .ok merged) ↔
      ∀ device name left right, first.deviceMetric? device name = some left →
        second.deviceMetric? device name = some right → (left.combine right).isSome := by
  rw [deviceMetric?_eq_total?, deviceMetric?_eq_total?, ← DeviceTotals.exists_merge_iff]
  constructor
  · rintro ⟨merged, done⟩
    exact ⟨merged.deviceMetrics, (merge_eq_ok.mp done).2⟩
  · rintro ⟨totals, done⟩
    exact ⟨⟨first.calls ++ second.calls, totals⟩, merge_eq_ok.mpr ⟨rfl, done⟩⟩

/-- The totals of a name on a device in the reports that have one, in the order of the reports. -/
def held (reports : List Report) (device : Device) (name : String) : List Metric :=
  reports.filterMap (·.deviceMetric? device name)

/-- Whether no two of the reports clash, each taken as a whole. -/
def Mergeable (reports : List Report) : Prop := ∀ device name, Metric.Summable (held reports device name)

/-- What a report has in common with every other one that comes of merging the same reports in the same order. -/
structure Gathered (reports : List Report) (merged : Report) : Prop where
  calls : merged.calls = reports.flatMap (·.calls)
  devices : ∀ device, merged.deviceMetrics.contains device ↔
    ∃ report ∈ reports, report.deviceMetrics.contains device
  absent : ∀ device name, merged.deviceMetric? device name = none ↔ held reports device name = []
  totals : ∀ device name total, merged.deviceMetric? device name = some total →
    Metric.Grouping (held reports device name) total

/-- What that comes to: counts are exact sums cut off once, and what only one report has is kept as it is. -/
structure MergeOf (reports : List Report) (merged : Report) : Prop extends Gathered reports merged where
  variants : ∀ device name total, merged.deviceMetric? device name = some total →
    ∀ term ∈ held reports device name, term.variant = total.variant
  numbers : ∀ device name total number, merged.deviceMetric? device name = some total →
    total.number? = some number → number = min (Metric.exactSum (held reports device name)) Count.limit
  kept : ∀ device name only, held reports device name = [only] → merged.deviceMetric? device name = some only

/-- Reports that differ at most in the rounding of their totals, which are sums of the same terms in the same order. -/
structure UpToRounding (terms : Device → String → List Metric) (left right : Report) : Prop where
  calls : left.calls = right.calls
  devices : ∀ device, left.deviceMetrics.contains device ↔ right.deviceMetrics.contains device
  names : ∀ device name, (left.deviceMetric? device name).isSome ↔ (right.deviceMetric? device name).isSome
  absent : ∀ device name, left.deviceMetric? device name = none ↔ terms device name = []
  totals : ∀ device name total total', left.deviceMetric? device name = some total →
    right.deviceMetric? device name = some total' → Metric.Regrouped (terms device name) total total'

theorem held_append (fronts backs : List Report) (device : Device) (name : String) :
    held (fronts ++ backs) device name = held fronts device name ++ held backs device name :=
  List.filterMap_append

theorem gathered_nil : Gathered [] empty := by
  refine ⟨rfl, ?_, ?_, ?_⟩
  · intro device
    simp [empty, SortedMap.contains]
  · intro device name
    simp [empty, deviceMetric?, held]
  · intro device name total found
    cases found

theorem gathered_single (report : Report) : Gathered [report] report := by
  refine ⟨?_, ?_, ?_, ?_⟩
  · simp
  · intro device
    simp
  · intro device name
    cases found : report.deviceMetric? device name <;> simp [held, found]
  · intro device name total found
    have one : held [report] device name = [total] := by simp [held, found]
    rw [one]
    exact .single total

namespace Gathered

variable {reports fronts backs : List Report} {first second merged : Report}

theorem held_of_some (described : Gathered reports merged) {device : Device} {name : String}
    (some : held reports device name ≠ []) :
    ∃ total, merged.deviceMetric? device name = .some total ∧ Metric.Grouping (held reports device name) total := by
  cases found : merged.deviceMetric? device name with
  | none => exact absurd ((described.absent device name).mp found) some
  | some total => exact ⟨total, rfl, described.totals device name total found⟩

theorem mergeable (described : Gathered reports merged) : Mergeable reports := by
  intro device name
  by_cases nothing : held reports device name = []
  · intro several
    simp [nothing] at several
  · obtain ⟨total, -, grouping⟩ := described.held_of_some nothing
    exact grouping.summable

theorem exists_merge_iff (left : Gathered fronts first) (right : Gathered backs second) :
    (∃ merged, first.merge second = .ok merged) ↔ Mergeable (fronts ++ backs) := by
  rw [Report.exists_merge_iff]
  constructor
  · intro all device name
    rw [held_append]
    by_cases nothing : held fronts device name = []
    · rw [nothing, List.nil_append]
      exact right.mergeable device name
    · by_cases nothing' : held backs device name = []
      · rw [nothing', List.append_nil]
        exact left.mergeable device name
      · obtain ⟨total, found, grouping⟩ := left.held_of_some nothing
        obtain ⟨total', found', grouping'⟩ := right.held_of_some nothing'
        exact (grouping.combine_isSome_iff grouping').mp (all device name total total' found found')
  · intro mergeable device name total total' found found'
    have grouping := left.totals device name total found
    have grouping' := right.totals device name total' found'
    refine (grouping.combine_isSome_iff grouping').mpr ?_
    rw [← held_append]
    exact mergeable device name

theorem merge (left : Gathered fronts first) (right : Gathered backs second) (done : first.merge second = .ok merged) :
    Gathered (fronts ++ backs) merged := by
  obtain ⟨calls, totals⟩ := merge_eq_ok.mp done
  refine ⟨?_, ?_, ?_, ?_⟩
  · rw [calls, left.calls, right.calls, List.flatMap_append]
  · intro device
    rw [DeviceTotals.contains_of_merge totals, left.devices, right.devices]
    simp only [List.mem_append, or_and_right, exists_or]
  · intro device name
    have joined := DeviceTotals.joined_of_merge totals device name
    simp only [← deviceMetric?_eq_total?] at joined
    rw [held_append, List.append_eq_nil_iff, ← left.absent, ← right.absent]
    generalize first.deviceMetric? device name = front at joined ⊢
    generalize second.deviceMetric? device name = back at joined ⊢
    generalize merged.deviceMetric? device name = total at joined ⊢
    cases joined <;> simp
  · intro device name total found
    have joined := DeviceTotals.joined_of_merge totals device name
    simp only [← deviceMetric?_eq_total?, found] at joined
    rw [held_append]
    generalize before : first.deviceMetric? device name = front at joined
    generalize after : second.deviceMetric? device name = back at joined
    cases joined with
    | first =>
      rw [(right.absent device name).mp after, List.append_nil]
      exact left.totals device name total before
    | second =>
      rw [(left.absent device name).mp before, List.nil_append]
      exact right.totals device name total after
    | sum added => exact .pair (left.totals device name _ before) (right.totals device name _ after) added

theorem upToRounding (left : Gathered reports first) (right : Gathered reports second) :
    UpToRounding (held reports) first second := by
  refine ⟨left.calls.trans right.calls.symm, ?_, ?_, left.absent, ?_⟩
  · intro device
    rw [left.devices, right.devices]
  · intro device name
    rw [Option.isSome_iff_ne_none, Option.isSome_iff_ne_none, Ne, Ne, left.absent, right.absent]
  · intro device name total total' found found'
    exact (left.totals device name total found).regrouped (right.totals device name total' found')

theorem mergeOf (gathered : Gathered reports merged) : MergeOf reports merged := by
  refine ⟨gathered, ?_, ?_, ?_⟩
  · intro device name total found
    exact (gathered.totals device name total found).variant
  · intro device name total number found counted
    exact (gathered.totals device name total found).number? counted
  · intro device name only one
    obtain ⟨total, found, grouping⟩ := gathered.held_of_some (by rw [one]; exact List.cons_ne_nil _ _)
    rw [one] at grouping
    rw [found, grouping.eq_of_single]

end Gathered

theorem Mergeable.left {fronts backs : List Report} (mergeable : Mergeable (fronts ++ backs)) : Mergeable fronts := by
  intro device name
  have summable := mergeable device name
  rw [held_append] at summable
  exact summable.left

theorem Mergeable.right {fronts backs : List Report} (mergeable : Mergeable (fronts ++ backs)) : Mergeable backs := by
  intro device name
  have summable := mergeable device name
  rw [held_append] at summable
  exact summable.right

/-- A way of merging reports two at a time, in which the empty report may take part. -/
inductive MergePlan where
  | nothing
  | one (report : Report)
  | both (first second : MergePlan)

namespace MergePlan

def reports : MergePlan → List Report
  | nothing => []
  | one report => [report]
  | both first second => first.reports ++ second.reports

def run : MergePlan → Except MetricClash Report
  | nothing => .ok empty
  | one report => .ok report
  | both first second => do (← first.run).merge (← second.run)

theorem run_both_eq_ok {first second : MergePlan} {merged : Report} :
    (both first second).run = .ok merged ↔
      ∃ left right, first.run = .ok left ∧ second.run = .ok right ∧ left.merge right = .ok merged := by
  rw [run]
  cases first.run with
  | error => simp [bind, Except.bind]
  | ok left =>
    cases second.run with
    | error => simp [bind, Except.bind]
    | ok right => simp [bind, Except.bind]

theorem gathered (plan : MergePlan) {merged : Report} (done : plan.run = .ok merged) :
    Gathered plan.reports merged := by
  induction plan generalizing merged with
  | nothing => cases done; exact gathered_nil
  | one report => cases done; exact gathered_single report
  | both first second left right =>
    obtain ⟨one, other, ran, ran', merge⟩ := run_both_eq_ok.mp done
    exact (left ran).merge (right ran') merge

theorem exists_run_iff (plan : MergePlan) : (∃ merged, plan.run = .ok merged) ↔ Mergeable plan.reports := by
  constructor
  · rintro ⟨merged, done⟩
    exact (plan.gathered done).mergeable
  · intro mergeable
    induction plan with
    | nothing => exact ⟨empty, rfl⟩
    | one report => exact ⟨report, rfl⟩
    | both first second left right =>
      obtain ⟨one, ran⟩ := left mergeable.left
      obtain ⟨other, ran'⟩ := right mergeable.right
      have step := (first.gathered ran).exists_merge_iff (second.gathered ran')
      obtain ⟨merged, merge⟩ := step.mpr mergeable
      exact ⟨merged, run_both_eq_ok.mpr ⟨one, other, ran, ran', merge⟩⟩

def leftward (reports : List Report) : MergePlan := reports.foldl (fun plan report => both plan (one report)) nothing

def rightward (reports : List Report) : MergePlan := reports.foldr (fun report plan => both (one report) plan) nothing

theorem reports_leftward (list : List Report) : (leftward list).reports = list := by
  have general (plan : MergePlan) :
      (list.foldl (fun plan report => both plan (one report)) plan).reports = plan.reports ++ list := by
    induction list generalizing plan with
    | nil => simp
    | cons report rest ih => simp [ih, reports]
  exact general nothing

theorem reports_rightward (list : List Report) : (rightward list).reports = list := by
  induction list with
  | nil => rfl
  | cons report rest ih => exact congrArg (report :: ·) ih

theorem run_leftward (list : List Report) : (leftward list).run = mergeAll list := by
  have general (plan : MergePlan) :
      (list.foldl (fun plan report => both plan (one report)) plan).run =
        plan.run >>= fun merged => list.foldlM merge merged := by
    induction list generalizing plan with
    | nil =>
      simp only [List.foldl_nil, List.foldlM_nil]
      exact (bind_pure plan.run).symm
    | cons report rest ih =>
      rw [List.foldl_cons, ih, run]
      cases plan.run <;> rfl
  exact general nothing

theorem run_rightward (list : List Report) : (rightward list).run = mergeAllRight list := by
  induction list with
  | nil => rfl
  | cons report rest ih =>
    have step : (rightward (report :: rest)).run = (rightward rest).run >>= report.merge := by
      simp only [rightward, List.foldr_cons, run]
      rfl
    rw [step, ih, mergeAllRight, mergeAllRight, List.foldrM_cons]

end MergePlan

/-- Two ways of merging that fail together, and whose results differ at most in rounding. -/
def Agree (terms : Device → String → List Metric) : Except MetricClash Report → Except MetricClash Report → Prop
  | .ok left, .ok right => UpToRounding terms left right
  | .error _, .error _ => True
  | _, _ => False

theorem MergePlan.agree {plan plan' : MergePlan} (same : plan.reports = plan'.reports) :
    Agree (held plan.reports) plan.run plan'.run := by
  have succeeds := plan.exists_run_iff
  rw [same, ← plan'.exists_run_iff] at succeeds
  cases ran : plan.run with
  | ok left =>
    obtain ⟨right, ran'⟩ := succeeds.mp ⟨left, ran⟩
    rw [ran']
    exact (plan.gathered ran).upToRounding (same ▸ plan'.gathered ran')
  | error =>
    cases ran' : plan'.run with
    | ok right =>
      obtain ⟨left, done⟩ := succeeds.mpr ⟨right, ran'⟩
      rw [ran] at done
      cases done
    | error => trivial

theorem merge_empty (report : Report) : report.merge empty = .ok report := merge_eq_ok.mpr ⟨by simp [empty], rfl⟩

theorem empty_merge (report : Report) : empty.merge report = .ok report := by
  obtain ⟨merged, done⟩ := (exists_merge_iff empty report).mpr fun device name left right found _ => by cases found
  obtain ⟨calls, totals⟩ := merge_eq_ok.mp done
  have same : merged.deviceMetrics = report.deviceMetrics := by
    apply SortedMap.ext_get?
    intro device
    rw [DeviceTotals.merge_eq_foldIn] at totals
    cases found : report.deviceMetrics.get? device with
    | none => exact SortedMap.get?_of_foldIn_none totals found
    | some values =>
      obtain ⟨joined, join, known⟩ := SortedMap.get?_of_foldIn_some totals found
      have copy : joined = values := by
        apply SortedMap.ext_get?
        intro name
        have put := MetricMap.joined_of_merge join name
        generalize values.get? name = value at put ⊢
        generalize joined.get? name = total at put ⊢
        cases put <;> rfl
      rw [known, copy]
  rw [done]
  cases merged
  cases report
  cases calls
  cases same
  rfl

/--
Reports merged from either end: the two fail together, exactly if some device has under one name totals without
a sum in two of the reports, and what comes of them is the same but for the rounding of floats.
-/
theorem merging_is_grouping_free :
    (∀ reports,
      ((∃ merged, mergeAll reports = .ok merged) ↔ Mergeable reports) ∧
        ((∃ merged, mergeAllRight reports = .ok merged) ↔ Mergeable reports) ∧
        (∀ merged, mergeAll reports = .ok merged ∨ mergeAllRight reports = .ok merged → MergeOf reports merged) ∧
        Agree (held reports) (mergeAll reports) (mergeAllRight reports)) ∧
      (∀ report, empty.merge report = .ok report ∧ report.merge empty = .ok report) ∧
      ∀ first second third : Report,
        Agree (held [first, second, third]) (first.merge second >>= (·.merge third))
          (second.merge third >>= first.merge) := by
  refine ⟨fun reports => ?_, fun report => ⟨empty_merge report, merge_empty report⟩, fun first second third => ?_⟩
  · have left := MergePlan.exists_run_iff (.leftward reports)
    have right := MergePlan.exists_run_iff (.rightward reports)
    have agree := MergePlan.agree ((MergePlan.reports_leftward reports).trans (MergePlan.reports_rightward reports).symm)
    have gathered (merged : Report) := @MergePlan.gathered (.leftward reports) merged
    have gathered' (merged : Report) := @MergePlan.gathered (.rightward reports) merged
    rw [MergePlan.run_leftward, MergePlan.reports_leftward] at left gathered
    rw [MergePlan.run_rightward, MergePlan.reports_rightward] at right gathered'
    rw [MergePlan.reports_leftward, MergePlan.run_leftward, MergePlan.run_rightward] at agree
    refine ⟨left, right, ?_, agree⟩
    rintro merged (done | done)
    · exact (gathered merged done).mergeOf
    · exact (gathered' merged done).mergeOf
  · have agree : Agree (held [first, second, third]) (MergePlan.both (.both (.one first) (.one second)) (.one third)).run
        (MergePlan.both (.one first) (.both (.one second) (.one third))).run := MergePlan.agree rfl
    exact agree

end Report

end CallProfile
