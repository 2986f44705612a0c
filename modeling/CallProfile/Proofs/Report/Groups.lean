import Mathlib.Algebra.BigOperators.Group.List.Basic
import Mathlib.Algebra.GroupWithZero.Nat
import CallProfile.Proofs.Decimal.TotalOrder
import CallProfile.Proofs.Report.Totals
import CallProfile.Report.Diff
import CallProfile.Report.Table

namespace CallProfile

section Sums

variable {κ α : Type}

theorem sum_map_add (items : List α) (first second : α → Nat) :
    (items.map fun item => first item + second item).sum = (items.map first).sum + (items.map second).sum := by
  induction items with
  | nil => rfl
  | cons item rest ih =>
    simp only [List.map_cons, List.sum_cons, ih]
    omega

variable [DecidableEq κ]

theorem sum_indicator {keys : List κ} (nodup : keys.Nodup) (key : κ) (number : Nat) :
    (keys.map fun other => if key = other then number else 0).sum = if key ∈ keys then number else 0 := by
  induction keys with
  | nil => rfl
  | cons first rest ih =>
    obtain ⟨absent, nodup⟩ := List.nodup_cons.mp nodup
    rw [List.map_cons, List.sum_cons, ih nodup]
    by_cases here : key = first
    · subst here
      simp [absent]
    · simp [here]

/-- Adding up group by group comes to the same as adding up everything that is in one of the groups. -/
theorem sum_groups {keys : List κ} (nodup : keys.Nodup) (key : α → κ) (items : List α) (number : α → Nat) :
    (keys.map fun own => ((items.filter (key · = own)).map number).sum).sum =
      ((items.filter (key · ∈ keys)).map number).sum := by
  induction items with
  | nil => simp
  | cons item rest ih =>
    have split (own : κ) : (((item :: rest).filter (key · = own)).map number).sum =
        (if key item = own then number item else 0) + ((rest.filter (key · = own)).map number).sum := by
      by_cases here : key item = own <;> simp [here]
    simp only [split, sum_map_add, sum_indicator nodup, ih]
    by_cases listed : key item ∈ keys <;> simp [listed]

theorem sum_countP_groups {keys : List κ} (nodup : keys.Nodup) (key : α → κ) {items : List α}
    (all : ∀ item ∈ items, key item ∈ keys) : (keys.map fun own => items.countP (key · = own)).sum = items.length := by
  have sizes := sum_groups nodup key items fun _ => 1
  rw [List.filter_eq_self.mpr fun item member => decide_eq_true (all item member)] at sizes
  simpa [List.countP_eq_length_filter] using sizes

theorem min_sum_min (terms : List Nat) (limit : Nat) :
    min (terms.map fun term => min term limit).sum limit = min terms.sum limit := by
  induction terms with
  | nil => rfl
  | cons term rest ih =>
    simp only [List.map_cons, List.sum_cons]
    omega

end Sums

theorem foldl_counts {α β : Type} {step : β → α → β} (count : β → Nat)
    (one : ∀ state item, count (step state item) = count state + 1) (items : List α) (state : β) :
    count (items.foldl step state) = count state + items.length := by
  induction items generalizing state with
  | nil => rfl
  | cons item rest ih =>
    rw [List.foldl_cons, ih, one, List.length_cons]
    omega

namespace Metric

theorem exactSum_flatMap {α : Type} (items : List α) (terms : α → List Metric) :
    exactSum (items.flatMap terms) = (items.map fun item => exactSum (terms item)).sum := by
  induction items with
  | nil => rfl
  | cons item rest ih => rw [List.flatMap_cons, exactSum_append, ih, List.map_cons, List.sum_cons]

theorem exactSum_filterMap {α : Type} (items : List α) (term? : α → Option Metric) :
    exactSum (items.filterMap term?) = (items.map fun item => exactSum (term? item).toList).sum := by
  rw [← exactSum_flatMap, List.filterMap_eq_flatMap_toList]

section Alike

variable {variant : Variant} (counts : variant = .count ∨ variant = .bytes) {samples : List Metric}
  (alike : ∀ sample ∈ samples, sample.variant = variant)
include alike

theorem counted_of_alike : counted samples = samples := by
  cases samples with
  | nil => rfl
  | cons first rest =>
    rw [counted, List.filter_eq_self.mpr]
    intro sample member
    rw [alike first List.mem_cons_self, alike sample (List.mem_cons_of_mem _ member)]
    exact decide_eq_true rfl

include counts

theorem total_of_alike (some : samples ≠ []) :
    ∃ total, samples.foldl absorb none = Option.some total ∧ total.variant = variant ∧
      total.number? = Option.some (min (exactSum samples) Count.limit) := by
  cases samples with
  | nil => exact absurd rfl some
  | cons first rest =>
    have own : first.variant = variant := alike first List.mem_cons_self
    have additive : first.isAdditive := by
      rw [isAdditive, own]
      rcases counts with rfl | rfl <;> rfl
    obtain ⟨total, reached, same, grouping⟩ := grouping_counted additive rest
    rw [counted_of_alike alike] at grouping
    have numbered : total.number?.isSome := by
      have variant := same.trans own
      rcases counts with rfl | rfl <;> cases total <;> first | rfl | cases variant
    obtain ⟨number, counted⟩ := Option.isSome_iff_exists.mp numbered
    exact ⟨total, reached, same.trans own, by rw [counted, grouping.number? counted]⟩

theorem exactSum_total :
    exactSum (samples.foldl absorb none).toList = min (exactSum samples) Count.limit := by
  by_cases some : samples = []
  · subst some
    exact (Nat.zero_min _).symm
  · obtain ⟨total, reached, -, numbered⟩ := total_of_alike counts alike some
    rw [reached, Option.toList_some, exactSum, List.filterMap_cons, numbered]
    rfl

end Alike

end Metric

def CallRecord.given (call : CallRecord) (name : String) : List Metric :=
  ((call.metric? name).filter Metric.isAdditive).toList

theorem CallRecord.samples_eq_given (call : CallRecord) {name : String} (other : name ≠ callsName) :
    call.samples name = call.given name := by
  rw [samples, if_neg other, List.nil_append, given]

/-- The time that is recorded, or 0 where none is. -/
def MetricMap.time (metrics : MetricMap) : Double :=
  match metrics.get? durationName with
  | some (.duration seconds) => seconds
  | _ => 0.0

theorem MetricMap.getD_duration? (metrics : MetricMap) :
    ((metrics.get? durationName).bind Metric.duration?).getD 0.0 = metrics.time := by
  rw [time]
  cases metrics.get? durationName with
  | none => rfl
  | some value => cases value <;> rfl

namespace CallGroup

/-- The calls of one name on one device put together. -/
def gathered (calls : List CallRecord) (key : CallKey) : CallGroup :=
  (calls.filter (·.key = key)).foldl addCall (empty key)

theorem addMetric_eq (group : CallGroup) (name : String) (value : Metric) :
    (group.addMetric name value).key = group.key ∧ (group.addMetric name value).count = group.count ∧
      (group.addMetric name value).metrics = MetricMap.accumulateOrSkip group.metrics name value := by
  unfold addMetric MetricMap.accumulateOrSkip
  cases MetricMap.accumulate group.metrics name value <;> exact ⟨rfl, rfl, rfl⟩

theorem addCall_eq (group : CallGroup) (call : CallRecord) :
    (group.addCall call).key = group.key ∧ (group.addCall call).count = group.count + 1 ∧
      (group.addCall call).metrics = (call.metrics.entries.filter (·.2.isAdditive)).foldl
        (fun metrics entry => MetricMap.accumulateOrSkip metrics entry.1 entry.2) group.metrics := by
  have general (entries : List (String × Metric)) (group : CallGroup) :
      let grown := entries.foldl (fun group entry => group.addMetric entry.1 entry.2) group
      grown.key = group.key ∧ grown.count = group.count ∧ grown.metrics =
        entries.foldl (fun metrics entry => MetricMap.accumulateOrSkip metrics entry.1 entry.2) group.metrics := by
    induction entries generalizing group with
    | nil => exact ⟨rfl, rfl, rfl⟩
    | cons entry rest ih =>
      obtain ⟨key, count, metrics⟩ := addMetric_eq group entry.1 entry.2
      obtain ⟨sameKey, sameCount, grown⟩ := ih (group.addMetric entry.1 entry.2)
      refine ⟨sameKey.trans key, sameCount.trans count, ?_⟩
      rw [metrics] at grown
      exact grown
  exact general _ { group with count := group.count + 1 }

@[simp] theorem key_addCall (group : CallGroup) (call : CallRecord) : (group.addCall call).key = group.key :=
  (addCall_eq group call).1

theorem get?_addCall (group : CallGroup) (call : CallRecord) (name : String) :
    (group.addCall call).metrics.get? name = (call.given name).foldl Metric.absorb (group.metrics.get? name) := by
  rw [(addCall_eq group call).2.2, MetricMap.get?_foldl_accumulateOrSkip _ (call.metrics.ascending.filter _),
    SortedMap.find_filter call.metrics.ascending]
  rfl

section Folding

variable (calls : List CallRecord) (group : CallGroup)

theorem key_foldl_addCall : (calls.foldl addCall group).key = group.key := by
  induction calls generalizing group with
  | nil => rfl
  | cons call rest ih => rw [List.foldl_cons, ih, key_addCall]

theorem count_foldl_addCall : (calls.foldl addCall group).count = group.count + calls.length :=
  foldl_counts count (fun group call => (addCall_eq group call).2.1) calls group

theorem get?_foldl_addCall (name : String) :
    (calls.foldl addCall group).metrics.get? name =
      (calls.flatMap (·.given name)).foldl Metric.absorb (group.metrics.get? name) := by
  induction calls generalizing group with
  | nil => rfl
  | cons call rest ih => rw [List.foldl_cons, ih, get?_addCall, List.flatMap_cons, List.foldl_append]

end Folding

@[simp] theorem key_gathered (calls : List CallRecord) (key : CallKey) : (gathered calls key).key = key :=
  key_foldl_addCall _ _

theorem count_gathered (calls : List CallRecord) (key : CallKey) :
    (gathered calls key).count = calls.countP (·.key = key) := by
  rw [gathered, count_foldl_addCall, List.countP_eq_length_filter]
  exact Nat.zero_add _

theorem get?_gathered (calls : List CallRecord) (key : CallKey) (name : String) :
    (gathered calls key).metrics.get? name =
      ((calls.filter (·.key = key)).flatMap (·.given name)).foldl Metric.absorb none :=
  get?_foldl_addCall _ _ name

theorem keys_insertCall (call : CallRecord) (groups : List CallGroup) :
    (insertCall call groups).map (·.key) =
      if call.key ∈ groups.map (·.key) then groups.map (·.key) else groups.map (·.key) ++ [call.key] := by
  induction groups with
  | nil => simp [insertCall, empty]
  | cons group rest ih =>
    rw [insertCall]
    by_cases here : group.key = call.key
    · simp [here]
    · rw [if_neg here, List.map_cons, List.map_cons, ih]
      by_cases later : call.key ∈ rest.map (·.key) <;> simp [later, Ne.symm here]

theorem mem_insertCall {call : CallRecord} {groups : List CallGroup} (nodup : (groups.map (·.key)).Nodup)
    {group : CallGroup} (member : group ∈ insertCall call groups) :
    (group ∈ groups ∧ group.key ≠ call.key) ∨
      (∃ before ∈ groups, before.key = call.key ∧ group = before.addCall call) ∨
      (call.key ∉ groups.map (·.key) ∧ group = (empty call.key).addCall call) := by
  induction groups with
  | nil => exact .inr (.inr ⟨List.not_mem_nil, List.mem_singleton.mp member⟩)
  | cons first rest ih =>
    obtain ⟨absent, nodup⟩ := List.nodup_cons.mp nodup
    rw [insertCall] at member
    by_cases here : first.key = call.key
    · rw [if_pos here] at member
      rcases List.mem_cons.mp member with rfl | member
      · exact .inr (.inl ⟨first, List.mem_cons_self, here, rfl⟩)
      · refine .inl ⟨List.mem_cons_of_mem _ member, fun same => absent ?_⟩
        exact List.mem_map.mpr ⟨group, member, same.trans here.symm⟩
    · rw [if_neg here] at member
      rcases List.mem_cons.mp member with rfl | member
      · exact .inl ⟨List.mem_cons_self, here⟩
      · rcases ih nodup member with ⟨within, other⟩ | ⟨before, within, same⟩ | ⟨missing, same⟩
        · exact .inl ⟨List.mem_cons_of_mem _ within, other⟩
        · exact .inr (.inl ⟨before, List.mem_cons_of_mem _ within, same⟩)
        · refine .inr (.inr ⟨?_, same⟩)
          rw [List.map_cons, List.mem_cons, not_or]
          exact ⟨Ne.symm here, missing⟩

/-- The groups are those of the keys of the calls, each of them once and with all of its calls. -/
structure Grouped (calls : List CallRecord) (groups : List CallGroup) : Prop where
  nodup : (groups.map (·.key)).Nodup
  mem_keys : ∀ key, key ∈ groups.map (·.key) ↔ ∃ call ∈ calls, call.key = key
  complete : ∀ group ∈ groups, group = gathered calls group.key

theorem gathered_append (calls : List CallRecord) (call : CallRecord) (key : CallKey) :
    gathered (calls ++ [call]) key =
      if call.key = key then (gathered calls key).addCall call else gathered calls key := by
  rw [gathered, List.filter_append, List.foldl_append]
  by_cases here : call.key = key
  · rw [if_pos here, List.filter_cons_of_pos (by simpa using here)]
    rfl
  · rw [if_neg here, List.filter_cons_of_neg (by simpa using here)]
    rfl

theorem Grouped.insertCall {calls : List CallRecord} {groups : List CallGroup} (grouped : Grouped calls groups)
    (call : CallRecord) : Grouped (calls ++ [call]) (CallGroup.insertCall call groups) := by
  refine ⟨?_, ?_, ?_⟩
  · rw [keys_insertCall]
    split
    next => exact grouped.nodup
    next absent =>
      refine List.nodup_append.mpr ⟨grouped.nodup, by simp, fun key member other single => ?_⟩
      rintro rfl
      exact absent (List.mem_singleton.mp single ▸ member)
  · intro key
    rw [keys_insertCall]
    simp only [List.mem_append, or_and_right, exists_or, ← grouped.mem_keys, List.mem_singleton, exists_eq_left]
    split
    next present => exact ⟨.inl, fun either => either.elim id fun same => same ▸ present⟩
    next => rw [List.mem_append, List.mem_singleton, eq_comm]
  · intro group member
    rw [gathered_append]
    rcases mem_insertCall grouped.nodup member with ⟨within, other⟩ | ⟨before, within, own, rfl⟩ | ⟨absent, rfl⟩
    · rw [if_neg (Ne.symm other)]
      exact grouped.complete group within
    · rw [key_addCall, if_pos own.symm, ← grouped.complete before within]
    · have none : calls.filter (·.key = call.key) = [] := by
        rw [List.filter_eq_nil_iff]
        intro other listed same
        exact absent ((grouped.mem_keys call.key).mpr ⟨other, listed, of_decide_eq_true same⟩)
      have key : (empty call.key).key = call.key := rfl
      rw [key_addCall, key, if_pos rfl, gathered, none, List.foldl_nil]

theorem grouped_ofCalls (calls : List CallRecord) : Grouped calls (ofCalls calls) := by
  have general (front back : List CallRecord) (groups : List CallGroup) (grouped : Grouped front groups) :
      Grouped (front ++ back) (back.foldl (fun groups call => CallGroup.insertCall call groups) groups) := by
    induction back generalizing front groups with
    | nil => rwa [List.append_nil]
    | cons call rest ih =>
      have further := ih _ _ (grouped.insertCall call)
      rwa [List.append_assoc] at further
  exact general [] calls [] ⟨List.nodup_nil, by simp, nofun⟩

end CallGroup

namespace Report

theorem count_foldl_add (calls : List CallRecord) (totals : CallTotals) :
    (calls.foldl CallTotals.add totals).count = totals.count + calls.length :=
  foldl_counts CallTotals.count (fun _ _ => rfl) calls totals

theorem getD_totalsByCall (report : Report) (key : CallKey) :
    (report.totalsByCall.get? key).getD .none = (report.calls.filter (·.key = key)).foldl CallTotals.add .none := by
  have general (calls : List CallRecord) (totals : SortedMap CallKey CallTotals) :
      ((calls.foldl (fun totals call => totals.update call.key fun group => (group.getD .none).add call) totals).get?
          key).getD .none =
        (calls.filter (·.key = key)).foldl CallTotals.add ((totals.get? key).getD .none) := by
    induction calls generalizing totals with
    | nil => rfl
    | cons call rest ih =>
      rw [List.foldl_cons, ih, SortedMap.update, SortedMap.get?_insert]
      by_cases here : call.key = key
      · simp [here]
      · simp [here, Ne.symm here]
  exact general report.calls .empty

theorem count_totalsByCall (report : Report) (key : CallKey) :
    ((report.totalsByCall.get? key).getD .none).count = report.calls.countP (·.key = key) := by
  rw [getD_totalsByCall, count_foldl_add, List.countP_eq_length_filter]
  exact Nat.zero_add _

theorem mem_callKeys_iff {baseline comparison : Report} {key : CallKey} :
    key ∈ baseline.callKeys comparison ↔ ∃ call ∈ baseline.calls ++ comparison.calls, call.key = key := by
  have listed : ((baseline.calls ++ comparison.calls).map fun call => (call.key, ())) =
      ((baseline.calls ++ comparison.calls).map CallRecord.key).map fun key => (key, ()) := by
    rw [List.map_map]
    rfl
  rw [callKeys, listed, SortedMap.ofList, SortedMap.mem_keys_iff, SortedMap.get?_insertAll_map]
  simp only [SortedMap.get?_empty, List.mem_map]
  split
  next present => simpa using present
  next absent => simpa using absent

/-- Name, device and number of calls of each row of the table of groups, in the order of the table. -/
def rowCounts (report : Report) : List (String × Device × Nat) :=
  report.groups.map fun group => (group.key.name, group.key.device, group.count)

/-- The same of each part of a difference, with the number of calls in the baseline. -/
def baselineCounts (baseline comparison : Report) : List (String × Device × Nat) :=
  (baseline.diff comparison).calls.map fun part => (part.key.name, part.key.device, part.baseline.count)

theorem perm_groups (report : Report) : report.groups.Perm (CallGroup.ofCalls report.calls) :=
  Decimal.perm_sortDescending _ _

theorem perm_keys (report : Report) :
    ((CallGroup.ofCalls report.calls).map (·.key)).Perm (report.callKeys .empty) := by
  have grouped := CallGroup.grouped_ofCalls report.calls
  have nodup : (report.callKeys .empty).Nodup := SortedMap.nodup_keys _
  refine (List.perm_ext_iff_of_nodup grouped.nodup nodup).mpr fun key => ?_
  rw [grouped.mem_keys, mem_callKeys_iff]
  simp [empty]

def countOf (report : Report) (key : CallKey) : String × Device × Nat :=
  (key.name, key.device, report.calls.countP (·.key = key))

theorem rowCounts_perm (report : Report) :
    report.rowCounts.Perm (((CallGroup.ofCalls report.calls).map (·.key)).map report.countOf) := by
  refine ((perm_groups report).map _).trans (.of_eq ?_)
  rw [List.map_map]
  refine List.map_congr_left fun group member => ?_
  have complete := (CallGroup.grouped_ofCalls report.calls).complete group member
  rw [Function.comp_apply, countOf, ← CallGroup.count_gathered, ← complete]

theorem baselineCounts_perm (report comparison : Report) :
    (report.baselineCounts comparison).Perm ((report.callKeys comparison).map report.countOf) := by
  refine ((Decimal.perm_sortDescending _ _).map _).trans (.of_eq ?_)
  rw [List.map_map]
  refine List.map_congr_left fun key _ => ?_
  rw [Function.comp_apply, countOf, ← count_totalsByCall]
  rfl

theorem rowCounts_perm_baselineCounts (report : Report) : report.rowCounts.Perm (report.baselineCounts .empty) :=
  (rowCounts_perm report).trans (((perm_keys report).map _).trans (baselineCounts_perm report .empty).symm)

def rowsOn (report : Report) (device : Device) : List CallGroup :=
  report.groups.filter (·.key.device = device)

section RowsOn

variable (report : Report) (device : Device)

theorem mem_rowsOn {row : CallGroup} (member : row ∈ report.rowsOn device) :
    row.key.device = device ∧ row = .gathered report.calls row.key := by
  obtain ⟨listed, here⟩ := List.mem_filter.mp member
  exact ⟨of_decide_eq_true here,
    (CallGroup.grouped_ofCalls report.calls).complete row ((perm_groups report).mem_iff.mp listed)⟩

theorem sum_rowsOn (number : CallRecord → Nat) :
    ((report.rowsOn device).map fun row => ((report.calls.filter (·.key = row.key)).map number).sum).sum =
      ((report.calls.filter (·.device = device)).map number).sum := by
  have grouped := CallGroup.grouped_ofCalls report.calls
  let total (key : CallKey) : Nat := ((report.calls.filter (·.key = key)).map number).sum
  let keys := ((CallGroup.ofCalls report.calls).map (·.key)).filter (·.device = device)
  have unsorted : ((report.rowsOn device).map fun row => total row.key).sum = (keys.map total).sum := by
    rw [rowsOn, (((perm_groups report).filter _).map _).sum_eq]
    simp only [keys, List.filter_map, List.map_map]
    rfl
  have onDevice : ∀ call ∈ report.calls, decide (call.key ∈ keys) = decide (call.device = device) := by
    intro call member
    have listed := (grouped.mem_keys call.key).mpr ⟨call, member, rfl⟩
    simp only [keys, List.mem_filter, listed, true_and, decide_eq_true_eq]
    rfl
  calc ((report.rowsOn device).map fun row => total row.key).sum
    _ = (keys.map total).sum := unsorted
    _ = ((report.calls.filter (·.key ∈ keys)).map number).sum := sum_groups (grouped.nodup.filter _) _ _ _
    _ = ((report.calls.filter (·.device = device)).map number).sum := by rw [List.filter_congr onDevice]

theorem sum_count_rowsOn :
    ((report.rowsOn device).map (·.count)).sum = report.calls.countP (·.device = device) := by
  have counts : ∀ row ∈ report.rowsOn device,
      row.count = ((report.calls.filter (·.key = row.key)).map fun _ => 1).sum := by
    intro row member
    rw [(mem_rowsOn report device member).2, CallGroup.count_gathered, CallGroup.key_gathered]
    simp [List.countP_eq_length_filter]
  rw [List.map_congr_left counts, sum_rowsOn]
  simp [List.countP_eq_length_filter]

def rowValues (name : String) : List Metric :=
  (report.rowsOn device).filterMap (·.metrics.get? name)

end RowsOn

theorem get?_of_mem_rowsOn {report : Report} {device : Device} {row : CallGroup} (member : row ∈ report.rowsOn device)
    (name : String) :
    row.metrics.get? name =
      ((report.calls.filter (·.key = row.key)).flatMap (·.given name)).foldl Metric.absorb none := by
  have known := congrArg (·.metrics.get? name) (mem_rowsOn report device member).2
  exact known.trans (CallGroup.get?_gathered _ _ name)

section DeviceTotal

variable {calls : List CallRecord} {device : Device} {name : String} {variant : Metric.Variant}
  (other : name ≠ callsName) (counts : variant = .count ∨ variant = .bytes)
  (alike : ∀ sample ∈ samples calls device name, sample.variant = variant)
include other

theorem samples_eq_flatMap : samples calls device name = (calls.filter (·.device = device)).flatMap (·.given name) := by
  rw [samples]
  exact List.flatMap_congr fun call _ => call.samples_eq_given other

include alike

theorem variant_of_row {row : CallGroup} (member : row ∈ (ofCalls calls).rowsOn device) :
    ∀ sample ∈ (calls.filter (·.key = row.key)).flatMap (·.given name), sample.variant = variant := by
  intro sample given
  obtain ⟨call, listed, given⟩ := List.mem_flatMap.mp given
  obtain ⟨listed, own⟩ := List.mem_filter.mp listed
  have here : call.device = device := by
    rw [← (mem_rowsOn _ device member).1, ← of_decide_eq_true own]
    rfl
  refine alike sample ?_
  rw [samples_eq_flatMap other]
  exact List.mem_flatMap.mpr ⟨call, List.mem_filter.mpr ⟨listed, decide_eq_true here⟩, given⟩

include counts

theorem variant_of_rowValues : ∀ value ∈ (ofCalls calls).rowValues device name, value.variant = variant := by
  intro value member
  obtain ⟨row, listed, found⟩ := List.mem_filterMap.mp member
  have samples := variant_of_row other alike listed
  rw [get?_of_mem_rowsOn listed] at found
  by_cases nothing : (calls.filter (·.key = row.key)).flatMap (·.given name) = []
  · rw [ofCalls, nothing] at found
    cases found
  · obtain ⟨total, reached, own, -⟩ := Metric.total_of_alike counts samples nothing
    cases reached.symm.trans found
    exact own

theorem exactSum_rowValues :
    min (Metric.exactSum ((ofCalls calls).rowValues device name)) Count.limit =
      min (Metric.exactSum (samples calls device name)) Count.limit := by
  let number (call : CallRecord) : Nat := Metric.exactSum (call.given name)
  let full (row : CallGroup) : Nat := ((calls.filter (·.key = row.key)).map number).sum
  have cutOff : ∀ row ∈ (ofCalls calls).rowsOn device,
      Metric.exactSum (row.metrics.get? name).toList = min (full row) Count.limit := by
    intro row member
    rw [get?_of_mem_rowsOn member, ofCalls, Metric.exactSum_total counts (variant_of_row other alike member),
      Metric.exactSum_flatMap]
  have whole : (((ofCalls calls).rowsOn device).map full).sum = Metric.exactSum (samples calls device name) := by
    rw [samples_eq_flatMap other, Metric.exactSum_flatMap]
    exact sum_rowsOn (ofCalls calls) device number
  have cutOnce := min_sum_min (((ofCalls calls).rowsOn device).map full) Count.limit
  rw [List.map_map] at cutOnce
  -- The rows have cut off sums, but cutting off the sum of those gives what the full ones give.
  rw [rowValues, Metric.exactSum_filterMap, List.map_congr_left cutOff, ← whole]
  exact cutOnce

end DeviceTotal

theorem groupTable_cells (report : Report) :
    (report.groupTable report.groups).rows.map (·.take 3) =
      report.rowCounts.map fun row => [row.1, row.2.1.text, Decimal.natural row.2.2] := by
  rw [groupTable, rowCounts, List.map_map, List.map_map]
  rfl

/--
The rows of the table of groups, the parts of a difference from nothing and the totals of the devices come from the
same groups: rows and parts have the same names, devices and numbers of calls, in which each call counts once, and
a total of counts or of bytes is the sum of the rows of its device, cut off at the largest count.
-/
theorem group_bys_agree (calls : List CallRecord) :
    (ofCalls calls).rowCounts.Perm ((ofCalls calls).baselineCounts .empty) ∧
      (((ofCalls calls).groupTable (ofCalls calls).groups).rows.map (·.take 3)).Perm
        (((ofCalls calls).baselineCounts .empty).map fun part => [part.1, part.2.1.text, Decimal.natural part.2.2]) ∧
      (∀ device, (((ofCalls calls).rowsOn device).map (·.count)).sum = calls.countP (·.device = device)) ∧
      ∀ device name variant, name ≠ callsName → (variant = .count ∨ variant = .bytes) →
        samples calls device name ≠ [] → (∀ sample ∈ samples calls device name, sample.variant = variant) →
        (∀ value ∈ (ofCalls calls).rowValues device name, value.variant = variant) ∧
          ∃ total, (ofCalls calls).deviceMetric? device name = some total ∧ total.variant = variant ∧
            total.number? = some (min (Metric.exactSum ((ofCalls calls).rowValues device name)) Count.limit) := by
  refine ⟨rowCounts_perm_baselineCounts _, ?_, sum_count_rowsOn _, ?_⟩
  · rw [groupTable_cells]
    exact (rowCounts_perm_baselineCounts _).map _
  · intro device name variant other counts some alike
    obtain ⟨total, reached, own, numbered⟩ := Metric.total_of_alike counts alike some
    refine ⟨variant_of_rowValues other counts alike, total, ?_, own, ?_⟩
    · exact (DeviceTotals.total?_ofCalls calls device name).trans reached
    · rw [exactSum_rowValues other counts alike, numbered]

def saturatedRows : List CallRecord :=
  let call (name : String) (hits : Count) : CallRecord := ⟨name, .cpu 0, 1, .ofList [("hits", .count hits)]⟩
  [call "load" (.ofNat Count.limit), call "store" 7, call "load" 5]

theorem saturated_rows_agree :
    samples saturatedRows (.cpu 0) "hits" = [.count (.ofNat Count.limit), .count 7, .count 5] ∧
      ∃ total, (ofCalls saturatedRows).deviceMetric? (.cpu 0) "hits" = some total ∧ total.variant = .count ∧
        total.number? =
          some (min (Metric.exactSum ((ofCalls saturatedRows).rowValues (.cpu 0) "hits")) Count.limit) := by
  have listed : samples saturatedRows (.cpu 0) "hits" = [.count (.ofNat Count.limit), .count 7, .count 5] := by
    decide +kernel
  refine ⟨listed, ((group_bys_agree saturatedRows).2.2.2 (.cpu 0) "hits" .count (by decide) (.inl rfl) ?_ ?_).2⟩
  · rw [listed]
    exact List.cons_ne_nil _ _
  · rw [listed]
    decide

end Report

end CallProfile
