import CallProfile.Proofs.Report.Merge

namespace CallProfile

namespace Metric

/-- Adds a sample to a total, or begins it; a sample that has no sum with the total is skipped. -/
def absorb (total : Option Metric) (sample : Metric) : Option Metric :=
  match total with
  | none => some sample
  | some total => some ((total.combine sample).getD total)

/-- The samples that count: the first and those of its variant. -/
def counted : List Metric → List Metric
  | [] => []
  | first :: rest => first :: rest.filter (·.variant = first.variant)

theorem absorb_cases {total : Metric} (additive : total.isAdditive) (sample : Metric) :
    (∃ sum, sample.variant = total.variant ∧ total.combine sample = some sum ∧ absorb (some total) sample = some sum ∧
        sum.variant = total.variant) ∨
      (sample.variant ≠ total.variant ∧ absorb (some total) sample = some total) := by
  by_cases same : sample.variant = total.variant
  · obtain ⟨sum, added⟩ := Option.isSome_iff_exists.mp ((combine_isSome_iff total sample).mpr ⟨same.symm, additive⟩)
    exact .inl ⟨sum, same, added, by rw [absorb, added]; rfl, variant_of_combine added⟩
  · have refused : total.combine sample = none :=
      (combine_eq_none_iff total sample).mpr fun both => same both.1.symm
    exact .inr ⟨same, by rw [absorb, refused]; rfl⟩

theorem grouping_absorb {front : List Metric} {total : Metric} (grouping : Grouping front total)
    (additive : total.isAdditive) (samples : List Metric) :
    ∃ grown, samples.foldl absorb (some total) = some grown ∧ grown.variant = total.variant ∧
      Grouping (front ++ samples.filter (·.variant = total.variant)) grown := by
  induction samples generalizing front total with
  | nil => exact ⟨total, rfl, rfl, by simpa using grouping⟩
  | cons sample rest ih =>
    rw [List.foldl_cons]
    rcases absorb_cases additive sample with ⟨sum, same, added, absorbed, kept⟩ | ⟨other, absorbed⟩
    · obtain ⟨grown, reached, variant, all⟩ :=
        ih (.pair grouping (.single sample) added) (by rw [isAdditive, kept]; exact additive)
      rw [kept, List.append_assoc] at all
      rw [absorbed, List.filter_cons_of_pos (by simpa using same)]
      exact ⟨grown, reached, variant.trans kept, all⟩
    · rw [absorbed, List.filter_cons_of_neg (by simpa using other)]
      exact ih grouping additive

theorem grouping_counted {first : Metric} (additive : first.isAdditive) (rest : List Metric) :
    ∃ total, (first :: rest).foldl absorb none = some total ∧ total.variant = first.variant ∧
      Grouping (counted (first :: rest)) total :=
  grouping_absorb (.single first) additive rest

theorem counted_append {first other : Metric} (same : other.variant = first.variant) (rest others : List Metric) :
    counted (first :: rest ++ other :: others) = counted (first :: rest) ++ counted (other :: others) := by
  simp [counted, same]

end Metric

theorem MetricMap.get?_accumulateOrSkip (totals : MetricMap) (name other : String) (value : Metric) :
    (totals.accumulateOrSkip name value).get? other =
      if other = name then Metric.absorb (totals.get? name) value else totals.get? other := by
  rw [accumulateOrSkip, accumulate]
  cases found : totals.get? name with
  | none => exact SortedMap.get?_insert totals name other value
  | some total =>
    cases added : total.combine value with
    | none =>
      simp only [Metric.combineUnder, Metric.absorb, added, Except.map, Option.getD_none]
      by_cases same : other = name
      · rw [if_pos same, same, found]
      · rw [if_neg same]
    | some sum =>
      simp only [Metric.combineUnder, Metric.absorb, added, Except.map, Option.getD_some]
      exact SortedMap.get?_insert totals name other sum

theorem MetricMap.get?_foldl_accumulateOrSkip (totals : MetricMap) {entries : List (String × Metric)}
    (ascending : entries.Pairwise (fun before after => compare before.1 after.1 = .lt)) (name : String) :
    (entries.foldl (fun totals entry => accumulateOrSkip totals entry.1 entry.2) totals).get? name =
      (SortedMap.find name entries).toList.foldl Metric.absorb (totals.get? name) := by
  induction entries generalizing totals with
  | nil => rfl
  | cons first rest ih =>
    obtain ⟨below, tail⟩ := List.pairwise_cons.mp ascending
    rw [List.foldl_cons, ih _ tail, get?_accumulateOrSkip, SortedMap.find]
    by_cases here : name = first.1
    · subst here
      have later : SortedMap.find first.1 rest = none :=
        SortedMap.find_eq_none fun entry member => by simp [below entry member]
      rw [later, if_pos rfl, if_pos Std.ReflCmp.compare_self]
      rfl
    · have apart : ¬ compare name first.1 = .eq := fun same => here (Std.LawfulEqCmp.eq_of_compare same)
      rw [if_neg here, if_neg apart]

theorem SortedMap.find_filter {κ α : Type} [Ord κ] [Std.LawfulEqOrd κ] {entries : List (κ × α)}
    (ascending : entries.Pairwise (fun before after => compare before.1 after.1 = .lt)) (condition : α → Bool)
    (key : κ) : find key (entries.filter fun entry => condition entry.2) = (find key entries).filter condition := by
  apply Option.ext
  intro value
  rw [find_eq_some_iff (ascending.filter _), List.mem_filter, Option.filter_eq_some_iff, find_eq_some_iff ascending]

/-- What a call adds to the total of a name on its device. -/
def CallRecord.samples (call : CallRecord) (name : String) : List Metric :=
  (if name = callsName then [.count 1] else []) ++ ((call.metric? name).filter Metric.isAdditive).toList

def samples (calls : List CallRecord) (device : Device) (name : String) : List Metric :=
  (calls.filter (·.device = device)).flatMap (·.samples name)

def countedSamples (calls : List CallRecord) (device : Device) (name : String) : List Metric :=
  Metric.counted (samples calls device name)

theorem countedSamples_eq_nil_iff (calls : List CallRecord) (device : Device) (name : String) :
    countedSamples calls device name = [] ↔ samples calls device name = [] := by
  rw [countedSamples]
  cases samples calls device name <;> simp [Metric.counted]

theorem samples_append (first second : List CallRecord) (device : Device) (name : String) :
    samples (first ++ second) device name = samples first device name ++ samples second device name := by
  rw [samples, List.filter_append, List.flatMap_append, samples, samples]

theorem isAdditive_of_mem_samples {calls : List CallRecord} {device : Device} {name : String} {sample : Metric}
    (member : sample ∈ samples calls device name) : sample.isAdditive := by
  obtain ⟨call, -, member⟩ := List.mem_flatMap.mp member
  rw [CallRecord.samples] at member
  rcases List.mem_append.mp member with member | member
  · split at member
    · rw [List.mem_singleton.mp member]
      rfl
    · cases member
  · exact (Option.filter_eq_some_iff.mp (Option.mem_toList.mp member)).2

theorem head?_samples_callsName {calls : List CallRecord} {device : Device} {sample : Metric}
    (first : sample ∈ (samples calls device callsName).head?) : sample = .count 1 := by
  rw [samples] at first
  cases listed : calls.filter (·.device = device) with
  | nil =>
    rw [listed] at first
    cases first
  | cons call others =>
    rw [listed, List.flatMap_cons, CallRecord.samples, if_pos rfl] at first
    exact (Option.some.inj first).symm

namespace DeviceTotals

theorem total?_addCall (totals : DeviceTotals) (call : CallRecord) (device : Device) (name : String) :
    (totals.addCall call).total? device name =
      if call.device = device then (call.samples name).foldl Metric.absorb (totals.total? device name)
      else totals.total? device name := by
  rw [addCall, SortedMap.update, total?, SortedMap.get?_insert]
  by_cases here : call.device = device
  · subst here
    rw [if_pos rfl, if_pos rfl, Option.bind_some,
      MetricMap.get?_foldl_accumulateOrSkip _ (call.metrics.ascending.filter _),
      SortedMap.find_filter call.metrics.ascending, MetricMap.get?_accumulateOrSkip, ← total?_eq_getD, ← total?_eq_getD,
      CallRecord.samples, List.foldl_append]
    by_cases calls : name = callsName
    · rw [if_pos calls, if_pos calls, ← calls]
      rfl
    · rw [if_neg calls, if_neg calls]
      rfl
  · rw [if_neg (Ne.symm here), if_neg here, total?]

theorem contains_addCall (totals : DeviceTotals) (call : CallRecord) (device : Device) :
    (totals.addCall call).contains device ↔ call.device = device ∨ totals.contains device := by
  rw [addCall, SortedMap.update, SortedMap.contains_iff_mem_keys, SortedMap.contains_iff_mem_keys,
    SortedMap.mem_keys_insert, eq_comm]

theorem total?_ofCalls (calls : List CallRecord) (device : Device) (name : String) :
    (ofCalls calls).total? device name = (samples calls device name).foldl Metric.absorb none := by
  have general (totals : DeviceTotals) : (calls.foldl addCall totals).total? device name =
      (samples calls device name).foldl Metric.absorb (totals.total? device name) := by
    induction calls generalizing totals with
    | nil => rfl
    | cons call rest ih =>
      rw [List.foldl_cons, ih, total?_addCall]
      by_cases here : call.device = device
      · simp [samples, here]
      · simp [samples, here]
  exact general .empty

theorem contains_ofCalls (calls : List CallRecord) (device : Device) :
    (ofCalls calls).contains device ↔ ∃ call ∈ calls, call.device = device := by
  have general (totals : DeviceTotals) : (calls.foldl addCall totals).contains device ↔
      (∃ call ∈ calls, call.device = device) ∨ totals.contains device := by
    induction calls generalizing totals with
    | nil => simp
    | cons call rest ih =>
      rw [List.foldl_cons, ih, contains_addCall]
      simp only [List.mem_cons, exists_eq_or_imp, or_assoc, or_left_comm]
  rw [ofCalls, general]
  simp [SortedMap.contains]

/-- The total of a name on a device is that of the samples that count. -/
theorem grouping_ofCalls {calls : List CallRecord} {device : Device} {name : String} {total : Metric}
    (found : (ofCalls calls).total? device name = some total) :
    ∃ first rest, samples calls device name = first :: rest ∧ total.variant = first.variant ∧ total.isAdditive ∧
      Metric.Grouping (Metric.counted (first :: rest)) total := by
  rw [total?_ofCalls] at found
  cases listed : samples calls device name with
  | nil =>
    rw [listed] at found
    cases found
  | cons first rest =>
    have additive : first.isAdditive := isAdditive_of_mem_samples (by rw [listed]; exact List.mem_cons_self)
    obtain ⟨known, reached, variant, grouping⟩ := Metric.grouping_counted additive rest
    rw [listed, reached] at found
    cases found
    exact ⟨first, rest, rfl, variant, by rw [Metric.isAdditive, variant]; exact additive, grouping⟩

theorem total?_ofCalls_eq_none_iff (calls : List CallRecord) (device : Device) (name : String) :
    (ofCalls calls).total? device name = none ↔ samples calls device name = [] := by
  constructor
  · intro absent
    cases listed : samples calls device name with
    | nil => rfl
    | cons first rest =>
      have additive : first.isAdditive := isAdditive_of_mem_samples (by rw [listed]; exact List.mem_cons_self)
      obtain ⟨total, reached, -⟩ := Metric.grouping_counted additive rest
      rw [total?_ofCalls, listed, reached] at absent
      cases absent
  · intro nothing
    rw [total?_ofCalls, nothing]
    rfl

theorem variant_ofCalls {calls : List CallRecord} {device : Device} {name : String}
    {variant : Metric.Variant} (alike : ∀ sample ∈ (samples calls device name).head?, sample.variant = variant)
    {total : Metric} (found : (ofCalls calls).total? device name = some total) :
    total.variant = variant ∧ total.isAdditive := by
  obtain ⟨first, rest, listed, same, additive, -⟩ := grouping_ofCalls found
  rw [listed] at alike
  exact ⟨same.trans (alike first rfl), additive⟩

end DeviceTotals

namespace Report

open DeviceTotals

theorem combine_isSome_of_ofCalls {calls : List CallRecord} {device : Device} {name : String} {left : Metric}
    (found : (ofCalls calls).deviceMetric? device name = some left) (right : Metric) :
    (left.combine right).isSome ↔ left.variant = right.variant := by
  obtain ⟨-, -, -, -, additive, -⟩ := grouping_ofCalls found
  rw [Metric.combine_isSome_iff]
  simp [additive]

theorem grouping_of_joined {first second : List CallRecord} {device : Device} {name : String} {total : Metric}
    (joined : Metric.Joined ((ofCalls first).deviceMetric? device name) ((ofCalls second).deviceMetric? device name)
      (some total)) :
    Metric.Grouping (countedSamples (first ++ second) device name) total := by
  rw [countedSamples, samples_append]
  generalize before : (ofCalls first).deviceMetric? device name = front at joined
  generalize after : (ofCalls second).deviceMetric? device name = back at joined
  cases joined with
  | first =>
    obtain ⟨sample, rest, listed, -, -, grouping⟩ := grouping_ofCalls before
    rw [(total?_ofCalls_eq_none_iff second device name).mp after, List.append_nil, listed]
    exact grouping
  | second =>
    obtain ⟨sample, rest, listed, -, -, grouping⟩ := grouping_ofCalls after
    rw [(total?_ofCalls_eq_none_iff first device name).mp before, List.nil_append, listed]
    exact grouping
  | sum added =>
    obtain ⟨sample, rest, listed, variant, -, grouping⟩ := grouping_ofCalls before
    obtain ⟨sample', rest', listed', variant', -, grouping'⟩ := grouping_ofCalls after
    have alike := ((Metric.combine_isSome_iff _ _).mp (Option.isSome_of_eq_some added)).1
    have same : sample'.variant = sample.variant := variant'.symm.trans (alike.symm.trans variant)
    rw [listed, listed', Metric.counted_append same]
    exact .pair grouping grouping' added

theorem exists_clash_iff (first second : List CallRecord) :
    (∃ clash, (ofCalls first).merge (ofCalls second) = .error clash) ↔
      ∃ device name left right, (ofCalls first).deviceMetric? device name = some left ∧
        (ofCalls second).deviceMetric? device name = some right ∧ left.variant ≠ right.variant := by
  have succeeds := exists_merge_iff (ofCalls first) (ofCalls second)
  constructor
  · rintro ⟨clash, failed⟩
    have unmerged : ¬ ∃ merged, (ofCalls first).merge (ofCalls second) = .ok merged := by
      rintro ⟨merged, done⟩
      rw [failed] at done
      cases done
    rw [succeeds] at unmerged
    refine Classical.byContradiction fun none => unmerged fun device name left right found found' => ?_
    rw [combine_isSome_of_ofCalls found]
    exact Decidable.byContradiction fun apart => none ⟨device, name, left, right, found, found', apart⟩
  · rintro ⟨device, name, left, right, found, found', apart⟩
    cases done : (ofCalls first).merge (ofCalls second) with
    | error clash => exact ⟨clash, rfl⟩
    | ok merged =>
      have added := succeeds.mp ⟨merged, done⟩ device name left right found found'
      exact absurd ((combine_isSome_of_ofCalls found right).mp added) apart

section Merged

variable {first second : List CallRecord} {merged : Report}
  (done : (ofCalls first).merge (ofCalls second) = .ok merged)
include done

theorem joined_of_ofCalls (device : Device) (name : String) :
    Metric.Joined ((ofCalls first).deviceMetric? device name) ((ofCalls second).deviceMetric? device name)
      (merged.deviceMetric? device name) :=
  DeviceTotals.joined_of_merge (merge_eq_ok.mp done).2 device name

theorem deviceMetric?_eq_none_iff_of_merge (device : Device) (name : String) :
    merged.deviceMetric? device name = none ↔ (ofCalls (first ++ second)).deviceMetric? device name = none := by
  have join := joined_of_ofCalls done device name
  have absent := total?_ofCalls_eq_none_iff (first ++ second) device name
  rw [samples_append, List.append_eq_nil_iff, ← total?_ofCalls_eq_none_iff, ← total?_ofCalls_eq_none_iff] at absent
  simp only [deviceMetric?_eq_total?, ofCalls] at join absent ⊢
  rw [absent]
  generalize (DeviceTotals.ofCalls first).total? device name = front at join ⊢
  generalize (DeviceTotals.ofCalls second).total? device name = back at join ⊢
  generalize merged.deviceMetrics.total? device name = total at join ⊢
  cases join <;> simp

theorem upToRounding_of_merge :
    UpToRounding (countedSamples (first ++ second)) merged (ofCalls (first ++ second)) := by
  obtain ⟨calls, totals⟩ := merge_eq_ok.mp done
  have absent := deviceMetric?_eq_none_iff_of_merge done
  refine ⟨calls, ?_, ?_, ?_, ?_⟩
  · intro device
    rw [DeviceTotals.contains_of_merge totals]
    simp only [ofCalls, contains_ofCalls, List.mem_append, or_and_right, exists_or]
  · intro device name
    rw [Option.isSome_iff_ne_none, Option.isSome_iff_ne_none, Ne, Ne, absent]
  · intro device name
    rw [absent, countedSamples_eq_nil_iff]
    exact total?_ofCalls_eq_none_iff (first ++ second) device name
  · intro device name total total' found found'
    have join := joined_of_ofCalls done device name
    rw [found] at join
    obtain ⟨sample, rest, listed, -, -, grouping⟩ := grouping_ofCalls found'
    have grouping' := grouping_of_joined join
    rw [← listed] at grouping
    exact grouping'.regrouped grouping

end Merged

/--
Two runs whose totals were taken apart: merging them fails exactly if some total has changed its variant from one
to the other, and gives the totals of one run with the calls of both but for the rounding of floats.
-/
theorem merge_agrees_with_one_run (first second : List CallRecord) :
    ((∃ clash, (ofCalls first).merge (ofCalls second) = .error clash) ↔
        ∃ device name left right, (ofCalls first).deviceMetric? device name = some left ∧
          (ofCalls second).deviceMetric? device name = some right ∧ left.variant ≠ right.variant) ∧
      ∀ merged, (ofCalls first).merge (ofCalls second) = .ok merged →
        UpToRounding (countedSamples (first ++ second)) merged (ofCalls (first ++ second)) := by
  constructor
  · exact exists_clash_iff first second
  · intro merged done
    exact upToRounding_of_merge done

end Report

end CallProfile
