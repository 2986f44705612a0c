import CallProfile.Proofs.Failure
import CallProfile.Proofs.Report.Merge

namespace CallProfile

namespace MetricClash

/-- Both values are there, are not of one variant that has sums, and are of the variants that the clash tells. -/
def Between (clash : MetricClash) (left right : Option Metric) : Prop :=
  ∃ first second, left = some first ∧ right = some second ∧ first.variant = clash.left ∧ second.variant = clash.right ∧
    ¬ ∃ variant : Metric.Variant, variant.isAdditive ∧ first.variant = variant ∧ second.variant = variant

def exchanged (clash : MetricClash) : MetricClash := ⟨clash.name, clash.right, clash.left⟩

theorem Between.exchanged {clash : MetricClash} {left right : Option Metric} (between : clash.Between left right) :
    clash.exchanged.Between right left := by
  obtain ⟨first, second, here, there, firstVariant, secondVariant, apart⟩ := between
  refine ⟨second, first, there, here, secondVariant, firstVariant, ?_⟩
  rintro ⟨variant, additive, same, same'⟩
  exact apart ⟨variant, additive, same', same⟩

end MetricClash

namespace Metric

theorem combine_eq_none_iff_apart (left right : Metric) : left.combine right = none ↔
    ¬ ∃ variant : Variant, variant.isAdditive ∧ left.variant = variant ∧ right.variant = variant := by
  rw [combine_eq_none_iff]
  refine not_congr ⟨?_, ?_⟩
  · rintro ⟨same, additive⟩
    exact ⟨left.variant, additive, rfl, same.symm⟩
  · rintro ⟨variant, additive, here, there⟩
    exact ⟨here.trans there.symm, by rw [isAdditive, here]; exact additive⟩

theorem joinUnder_eq_error_iff {name : String} {total : Option Metric} {value : Metric} {clash : MetricClash} :
    joinUnder name total value = .error clash ↔ clash.name = name ∧ clash.Between total (some value) := by
  obtain ⟨under, left, right⟩ := clash
  cases total with
  | none => simp [joinUnder, MetricClash.Between]
  | some total =>
    have refused := combine_eq_none_iff_apart total value
    simp only [joinUnder, combineUnder, MetricClash.Between, Option.some.injEq, exists_and_left, exists_eq_left',
      ← refused]
    cases total.combine value with
    | some sum => simp
    | none => simp [eq_comm]

end Metric

namespace MetricMap

/-- The values that the two maps hold under the name of the clash have no sum. -/
def ClashUnder (totals values : MetricMap) (clash : MetricClash) : Prop :=
  clash.Between (totals.get? clash.name) (values.get? clash.name)

theorem exists_merge_iff_no_clash (totals values : MetricMap) :
    (∃ merged, MetricMap.merge totals values = .ok merged) ↔ ∀ clash, ¬ ClashUnder totals values clash := by
  rw [exists_merge_iff]
  constructor
  · rintro all clash ⟨left, right, here, there, -, -, apart⟩
    have added := all clash.name left right here there
    rw [(Metric.combine_eq_none_iff_apart left right).mpr apart] at added
    cases added
  · intro none name left right here there
    rw [Option.isSome_iff_ne_none, Ne, Metric.combine_eq_none_iff_apart]
    exact fun apart => none ⟨name, left.variant, right.variant⟩ ⟨left, right, here, there, rfl, rfl, apart⟩

theorem merge_eq_error_iff {totals values : MetricMap} {clash : MetricClash} :
    MetricMap.merge totals values = .error clash ↔
      ClashUnder totals values clash ∧
        ∀ other, compare other.name clash.name = .lt → ¬ ClashUnder totals values other := by
  rw [merge_eq_foldIn, SortedMap.foldIn_eq_error_iff]
  simp only [Metric.joinUnder_eq_error_iff]
  constructor
  · rintro ⟨name, value, found, ⟨rfl, between⟩, earlier⟩
    refine ⟨by rwa [ClashUnder, found], fun other less clashes => ?_⟩
    have refused := clashes
    obtain ⟨-, second, -, there, -⟩ := clashes
    obtain ⟨joined, join⟩ := earlier other.name less second there
    rw [ClashUnder, there] at refused
    cases join.symm.trans (Metric.joinUnder_eq_error_iff.mpr ⟨rfl, refused⟩)
  · rintro ⟨clashes, earlier⟩
    have between := clashes
    obtain ⟨-, value, -, there, -⟩ := clashes
    rw [ClashUnder, there] at between
    refine ⟨clash.name, value, there, ⟨rfl, between⟩, fun before less other found => ?_⟩
    cases join : Metric.joinUnder before (totals.get? before) other with
    | ok joined => exact ⟨joined, rfl⟩
    | error refusal =>
      obtain ⟨rfl, between⟩ := Metric.joinUnder_eq_error_iff.mp join
      exact absurd (by rwa [ClashUnder, found]) (earlier refusal less)

end MetricMap

namespace DeviceTotals

def ClashOn (totals others : DeviceTotals) (device : Device) (clash : MetricClash) : Prop :=
  clash.Between (totals.total? device clash.name) (others.total? device clash.name)

/-- No other clash of the two stands before this one in the order of devices, and of names on one device. -/
structure FirstClash (totals others : DeviceTotals) (device : Device) (clash : MetricClash) : Prop where
  clashes : ClashOn totals others device clash
  least : ∀ place other, ClashOn totals others place other →
    ((compare device place).then (compare clash.name other.name)).isLE

theorem FirstClash.exchanged {totals others : DeviceTotals} {device : Device} {clash : MetricClash}
    (first : FirstClash totals others device clash) : FirstClash others totals device clash.exchanged :=
  ⟨first.clashes.exchanged, fun place other clashes => first.least place other.exchanged clashes.exchanged⟩

theorem clashUnder_iff {totals others : DeviceTotals} {device : Device} {values : MetricMap}
    (found : others.get? device = some values) (clash : MetricClash) :
    MetricMap.ClashUnder ((totals.get? device).getD .empty) values clash ↔ ClashOn totals others device clash := by
  rw [MetricMap.ClashUnder, ClashOn, total?_eq_getD totals, total?, found, Option.bind_some]

theorem ClashOn.found {totals others : DeviceTotals} {device : Device} {clash : MetricClash}
    (clashes : ClashOn totals others device clash) : ∃ values, others.get? device = some values := by
  obtain ⟨-, second, -, there, -⟩ := clashes
  obtain ⟨values, found, -⟩ := Option.bind_eq_some_iff.mp there
  exact ⟨values, found⟩

theorem merge_eq_error_iff {totals others : DeviceTotals} {clash : MetricClash} :
    totals.merge others = .error clash ↔ ∃ device, FirstClash totals others device clash := by
  rw [merge_eq_foldIn, SortedMap.foldIn_eq_error_iff]
  simp only [MetricMap.merge_eq_error_iff, MetricMap.exists_merge_iff_no_clash]
  constructor
  · rintro ⟨device, values, found, ⟨clashes, names⟩, devices⟩
    refine ⟨device, (clashUnder_iff found clash).mp clashes, fun place other another => ?_⟩
    cases order : compare device place with
    | lt => rfl
    | gt =>
      obtain ⟨values', found'⟩ := another.found
      have none := devices place (Std.OrientedCmp.gt_iff_lt.mp order) values' found' other
      exact absurd ((clashUnder_iff found' other).mpr another) none
    | eq =>
      cases Std.LawfulEqCmp.eq_of_compare order
      refine Ordering.isLE_iff_ne_gt.mpr fun more => ?_
      have none := names other (Std.OrientedCmp.gt_iff_lt.mp more)
      exact none ((clashUnder_iff found other).mpr another)
  · rintro ⟨device, clashes, least⟩
    obtain ⟨values, found⟩ := clashes.found
    refine ⟨device, values, found, ⟨(clashUnder_iff found clash).mpr clashes, fun other less another => ?_⟩, ?_⟩
    · have order := least device other ((clashUnder_iff found other).mp another)
      have same : compare device device = .eq := Std.ReflCmp.compare_self
      rw [same, Std.OrientedCmp.gt_iff_lt.mpr less] at order
      cases order
    · intro place less values' found' other another
      have order := least place other ((clashUnder_iff found' other).mp another)
      rw [Std.OrientedCmp.gt_iff_lt.mpr less] at order
      cases order

/-- What is done in a merge, one thing after the other. -/
inductive Step where
  | place (device : Device)
  | value (device : Device) (name : String) (value : Metric)

def Step.target? : Step → Option (Device × String)
  | .place _ => none
  | .value device name _ => some (device, name)

/-- The steps by which totals are merged into others. -/
def steps (others : DeviceTotals) : List Step :=
  others.entries.flatMap fun entry =>
    .place entry.1 :: entry.2.entries.map fun total => .value entry.1 total.1 total.2

def apply (totals : DeviceTotals) : Step → Except MetricClash DeviceTotals
  | .place device => .ok (totals.update device (·.getD .empty))
  | .value device name value =>
    (MetricMap.accumulate ((totals.get? device).getD .empty) name value).map (totals.insert device)

theorem apply_value_insert (totals : DeviceTotals) (device : Device) (metrics : MetricMap) (name : String)
    (value : Metric) : apply (totals.insert device metrics) (.value device name value) =
      (MetricMap.accumulate metrics name value).map (totals.insert device) := by
  have again (after : MetricMap) : (totals.insert device metrics).insert device after = totals.insert device after := by
    refine SortedMap.ext_get? fun place => ?_
    simp only [SortedMap.get?_insert]
    split <;> rfl
  rw [apply, SortedMap.get?_insert_self, Option.getD_some]
  cases MetricMap.accumulate metrics name value with
  | error => rfl
  | ok after => exact congrArg Except.ok (again after)

theorem foldlM_apply_values (totals : DeviceTotals) (device : Device) (metrics : MetricMap)
    (values : List (String × Metric)) :
    (values.map fun total => Step.value device total.1 total.2).foldlM apply (totals.insert device metrics) =
      (values.foldlM (fun metrics total => MetricMap.accumulate metrics total.1 total.2) metrics).map
        (totals.insert device) := by
  induction values generalizing metrics with
  | nil => rfl
  | cons first rest ih =>
    rw [List.map_cons, List.foldlM_cons, apply_value_insert, List.foldlM_cons]
    cases MetricMap.accumulate metrics first.1 first.2 with
    | error => rfl
    | ok after => exact ih after

theorem foldlM_apply_device (totals : DeviceTotals) (device : Device) (values : MetricMap) :
    (Step.place device :: values.entries.map fun total => .value device total.1 total.2).foldlM apply totals =
      (MetricMap.merge ((totals.get? device).getD .empty) values).map (totals.insert device) :=
  foldlM_apply_values totals device ((totals.get? device).getD .empty) values.entries

theorem merge_eq_foldlM_apply (totals others : DeviceTotals) :
    totals.merge others = others.steps.foldlM apply totals := by
  rw [merge, steps]
  induction others.entries generalizing totals with
  | nil => rfl
  | cons first rest ih =>
    rw [List.foldlM_cons, List.flatMap_cons, List.foldlM_append, foldlM_apply_device]
    cases MetricMap.merge ((totals.get? first.1).getD .empty) first.2 with
    | error => rfl
    | ok merged => exact ih (totals.insert first.1 merged)

theorem total?_update_place (totals : DeviceTotals) (place device : Device) (name : String) :
    total? (totals.update place (·.getD .empty)) device name = totals.total? device name := by
  rw [total?_eq_getD, total?_eq_getD, SortedMap.update, SortedMap.get?_insert]
  split
  next here => rw [here, Option.getD_some]
  next => rfl

theorem apply_value_eq_error_iff {totals : DeviceTotals} {device : Device} {name : String} {value : Metric}
    {clash : MetricClash} : totals.apply (.value device name value) = .error clash ↔
      clash.name = name ∧ clash.Between (totals.total? device name) (some value) := by
  rw [apply, total?_eq_getD, MetricMap.accumulate_eq_map_joinUnder, map_eq_error, map_eq_error,
    Metric.joinUnder_eq_error_iff]

theorem total?_of_apply {totals after : DeviceTotals} {step : Step} (done : totals.apply step = .ok after)
    {device : Device} {name : String} (other : step.target? ≠ some (device, name)) :
    after.total? device name = totals.total? device name := by
  cases step with
  | place place =>
    cases done
    exact total?_update_place totals place device name
  | value place under value =>
    rw [apply, MetricMap.accumulate_eq_map_joinUnder] at done
    cases joined : Metric.joinUnder under (((totals.get? place).getD .empty).get? under) value with
    | error => rw [joined] at done; cases done
    | ok sum =>
      rw [joined] at done
      cases done
      rw [total?_eq_getD, total?_eq_getD, SortedMap.get?_insert]
      split
      next here =>
        subst here
        refine SortedMap.get?_insert_of_ne _ (fun same => other ?_) sum
        rw [Step.target?, same]
      next => rfl

theorem total?_of_foldlM_apply {totals after : DeviceTotals} {steps : List Step}
    (done : steps.foldlM apply totals = .ok after) {device : Device} {name : String}
    (others : ∀ step ∈ steps, step.target? ≠ some (device, name)) :
    after.total? device name = totals.total? device name := by
  induction steps generalizing totals with
  | nil => cases done; rfl
  | cons step rest ih =>
    obtain ⟨middle, here, later⟩ := bind_eq_ok done
    rw [ih later fun other member => others other (List.mem_cons_of_mem _ member),
      total?_of_apply here (others step List.mem_cons_self)]

theorem mem_steps_iff {others : DeviceTotals} {device : Device} {name : String} {value : Metric} :
    .value device name value ∈ others.steps ↔ others.total? device name = some value := by
  rw [total?, Option.bind_eq_some_iff, steps, List.mem_flatMap]
  simp only [List.mem_cons, reduceCtorEq, List.mem_map, Step.value.injEq, false_or, Prod.exists,
    SortedMap.mem_entries_iff]
  constructor
  · rintro ⟨place, values, found, under, total, known, rfl, rfl, rfl⟩
    exact ⟨values, found, known⟩
  · rintro ⟨values, found, known⟩
    exact ⟨device, values, found, name, value, known, rfl, rfl, rfl⟩

theorem nodup_targets (others : DeviceTotals) : (others.steps.filterMap Step.target?).Nodup := by
  have targets (entry : Device × MetricMap) :
      (Step.place entry.1 :: entry.2.entries.map fun total => .value entry.1 total.1 total.2).filterMap Step.target? =
        entry.2.keys.map (entry.1, ·) := by
    rw [List.filterMap_cons_none rfl, List.filterMap_map, SortedMap.keys, List.map_map, ← List.filterMap_eq_map]
    rfl
  simp only [steps, List.filterMap_flatMap, targets]
  refine List.pairwise_flatMap.mpr ⟨fun entry _ => ?_, others.ascending.imp ?_⟩
  · refine List.pairwise_map.mpr ((SortedMap.nodup_keys entry.2).imp ?_)
    intro name other apart same
    exact apart (congrArg Prod.snd same)
  · intro before after less target member target' member' same
    obtain ⟨name, -, rfl⟩ := List.mem_map.mp member
    obtain ⟨name', -, rfl⟩ := List.mem_map.mp member'
    have here : before.1 = after.1 := (Prod.mk.inj same).1
    simp [here, Std.ReflCmp.compare_self] at less

/-- What is added before a value does not change the total that it is added to, nor whether the two clash. -/
theorem apply_reached_eq_error_iff {totals others reached : DeviceTotals} {before after : List Step} {device : Device}
    {name : String} {value : Metric} (split : others.steps = before ++ .value device name value :: after)
    (done : before.foldlM apply totals = .ok reached) (clash : MetricClash) :
    reached.apply (.value device name value) = .error clash ↔
      clash.name = name ∧ ClashOn totals others device clash := by
  have targets := nodup_targets others
  have target : Step.target? (.value device name value) = some (device, name) := rfl
  rw [split, List.filterMap_append, List.filterMap_cons_some target, List.nodup_append] at targets
  have untouched : ∀ step ∈ before, step.target? ≠ some (device, name) := by
    intro step member same
    exact targets.2.2 _ (List.mem_filterMap.mpr ⟨step, member, same⟩) _ List.mem_cons_self rfl
  have held : others.total? device name = some value := by
    rw [← mem_steps_iff, split]
    exact List.mem_append_right _ List.mem_cons_self
  rw [apply_value_eq_error_iff, total?_of_foldlM_apply done untouched, ← held]
  refine and_congr_right fun same => ?_
  rw [ClashOn, same]

end DeviceTotals

namespace Report

open DeviceTotals

theorem merge_eq_error_iff {first second : Report} {clash : MetricClash} :
    first.merge second = .error clash ↔
      ∃ device, FirstClash first.deviceMetrics second.deviceMetrics device clash := by
  rw [← DeviceTotals.merge_eq_error_iff]
  exact @map_eq_error _ _ _ (Report.mk (first.calls ++ second.calls)) _ _

/--
Two reports that cannot be merged: the clash that is told is the first one that they have as they stand, and merging
them the other way round tells the same one. The totals are merged step by step, and wherever that has come to, the
next value is refused exactly if it clashes with what the first report holds from the start.
-/
theorem merge_tells_first_clash (first second : Report) :
    (∀ clash, first.merge second = .error clash ↔
        ∃ device, FirstClash first.deviceMetrics second.deviceMetrics device clash) ∧
      (∀ clash, first.merge second = .error clash → second.merge first = .error clash.exchanged) ∧
      first.deviceMetrics.merge second.deviceMetrics =
        second.deviceMetrics.steps.foldlM DeviceTotals.apply first.deviceMetrics ∧
      ∀ before device name value after, second.deviceMetrics.steps = before ++ .value device name value :: after →
        ∀ reached, before.foldlM DeviceTotals.apply first.deviceMetrics = .ok reached →
          ∀ clash, reached.apply (.value device name value) = .error clash ↔
            clash.name = name ∧ ClashOn first.deviceMetrics second.deviceMetrics device clash := by
  refine ⟨fun clash => merge_eq_error_iff, fun clash failed => ?_, merge_eq_foldlM_apply _ _, ?_⟩
  · obtain ⟨device, found⟩ := merge_eq_error_iff.mp failed
    exact merge_eq_error_iff.mpr ⟨device, found.exchanged⟩
  · intro before device name value after split reached done clash
    exact apply_reached_eq_error_iff split done clash

def kept : Report := ⟨[], .ofList [(.cpu 0, .ofList [("a", .count 1), ("b", .bytes 1), ("c", .text "old")]),
  (.gpu 0, .ofList [("a", .bytes 1)])]⟩

def added : Report := ⟨[], .ofList [(.cpu 0, .ofList [("a", .count 2), ("b", .count 2), ("c", .count 2)]),
  (.gpu 0, .ofList [("a", .count 2)])]⟩

theorem merge_tells_first_clash_behind_sum :
    kept.merge added = .error ⟨"b", .bytes, .count⟩ ∧
      (∃ device, FirstClash kept.deviceMetrics added.deviceMetrics device ⟨"b", .bytes, .count⟩) ∧
      added.merge kept = .error ⟨"b", .count, .bytes⟩ ∧
      ∃ reached, [.place (.cpu 0), .value (.cpu 0) "a" (.count 2)].foldlM DeviceTotals.apply kept.deviceMetrics =
          .ok reached ∧
        reached.total? (.cpu 0) "a" = some (.count 3) ∧
        reached.apply (.value (.cpu 0) "b" (.count 2)) = .error ⟨"b", .bytes, .count⟩ := by
  obtain ⟨tells, exchanged, -, refused⟩ := merge_tells_first_clash kept added
  have failed : kept.merge added = .error ⟨"b", .bytes, .count⟩ := rfl
  have clashes : ClashOn kept.deviceMetrics added.deviceMetrics (.cpu 0) ⟨"b", .bytes, .count⟩ :=
    ⟨.bytes 1, .count 2, by decide +kernel, by decide +kernel, rfl, rfl, (Metric.combine_eq_none_iff_apart _ _).mp rfl⟩
  refine ⟨failed, (tells _).mp failed, exchanged _ failed, _, rfl, by decide +kernel, ?_⟩
  exact (refused [.place (.cpu 0), .value (.cpu 0) "a" (.count 2)] _ _ _ _ rfl _ rfl _).mpr ⟨rfl, clashes⟩

end Report

end CallProfile
