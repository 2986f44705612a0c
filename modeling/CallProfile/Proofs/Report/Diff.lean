import CallProfile.Proofs.Decimal.Double
import CallProfile.Proofs.Report.Groups

namespace CallProfile

namespace Report

/-- Number and time of the calls of one name on one device. -/
def totalsOf (report : Report) (key : CallKey) : CallTotals :=
  let calls := report.calls.filter (·.key = key)
  ⟨calls.length, (calls.map (·.metrics.time)).foldl (· + ·) 0.0⟩

theorem foldl_add_eq (calls : List CallRecord) (totals : CallTotals) :
    calls.foldl CallTotals.add totals =
      ⟨totals.count + calls.length, (calls.map (·.metrics.time)).foldl (· + ·) totals.seconds⟩ := by
  induction calls generalizing totals with
  | nil => rfl
  | cons call rest ih =>
    rw [List.foldl_cons, ih, CallTotals.add, CallRecord.duration?, CallRecord.metric?, MetricMap.getD_duration?,
      List.length_cons, List.map_cons, List.foldl_cons, Nat.add_right_comm]
    rfl

theorem getD_totalsByCall_eq (report : Report) (key : CallKey) :
    (report.totalsByCall.get? key).getD .none = report.totalsOf key := by
  rw [getD_totalsByCall, foldl_add_eq, totalsOf]
  exact congrArg (CallTotals.mk · _) (Nat.zero_add _)

theorem sum_count_totalsOf (report : Report) {keys : List CallKey} (nodup : keys.Nodup)
    (all : ∀ call ∈ report.calls, call.key ∈ keys) :
    (keys.map fun key => (report.totalsOf key).count).sum = report.calls.length := by
  rw [← sum_countP_groups nodup CallRecord.key all]
  simp only [totalsOf, List.countP_eq_length_filter]

end Report

structure CallDiff.Sets (part : CallDiff) (before after : CallTotals) : Prop where
  baseline : part.baseline = before
  comparison : part.comparison = after
  delta : part.deltaSeconds = after.seconds - before.seconds ∧
    part.deltaSeconds.toFloat = after.seconds.toFloat - before.seconds.toFloat
  percent : part.deltaPercent =
    if 0.0 < before.seconds.toFloat then part.deltaSeconds.toFloat / before.seconds.toFloat * 100.0 else 0.0

structure ReportDiff.Sets (difference : ReportDiff) (baseline comparison : Report) : Prop where
  nodup : (difference.calls.map (·.key)).Nodup
  mem_keys : ∀ key, key ∈ difference.calls.map (·.key) ↔
    (∃ call ∈ baseline.calls, call.key = key) ∨ ∃ call ∈ comparison.calls, call.key = key
  totals : ∀ part ∈ difference.calls, part.Sets (baseline.totalsOf part.key) (comparison.totalsOf part.key)
  baselineCalls : difference.baselineCalls = baseline.calls.length ∧
    (difference.calls.map (·.baseline.count)).sum = difference.baselineCalls
  comparisonCalls : difference.comparisonCalls = comparison.calls.length ∧
    (difference.calls.map (·.comparison.count)).sum = difference.comparisonCalls
  ordered : difference.calls.Pairwise
    (Decimal.Descending (·.deltaSeconds.abs) fun before after => compare before.key after.key = .lt)

namespace Report

variable (baseline comparison : Report)

def parts : List CallDiff :=
  (baseline.callKeys comparison).map fun key =>
    .between key (baseline.totalsOf key) (comparison.totalsOf key)

theorem calls_diff :
    (baseline.diff comparison).calls = Decimal.sortDescending (·.deltaSeconds.abs) (baseline.parts comparison) := by
  simp only [diff, parts, getD_totalsByCall_eq]

theorem perm_parts : (baseline.diff comparison).calls.Perm (baseline.parts comparison) := by
  rw [calls_diff]
  exact Decimal.perm_sortDescending _ _

theorem keys_parts : (baseline.parts comparison).map (·.key) = baseline.callKeys comparison := by
  rw [parts, List.map_map]
  exact List.map_id _

theorem nodup_callKeys : (baseline.callKeys comparison).Nodup := SortedMap.nodup_keys _

theorem perm_callKeys_swap : (comparison.callKeys baseline).Perm (baseline.callKeys comparison) := by
  refine (List.perm_ext_iff_of_nodup (nodup_callKeys _ _) (nodup_callKeys _ _)).mpr fun key => ?_
  simp only [mem_callKeys_iff, List.mem_append, or_comm]

theorem mem_callKeys_of_baseline : ∀ call ∈ baseline.calls, call.key ∈ baseline.callKeys comparison :=
  fun call member => mem_callKeys_iff.mpr ⟨call, List.mem_append_left _ member, rfl⟩

theorem mem_callKeys_of_comparison : ∀ call ∈ comparison.calls, call.key ∈ baseline.callKeys comparison :=
  fun call member => mem_callKeys_iff.mpr ⟨call, List.mem_append_right _ member, rfl⟩

theorem ordered_parts :
    (baseline.parts comparison).Pairwise fun before after => compare before.key after.key = .lt := by
  rw [parts, List.pairwise_map, callKeys, SortedMap.keys, List.pairwise_map]
  exact SortedMap.ascending _

theorem sets_diff : (baseline.diff comparison).Sets baseline comparison where
  nodup := by
    have keys := (perm_parts baseline comparison).map (·.key)
    rw [keys_parts] at keys
    exact keys.nodup_iff.mpr (nodup_callKeys baseline comparison)
  mem_keys key := by
    have keys := (perm_parts baseline comparison).map (·.key)
    rw [keys_parts] at keys
    rw [keys.mem_iff, mem_callKeys_iff]
    simp only [List.mem_append, or_and_right, exists_or]
  totals part member := by
    obtain ⟨key, -, rfl⟩ := List.mem_map.mp ((perm_parts baseline comparison).mem_iff.mp member)
    exact ⟨rfl, rfl, ⟨rfl, Double.toFloat_sub _ _⟩, rfl⟩
  baselineCalls := by
    refine ⟨rfl, ?_⟩
    rw [((perm_parts baseline comparison).map _).sum_eq, parts, List.map_map]
    exact baseline.sum_count_totalsOf (nodup_callKeys _ _) (mem_callKeys_of_baseline baseline comparison)
  comparisonCalls := by
    refine ⟨rfl, ?_⟩
    rw [((perm_parts baseline comparison).map _).sum_eq, parts, List.map_map]
    exact comparison.sum_count_totalsOf (nodup_callKeys _ _) (mem_callKeys_of_comparison baseline comparison)
  ordered := by
    rw [calls_diff]
    exact Decimal.descending_sortDescending _ (ordered_parts baseline comparison)

theorem swapped_diff :
    ((comparison.diff baseline).calls.map fun part => (part.key, part.baseline, part.comparison)).Perm
      ((baseline.diff comparison).calls.map fun part => (part.key, part.comparison, part.baseline)) := by
  have left := (perm_parts comparison baseline).map fun part => (part.key, part.baseline, part.comparison)
  have right := (perm_parts baseline comparison).map fun part => (part.key, part.comparison, part.baseline)
  rw [parts, List.map_map] at left right
  exact left.trans (((perm_callKeys_swap baseline comparison).map _).trans right.symm)

/--
A difference sets the calls of two reports side by side, group by group, and it is the same whichever report comes
first, but for the side on which each report stands.
-/
theorem diff_sets_side_by_side :
    (baseline.diff comparison).Sets baseline comparison ∧
      ((comparison.diff baseline).calls.map fun part => (part.key, part.baseline, part.comparison)).Perm
        ((baseline.diff comparison).calls.map fun part => (part.key, part.comparison, part.baseline)) :=
  ⟨sets_diff baseline comparison, swapped_diff baseline comparison⟩

theorem diff_sets_side_by_side_timed :
    let timed (name : String) (seconds : Float) : CallRecord :=
      ⟨name, .cpu 0, 1, .ofList [(durationName, .duration seconds)]⟩
    let baseline : Report := ⟨[timed "load" 1.0, timed "store" 2.0, timed "load" 0.5], .empty⟩
    let comparison : Report := ⟨[timed "store" 3.0], .empty⟩
    ∃ part ∈ (baseline.diff comparison).calls, part.key = ⟨"load", .cpu 0⟩ ∧ part.baseline = ⟨2, 1.5⟩ ∧
      part.comparison = ⟨0, 0.0⟩ ∧ part.deltaSeconds = .ofFloat (-1.5) ∧ part.deltaPercent = -100.0 := by
  intro timed baseline comparison
  have difference := (diff_sets_side_by_side baseline comparison).1
  have listed := (difference.mem_keys ⟨"load", .cpu 0⟩).mpr (.inl ⟨timed "load" 1.0, List.mem_cons_self, rfl⟩)
  obtain ⟨part, member, key⟩ := List.mem_map.mp listed
  have sets := difference.totals part member
  rw [key, show baseline.totalsOf ⟨"load", .cpu 0⟩ = ⟨2, 1.5⟩ by decide +kernel,
    show comparison.totalsOf ⟨"load", .cpu 0⟩ = ⟨0, 0.0⟩ by decide +kernel] at sets
  have delta : part.deltaSeconds = .ofFloat (-1.5) := sets.delta.1.trans (by decide +kernel)
  refine ⟨part, member, key, sets.baseline, sets.comparison, delta, ?_⟩
  rw [sets.percent, delta]
  decide +kernel

end Report

end CallProfile
