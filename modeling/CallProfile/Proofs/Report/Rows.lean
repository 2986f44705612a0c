import CallProfile.Proofs.Report.DeviceTotals

namespace CallProfile

/-- A value with a sum that a call of this name and device has under a metric name. -/
structure Sample where
  key : CallKey
  name : String
  value : Metric

def CallRecord.sampled (call : CallRecord) : List Sample :=
  (call.metrics.entries.filter (·.2.isAdditive)).map fun entry => ⟨call.key, entry.1, entry.2⟩

def sampled (calls : List CallRecord) : List Sample := calls.flatMap (·.sampled)

theorem sampled_cons (call : CallRecord) (rest : List CallRecord) :
    sampled (call :: rest) = call.sampled ++ sampled rest := rfl

namespace Sample

def named (samples : List Sample) (name : String) : List Metric :=
  (samples.filter (·.name = name)).map (·.value)

/-- Whether the sample is of the variant of the first one of its name. -/
def fits (samples : List Sample) (sample : Sample) : Bool :=
  (named samples sample.name).head?.map (·.variant) = some sample.value.variant

theorem isAdditive_of_mem {calls : List CallRecord} {sample : Sample} (member : sample ∈ sampled calls) :
    sample.value.isAdditive := by
  obtain ⟨call, -, member⟩ := List.mem_flatMap.mp member
  obtain ⟨entry, listed, rfl⟩ := List.mem_map.mp member
  exact (List.mem_filter.mp listed).2

theorem named_cons (sample : Sample) (rest : List Sample) (name : String) :
    named (sample :: rest) name = if sample.name = name then sample.value :: named rest name else named rest name := by
  rw [named, List.filter_cons]
  by_cases here : sample.name = name <;> simp [here, named]

theorem countP_named (samples : List Sample) (name : String) (told : Metric → Bool) :
    (named samples name).countP told = samples.countP fun sample => told sample.value && sample.name = name := by
  rw [named, List.countP_map, List.countP_filter]
  rfl

theorem key_of_mem_sampled {call : CallRecord} {sample : Sample} (member : sample ∈ call.sampled) :
    sample.key = call.key := by
  obtain ⟨entry, -, rfl⟩ := List.mem_map.mp member
  rfl

theorem filter_sampled (call : CallRecord) (key : CallKey) :
    call.sampled.filter (·.key = key) = if call.key = key then call.sampled else [] := by
  split
  next own =>
    refine List.filter_eq_self.mpr fun sample member => ?_
    rw [key_of_mem_sampled member]
    exact decide_eq_true own
  next other =>
    refine List.filter_eq_nil_iff.mpr fun sample member => ?_
    rw [key_of_mem_sampled member]
    simpa using other

theorem sampled_filter (calls : List CallRecord) (key : CallKey) :
    sampled (calls.filter (·.key = key)) = (sampled calls).filter (·.key = key) := by
  induction calls with
  | nil => rfl
  | cons call rest ih =>
    rw [sampled_cons, List.filter_append, ← ih, filter_sampled, List.filter_cons]
    by_cases own : call.key = key
    · rw [if_pos (decide_eq_true own), if_pos own, sampled_cons]
    · rw [if_neg (by simpa using own), if_neg own, List.nil_append]

end Sample

namespace Metric

theorem length_counted (values : List Metric) :
    (counted values).length = values.countP fun value => values.head?.map (·.variant) = some value.variant := by
  cases values with
  | nil => rfl
  | cons first rest =>
    rw [counted, List.length_cons, List.countP_cons, List.countP_eq_length_filter]
    simp [eq_comm]

end Metric

namespace CallGroup

def addSample (group : CallGroup) (sample : Sample) : CallGroup := group.addMetric sample.name sample.value

def kind? (group : CallGroup) (name : String) : Option Metric.Variant := (group.metrics.get? name).map (·.variant)

def Additive (group : CallGroup) : Prop := ∀ name variant, group.kind? name = some variant → variant.isAdditive

theorem get?_addSample (group : CallGroup) (sample : Sample) (name : String) :
    (group.addSample sample).metrics.get? name =
      if name = sample.name then Metric.absorb (group.metrics.get? sample.name) sample.value
      else group.metrics.get? name := by
  rw [addSample, (addMetric_eq group sample.name sample.value).2.2, MetricMap.get?_accumulateOrSkip]

theorem get?_foldl_addSample (samples : List Sample) (group : CallGroup) (name : String) :
    (samples.foldl addSample group).metrics.get? name =
      (Sample.named samples name).foldl Metric.absorb (group.metrics.get? name) := by
  induction samples generalizing group with
  | nil => rfl
  | cons sample rest ih =>
    rw [List.foldl_cons, ih, get?_addSample, Sample.named_cons]
    by_cases here : name = sample.name
    · subst here
      rw [if_pos rfl, if_pos rfl, List.foldl_cons]
    · rw [if_neg here, if_neg (Ne.symm here)]

section Step

variable {group : CallGroup} (totals : group.Additive) {sample : Sample}
include totals

theorem Additive.isAdditive {name : String} {total : Metric} (known : group.metrics.get? name = some total) :
    total.isAdditive := totals name total.variant (by rw [kind?, known, Option.map_some])

theorem Additive.kind?_addSample (name : String) :
    (group.addSample sample).kind? name =
      (group.kind? name).or (if sample.name = name then some sample.value.variant else none) := by
  rw [kind?, kind?, get?_addSample]
  by_cases here : name = sample.name
  · subst here
    rw [if_pos rfl, if_pos rfl]
    cases known : group.metrics.get? sample.name with
    | none => rfl
    | some before =>
      rcases Metric.absorb_cases (totals.isAdditive known) sample.value with
        ⟨sum, -, -, absorbed, kept⟩ | ⟨-, absorbed⟩
      · rw [absorbed, Option.map_some, kept]
        rfl
      · rw [absorbed]
        rfl
  · rw [if_neg here, if_neg (Ne.symm here), Option.or_none]

theorem Additive.addSample (additive : sample.value.isAdditive) : (group.addSample sample).Additive := by
  intro name variant found
  rw [totals.kind?_addSample, Option.or_eq_some_iff] at found
  rcases found with before | ⟨-, first⟩
  · exact totals name variant before
  · split at first
    next =>
      cases first
      exact additive
    next => cases first

theorem Additive.skipped_addSample :
    (group.addSample sample).skipped =
      group.skipped + if (group.addSample sample).kind? sample.name = some sample.value.variant then 0 else 1 := by
  rw [totals.kind?_addSample, if_pos rfl, kind?, CallGroup.addSample, addMetric, MetricMap.accumulate]
  cases known : group.metrics.get? sample.name with
  | none => simp
  | some before =>
    simp only [Metric.combineUnder]
    rcases Metric.absorb_cases (totals.isAdditive known) sample.value with ⟨sum, same, added, -, -⟩ | ⟨other, -⟩
    · simp [added, Except.map, same]
    · have refused : before.combine sample.value = none :=
        (Metric.combine_eq_none_iff before sample.value).mpr fun both => other both.1.symm
      simp [refused, Except.map, Ne.symm other]

end Step

theorem skipped_foldl_addSample {samples : List Sample} (additive : ∀ sample ∈ samples, sample.value.isAdditive)
    {group : CallGroup} (totals : group.Additive) :
    (samples.foldl addSample group).skipped = group.skipped + samples.countP fun sample =>
      (group.kind? sample.name).or ((Sample.named samples sample.name).head?.map (·.variant)) ≠
        some sample.value.variant := by
  induction samples generalizing group with
  | nil => rfl
  | cons sample rest ih =>
    have later := totals.addSample (additive sample List.mem_cons_self)
    -- What is of the first variant of its name does not depend on where the row is cut in two.
    have lead (name : String) :
        (group.kind? name).or ((Sample.named (sample :: rest) name).head?.map (·.variant)) =
          ((group.addSample sample).kind? name).or ((Sample.named rest name).head?.map (·.variant)) := by
      rw [totals.kind?_addSample, Option.or_assoc, Sample.named_cons]
      split <;> rfl
    have own : ((group.addSample sample).kind? sample.name).isSome := by
      rw [totals.kind?_addSample, if_pos rfl]
      cases group.kind? sample.name <;> rfl
    have here : ((group.addSample sample).kind? sample.name).or
        ((Sample.named rest sample.name).head?.map (·.variant)) = (group.addSample sample).kind? sample.name :=
      Option.or_of_isSome own
    rw [List.foldl_cons, ih (fun other member => additive other (List.mem_cons_of_mem _ member)) later,
      totals.skipped_addSample, List.countP_cons]
    simp only [lead, here, decide_eq_true_eq, ne_eq, ite_not]
    omega

theorem addMetric_counting (group : CallGroup) (name : String) (value : Metric) (count : Nat) :
    { group with count }.addMetric name value = { group.addMetric name value with count } := by
  rw [addMetric, addMetric]
  cases MetricMap.accumulate group.metrics name value <;> rfl

theorem foldl_addSample_counting (samples : List Sample) (group : CallGroup) (count : Nat) :
    samples.foldl addSample { group with count } = { samples.foldl addSample group with count } := by
  induction samples generalizing group with
  | nil => rfl
  | cons sample rest ih => rw [List.foldl_cons, addSample, addMetric_counting, ih, List.foldl_cons, addSample]

theorem addCall_eq_foldl (group : CallGroup) (call : CallRecord) :
    group.addCall call = { call.sampled.foldl addSample group with count := group.count + 1 } := by
  rw [← foldl_addSample_counting, CallRecord.sampled, List.foldl_map]
  rfl

theorem foldl_addCall_eq (calls : List CallRecord) (group : CallGroup) :
    calls.foldl addCall group = { (sampled calls).foldl addSample group with count := group.count + calls.length } := by
  induction calls generalizing group with
  | nil => rfl
  | cons call rest ih =>
    rw [List.foldl_cons, ih, addCall_eq_foldl, foldl_addSample_counting, sampled_cons, List.foldl_append,
      List.length_cons, Nat.add_assoc, Nat.add_comm 1]

theorem gathered_eq (calls : List CallRecord) (key : CallKey) :
    gathered calls key =
      { ((sampled calls).filter (·.key = key)).foldl addSample (empty key) with
        count := calls.countP (·.key = key) } := by
  rw [gathered, foldl_addCall_eq, Sample.sampled_filter, List.countP_eq_length_filter]
  exact congrArg (CallGroup.mk _ · _ _) (Nat.zero_add _)

/-- What a row has to hold, if the calls are these. -/
structure Tells (calls : List CallRecord) (row : CallGroup) : Prop where
  count : row.count = calls.countP (·.key = row.key)
  absent : ∀ name, row.metrics.get? name = none ↔
    Sample.named ((sampled calls).filter (·.key = row.key)) name = []
  total : ∀ name total, row.metrics.get? name = some total →
    Metric.SumOf (Sample.named ((sampled calls).filter (·.key = row.key)) name) total

section Gathered

variable (calls : List CallRecord) (key : CallKey)

theorem get?_gathered_eq (name : String) :
    (gathered calls key).metrics.get? name =
      (Sample.named ((sampled calls).filter (·.key = key)) name).foldl Metric.absorb none := by
  rw [gathered_eq]
  exact get?_foldl_addSample _ (empty key) name

theorem tells_gathered : (gathered calls key).Tells calls := by
  have additive (name : String) :
      ∀ value ∈ Sample.named ((sampled calls).filter (·.key = key)) name, value.isAdditive := by
    intro value member
    obtain ⟨sample, listed, rfl⟩ := List.mem_map.mp member
    exact Sample.isAdditive_of_mem (List.mem_of_mem_filter (List.mem_of_mem_filter listed))
  have cases (name : String) := Metric.foldl_absorb_cases (additive name)
  refine ⟨by rw [key_gathered, count_gathered], fun name => ?_, fun name total found => ?_⟩
  · rw [key_gathered, get?_gathered_eq]
    rcases cases name with ⟨none, nothing⟩ | ⟨some, total, reached, -⟩
    · exact iff_of_true nothing none
    · exact iff_of_false (by rw [reached]; nofun) some
  · rw [get?_gathered_eq] at found
    rw [key_gathered]
    rcases cases name with ⟨-, nothing⟩ | ⟨-, known, reached, sum⟩
    · cases nothing.symm.trans found
    · cases reached.symm.trans found
      exact sum

theorem skipped_gathered :
    (gathered calls key).skipped = ((sampled calls).filter (·.key = key)).countP fun sample =>
      !sample.fits ((sampled calls).filter (·.key = key)) := by
  rw [gathered_eq]
  have additive : ∀ sample ∈ (sampled calls).filter (·.key = key), sample.value.isAdditive :=
    fun sample member => Sample.isAdditive_of_mem (List.mem_of_mem_filter member)
  have bare : (empty key).Additive := nofun
  refine (skipped_foldl_addSample additive bare).trans ((Nat.zero_add _).trans (List.countP_congr fun sample _ => ?_))
  simp [Sample.fits, kind?, empty]

end Gathered

end CallGroup

/-- Whether a sample is added up in its row. -/
def Sample.counts (samples : List Sample) (sample : Sample) : Bool :=
  sample.fits (samples.filter (·.key = sample.key))

theorem Sample.sum_countP_keyed {keys : List CallKey} (nodup : keys.Nodup) {samples : List Sample}
    (all : ∀ sample ∈ samples, sample.key ∈ keys) (told : List Sample → Sample → Bool) :
    (keys.map fun key => (samples.filter (·.key = key)).countP (told (samples.filter (·.key = key)))).sum =
      samples.countP fun sample => told (samples.filter (·.key = sample.key)) sample := by
  let own (sample : Sample) : Bool := told (samples.filter (·.key = sample.key)) sample
  have row (key : CallKey) : (samples.filter (·.key = key)).countP (told (samples.filter (·.key = key))) =
      (samples.filter own).countP (·.key = key) := by
    rw [List.countP_filter, List.countP_filter]
    refine List.countP_congr fun sample _ => ?_
    by_cases here : sample.key = key
    · simp [own, here]
    · simp [here]
  simp only [row]
  rw [sum_countP_groups nodup (·.key) fun sample member => all sample (List.mem_of_mem_filter member),
    List.countP_eq_length_filter]

namespace CallGroup

theorem Tells.sum_counted {calls : List CallRecord} {row : CallGroup} (tells : row.Tells calls) :
    (row.metrics.keys.map fun name =>
      (Metric.counted (Sample.named ((sampled calls).filter (·.key = row.key)) name)).length).sum =
      ((sampled calls).filter (·.key = row.key)).countP (Sample.fits ((sampled calls).filter (·.key = row.key))) := by
  generalize own : (sampled calls).filter (·.key = row.key) = samples
  have ofName (name : String) : (Metric.counted (Sample.named samples name)).length =
      (samples.filter (Sample.fits samples)).countP (·.name = name) := by
    rw [Metric.length_counted, Sample.countP_named, List.countP_filter]
    refine List.countP_congr fun sample _ => ?_
    by_cases here : sample.name = name
    · subst here
      simp [Sample.fits]
    · simp [here]
  have listed : ∀ sample ∈ samples.filter (Sample.fits samples), sample.name ∈ row.metrics.keys := by
    intro sample member
    rw [SortedMap.mem_keys_iff, Option.isSome_iff_ne_none, Ne, tells.absent, own]
    refine List.ne_nil_of_mem (List.mem_map_of_mem (List.mem_filter.mpr ⟨List.mem_of_mem_filter member, ?_⟩))
    exact decide_eq_true rfl
  simp only [ofName]
  exact (sum_countP_groups (SortedMap.nodup_keys _) Sample.name listed).trans List.countP_eq_length_filter.symm

/-- Where the first call of a key stands. -/
def firstCall (calls : List CallRecord) (key : CallKey) : Nat := calls.findIdx (·.key = key)

theorem firstCall_lt_iff {calls : List CallRecord} {key : CallKey} :
    firstCall calls key < calls.length ↔ ∃ call ∈ calls, call.key = key := by
  simp [firstCall, List.findIdx_lt_length]

theorem firstCall_append (calls : List CallRecord) (call : CallRecord) (key : CallKey) :
    firstCall (calls ++ [call]) key =
      if firstCall calls key < calls.length then firstCall calls key
      else firstCall [call] key + calls.length := List.findIdx_append

def InTurn (calls : List CallRecord) (groups : List CallGroup) : Prop :=
  (groups.map (·.key)).Pairwise fun before after => firstCall calls before < firstCall calls after

theorem InTurn.insertCall {calls : List CallRecord} {groups : List CallGroup} (inTurn : InTurn calls groups)
    (grouped : Grouped calls groups) (call : CallRecord) :
    InTurn (calls ++ [call]) (CallGroup.insertCall call groups) := by
  have known : ∀ key ∈ groups.map (·.key), firstCall (calls ++ [call]) key = firstCall calls key := by
    intro key member
    rw [firstCall_append, if_pos (firstCall_lt_iff.mpr ((grouped.mem_keys key).mp member))]
  have before : (groups.map (·.key)).Pairwise fun before after =>
      firstCall (calls ++ [call]) before < firstCall (calls ++ [call]) after := by
    refine List.Pairwise.imp_of_mem (fun {before after} here there less => ?_) inTurn
    rw [known before here, known after there]
    exact less
  rw [InTurn, keys_insertCall]
  split
  next => exact before
  next absent =>
    refine List.pairwise_append.mpr ⟨before, List.pairwise_singleton _ _, fun key member last single => ?_⟩
    rw [List.mem_singleton.mp single, known key member, firstCall_append calls call call.key,
      if_neg fun less => absent ((grouped.mem_keys _).mpr (firstCall_lt_iff.mp less))]
    have := firstCall_lt_iff.mpr ((grouped.mem_keys key).mp member)
    omega

theorem inTurn_ofCalls (calls : List CallRecord) : InTurn calls (ofCalls calls) := by
  have general (front back : List CallRecord) (groups : List CallGroup) (grouped : Grouped front groups)
      (inTurn : InTurn front groups) :
      InTurn (front ++ back) (back.foldl (fun groups call => CallGroup.insertCall call groups) groups) := by
    induction back generalizing front groups with
    | nil => rwa [List.append_nil]
    | cons call rest ih =>
      have further := ih _ _ (grouped.insertCall call) (inTurn.insertCall grouped call)
      rwa [List.append_assoc] at further
  exact general [] calls [] ⟨List.nodup_nil, by simp, nofun⟩ .nil

end CallGroup

namespace Report

def skipped (report : Report) : Nat := report.groups.foldl (fun total group => total + group.skipped) 0

/-- What the rows of a table have to be, and how many samples have to be skipped, if the calls are these. -/
structure Tabulates (calls : List CallRecord) (rows : List CallGroup) (skipped : Nat) : Prop where
  nodup : (rows.map (·.key)).Nodup
  mem_keys : ∀ key, key ∈ rows.map (·.key) ↔ ∃ call ∈ calls, call.key = key
  counts : (rows.map (·.count)).sum = calls.length
  tells : ∀ row ∈ rows, row.Tells calls
  leftOut : skipped = (sampled calls).countP fun sample => !sample.counts (sampled calls)
  /-- No sample is lost, and none is there twice. -/
  accounted : (rows.map fun row => (row.metrics.keys.map fun name =>
    (Metric.counted (Sample.named ((sampled calls).filter (·.key = row.key)) name)).length).sum).sum + skipped =
      (sampled calls).length
  /-- The longest row first, and equally long ones by their first calls. -/
  ordered : rows.Pairwise (Decimal.Descending (·.metrics.time) fun before after =>
    CallGroup.firstCall calls before.key < CallGroup.firstCall calls after.key)

section Rows

variable (report : Report)

theorem nodup_keys_groups : (report.groups.map (·.key)).Nodup :=
  ((perm_groups report).map _).nodup_iff.mpr (CallGroup.grouped_ofCalls report.calls).nodup

theorem mem_keys_groups (key : CallKey) :
    key ∈ report.groups.map (·.key) ↔ ∃ call ∈ report.calls, call.key = key := by
  rw [((perm_groups report).map _).mem_iff, (CallGroup.grouped_ofCalls report.calls).mem_keys]

theorem eq_gathered_of_mem {row : CallGroup} (member : row ∈ report.groups) : row = .gathered report.calls row.key :=
  (CallGroup.grouped_ofCalls report.calls).complete row ((perm_groups report).mem_iff.mp member)

theorem tells_of_mem {row : CallGroup} (member : row ∈ report.groups) : row.Tells report.calls := by
  rw [eq_gathered_of_mem report member]
  exact CallGroup.tells_gathered report.calls row.key

theorem mem_keys_of_sampled : ∀ sample ∈ sampled report.calls, sample.key ∈ report.groups.map (·.key) := by
  intro sample member
  obtain ⟨call, listed, own⟩ := List.mem_flatMap.mp member
  exact (mem_keys_groups report _).mpr ⟨call, listed, (Sample.key_of_mem_sampled own).symm⟩

theorem sum_count_groups : (report.groups.map (·.count)).sum = report.calls.length := by
  have counts : ∀ row ∈ report.groups, row.count = report.calls.countP (·.key = row.key) :=
    fun row member => (tells_of_mem report member).count
  have sum := sum_countP_groups (nodup_keys_groups report) CallRecord.key fun call member =>
    (mem_keys_groups report _).mpr ⟨call, member, rfl⟩
  rw [List.map_map] at sum
  rw [List.map_congr_left counts]
  exact sum

theorem skipped_eq :
    report.skipped = (sampled report.calls).countP fun sample => !sample.counts (sampled report.calls) := by
  have rows : ∀ row ∈ report.groups, row.skipped = ((sampled report.calls).filter (·.key = row.key)).countP
      fun sample => !sample.fits ((sampled report.calls).filter (·.key = row.key)) := by
    intro row member
    rw [← CallGroup.skipped_gathered, ← eq_gathered_of_mem report member]
  have sum := Sample.sum_countP_keyed (nodup_keys_groups report) (mem_keys_of_sampled report)
    fun samples sample => !sample.fits samples
  rw [List.map_map] at sum
  rw [skipped, ← List.foldl_map (g := (· + ·)), ← List.sum_eq_foldl, List.map_congr_left rows]
  exact sum

theorem sum_counted_groups :
    (report.groups.map fun row => (row.metrics.keys.map fun name =>
      (Metric.counted (Sample.named ((sampled report.calls).filter (·.key = row.key)) name)).length).sum).sum =
      (sampled report.calls).countP (Sample.counts (sampled report.calls)) := by
  have sum := Sample.sum_countP_keyed (nodup_keys_groups report) (mem_keys_of_sampled report) Sample.fits
  rw [List.map_map] at sum
  rw [List.map_congr_left fun row member => (tells_of_mem report member).sum_counted]
  exact sum

theorem ordered_groups :
    report.groups.Pairwise (Decimal.Descending (·.metrics.time) fun before after =>
      CallGroup.firstCall report.calls before.key < CallGroup.firstCall report.calls after.key) := by
  have time : (fun row : CallGroup => row.metrics.time) = CallGroup.seconds :=
    funext fun row => row.metrics.getD_duration?.symm
  have inTurn := CallGroup.inTurn_ofCalls report.calls
  rw [CallGroup.InTurn, List.pairwise_map] at inTurn
  rw [time]
  exact Decimal.descending_sortDescending _ inTurn

theorem tabulates_groups : Tabulates report.calls report.groups report.skipped where
  nodup := nodup_keys_groups report
  mem_keys := mem_keys_groups report
  counts := sum_count_groups report
  tells _ member := tells_of_mem report member
  leftOut := skipped_eq report
  accounted := by
    rw [sum_counted_groups, skipped_eq, List.length_eq_countP_add_countP (Sample.counts (sampled report.calls))]
    simp
  ordered := ordered_groups report

/--
The table of groups has one row for each name and device, which holds all calls of its own, and every sample of
theirs is either added up in its row or counted in the note below the rows.
-/
theorem rows_account_for_samples :
    report.table true =
        (report.groupTable report.groups).text.map (· ++ skippedNote report.skipped ++ report.deviceSummary) ∧
      Tabulates report.calls report.groups report.skipped := by
  refine ⟨?_, tabulates_groups report⟩
  simp only [table, if_true]
  cases (report.groupTable report.groups).text <;> rfl

end Rows

theorem rows_account_for_samples_alike :
    let call (device : Device) (hits : Metric) : CallRecord := ⟨"step", device, 1, .ofList [("hits", hits)]⟩
    let alike : Device := ⟨.other "cpu", 0⟩
    let report : Report := ⟨[call (.cpu 0) (.count (.ofNat Count.limit)), call alike (.count 3),
      call (.cpu 0) (.bytes 5), call (.cpu 0) (.count 7)], .empty⟩
    alike.text = (Device.cpu 0).text ∧ report.skipped = 1 ∧
      (∃ row ∈ report.groups, row.key = ⟨"step", alike⟩ ∧ row.count = 1) ∧
      ∃ row ∈ report.groups, row.key = ⟨"step", .cpu 0⟩ ∧ row.count = 3 ∧
        ∃ hits, row.metrics.get? "hits" = some hits ∧ hits.number? = some Count.limit := by
  intro call alike report
  have tabulates := (rows_account_for_samples report).2
  have row (device : Device) (count : Nat) (counts : report.calls.countP (·.key = ⟨"step", device⟩) = count + 1) :
      ∃ row ∈ report.groups, row.key = ⟨"step", device⟩ ∧ row.count = count + 1 ∧ row.Tells report.calls := by
    obtain ⟨own, listed, key⟩ := List.countP_pos_iff.mp (Nat.lt_of_lt_of_eq (Nat.succ_pos count) counts.symm)
    obtain ⟨row, member, here⟩ := List.mem_map.mp ((tabulates.mem_keys _).mpr ⟨own, listed, of_decide_eq_true key⟩)
    have tells := tabulates.tells row member
    exact ⟨row, member, here, by rw [tells.count, here, counts], tells⟩
  obtain ⟨other, listed, otherKey, otherCount, -⟩ := row alike 0 (by decide +kernel)
  obtain ⟨own, member, key, count, tells⟩ := row (.cpu 0) 2 (by decide +kernel)
  refine ⟨by decide +kernel, tabulates.leftOut.trans (by decide +kernel), ⟨other, listed, otherKey, otherCount⟩,
    own, member, key, count, ?_⟩
  have absent := tells.absent "hits"
  have total := tells.total "hits"
  rw [key, show Sample.named ((sampled report.calls).filter (·.key = ⟨"step", .cpu 0⟩)) "hits" =
    [.count (.ofNat Count.limit), .bytes 5, .count 7] by decide +kernel] at absent total
  cases found : own.metrics.get? "hits" with
  | none => cases absent.mp found
  | some hits =>
    have sum := total hits found
    cases hits with
    | count number => exact ⟨_, rfl, congrArg some ((sum.number number.toNat rfl).trans rfl)⟩
    | _ => cases sum.variant

end Report

end CallProfile
