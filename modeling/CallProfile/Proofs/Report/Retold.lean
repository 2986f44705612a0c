import Mathlib.Data.List.Forall2
import CallProfile.ProfileError
import CallProfile.Proofs.Report.Totals

namespace CallProfile

/-- What is said of a collector of this name by its adapter when the collector itself says `reason`. -/
def retold (name reason : String) : String := (ProfileError.collector name reason).message

/-- Both have the same metrics, but for what the error under this name says. -/
def MetricMap.Retold (name : String) (plain told : MetricMap) : Prop :=
  ∀ key, told.get? key = plain.get? key ∨
    key = name ++ " error" ∧ ∃ reason, plain.get? key = some (.text reason) ∧
      told.get? key = some (.text (retold name reason))

namespace MetricMap.Retold

variable {name : String} {plain told : MetricMap}

theorem refl (name : String) (metrics : MetricMap) : Retold name metrics metrics := fun _ => .inl rfl

theorem marker (name reason : String) :
    Retold name (.ofList [(name ++ " error", .text reason)])
      (.ofList [(name ++ " error", .text (retold name reason))]) := by
  intro key
  by_cases here : key = name ++ " error"
  · subst here
    exact .inr ⟨rfl, reason, SortedMap.get?_insert_self _ _ _, SortedMap.get?_insert_self _ _ _⟩
  · have absent (metric : Metric) : (SortedMap.ofList [(name ++ " error", metric)]).get? key = none :=
      SortedMap.get?_insert_of_ne .empty here metric
    exact .inl ((absent _).trans (absent _).symm)

theorem insertAll (same : Retold name plain told) {more moreTold : MetricMap} (further : Retold name more moreTold) :
    Retold name (plain.insertAll more.entries) (told.insertAll moreTold.entries) := by
  intro key
  rw [SortedMap.get?_insertAll_entries, SortedMap.get?_insertAll_entries]
  rcases further key with agreed | ⟨here, reason, words, others⟩
  · rw [agreed]
    cases more.get? key with
    | none => simpa only [Option.none_or] using same key
    | some metric => exact .inl rfl
  · rw [words, others]
    exact .inr ⟨here, reason, rfl, rfl⟩

theorem insert (same : Retold name plain told) (own : String) (metric : Metric) :
    Retold name (plain.insert own metric) (told.insert own metric) := by
  intro key
  rw [SortedMap.get?_insert, SortedMap.get?_insert]
  split
  · exact .inl rfl
  · exact same key

theorem find_map_unit (key : String) (entries : List (String × Metric)) :
    SortedMap.find key (entries.map fun entry => (entry.1, ())) = (SortedMap.find key entries).map fun _ => () := by
  induction entries with
  | nil => rfl
  | cons first rest ih =>
    simp only [List.map_cons, SortedMap.find]
    split
    · rfl
    · exact ih

theorem keys_eq (same : Retold name plain told) : told.keys = plain.keys := by
  have bare (metrics : MetricMap) : (metrics.entries.map fun entry => (entry.1, ())).Pairwise fun before after =>
      compare before.1 after.1 = .lt := List.pairwise_map.mpr metrics.ascending
  have entries := SortedMap.ext_find (bare told) (bare plain) fun key => by
    rw [find_map_unit, find_map_unit]
    change (told.get? key).map _ = (plain.get? key).map _
    rcases same key with agreed | ⟨-, reason, words, others⟩
    · rw [agreed]
    · rw [words, others, Option.map_some, Option.map_some]
  have keys := congrArg (List.map Prod.fst) entries
  rwa [List.map_map, List.map_map] at keys

theorem additive (same : Retold name plain told) :
    told.entries.filter (·.2.isAdditive) = plain.entries.filter (·.2.isAdditive) := by
  refine SortedMap.ext_find (told.ascending.filter _) (plain.ascending.filter _) fun key => ?_
  rw [SortedMap.find_filter told.ascending, SortedMap.find_filter plain.ascending]
  change (told.get? key).filter Metric.isAdditive = (plain.get? key).filter Metric.isAdditive
  rcases same key with agreed | ⟨-, reason, words, others⟩
  · rw [agreed]
  · rw [words, others]
    rfl

end MetricMap.Retold

structure CallRecord.Retold (name : String) (plain told : CallRecord) : Prop where
  callee : told.name = plain.name
  device : told.device = plain.device
  depth : told.depth = plain.depth
  metrics : MetricMap.Retold name plain.metrics told.metrics

theorem DeviceTotals.ofCalls_retold {name : String} {plain told : List CallRecord}
    (same : List.Forall₂ (CallRecord.Retold name) plain told) : ofCalls told = ofCalls plain := by
  have general (totals : DeviceTotals) : told.foldl addCall totals = plain.foldl addCall totals := by
    induction same generalizing totals with
    | nil => rfl
    | cons first _ ih =>
      rw [List.foldl_cons, List.foldl_cons, ih, addCall, addCall, first.device, first.metrics.additive]
  exact general .empty

structure Report.Retold (name : String) (plain told : Report) : Prop where
  calls : List.Forall₂ (CallRecord.Retold name) plain.calls told.calls
  names : told.calls.map (·.metrics.keys) = plain.calls.map (·.metrics.keys)
  deviceMetrics : told.deviceMetrics = plain.deviceMetrics

theorem Report.ofCalls_retold {name : String} {plain told : List CallRecord}
    (same : List.Forall₂ (CallRecord.Retold name) plain told) : Report.Retold name (.ofCalls plain) (.ofCalls told) where
  calls := same
  names := by
    change told.map _ = plain.map _
    induction same with
    | nil => rfl
    | cons first _ ih => rw [List.map_cons, List.map_cons, first.metrics.keys_eq, ih]
  deviceMetrics := DeviceTotals.ofCalls_retold same

end CallProfile
