import CallProfile.Proofs.Decimal.Double
import CallProfile.Proofs.Report.Groups

namespace CallProfile

theorem SortedMap.keys_eq_of_contains {κ α β : Type} [Ord κ] [Std.TransOrd κ] [Std.LawfulEqOrd κ]
    {left : SortedMap κ α} {right : SortedMap κ β} (same : ∀ key, left.contains key = right.contains key) :
    left.keys = right.keys := by
  have members (key : κ) : key ∈ left.keys ↔ key ∈ right.keys := by
    rw [← contains_iff_mem_keys, ← contains_iff_mem_keys, same]
  have ascending {γ : Type} (map : SortedMap κ γ) :
      map.keys.Pairwise (fun before after => compare before after = .lt) :=
    List.pairwise_map.mpr map.ascending
  refine List.Perm.eq_of_pairwise (fun before after _ _ less more => ?_) (ascending left) (ascending right)
    ((List.perm_ext_iff_of_nodup (nodup_keys left) (nodup_keys right)).mpr members)
  rw [Std.OrientedCmp.gt_iff_lt.mpr more] at less
  cases less

namespace Metric

theorem exactSum_perm {terms others : List Metric} (same : terms.Perm others) : exactSum terms = exactSum others :=
  (same.filterMap number?).sum_nat

def summand? : Metric → Option Float
  | duration seconds => some seconds.toFloat
  | ratio share => some share.toFloat
  | _ => none

/-- The sum of floats from left to right, the first as it is. -/
def leftSum? : List Float → Option Float
  | [] => none
  | first :: rest => some (rest.foldl (· + ·) first)

theorem summand?_of_combine {left right sum : Metric} (added : left.combine right = some sum) {start : Float}
    (float : left.summand? = some start) : ∃ next, right.summand? = some next ∧ sum.summand? = some (start + next) := by
  cases left <;> cases right <;> cases added <;> cases float
  all_goals
    refine ⟨_, rfl, ?_⟩
    rw [summand?, Double.toFloat_add]

theorem summand?_foldl_absorb {total : Metric} {start : Float} (float : total.summand? = some start)
    (samples : List Metric) :
    ∃ grown, samples.foldl absorb (some total) = some grown ∧
      grown.summand? =
        some (((samples.filter (·.variant = total.variant)).filterMap summand?).foldl (· + ·) start) := by
  have additive : total.isAdditive := by cases total <;> first | rfl | cases float
  induction samples generalizing total start with
  | nil => exact ⟨total, rfl, float⟩
  | cons sample rest ih =>
    rw [List.foldl_cons]
    rcases absorb_cases additive sample with ⟨sum, same, added, absorbed, kept⟩ | ⟨other, absorbed⟩
    · obtain ⟨next, nextFloat, sumFloat⟩ := summand?_of_combine added float
      obtain ⟨grown, reached, all⟩ := ih sumFloat (by rw [isAdditive, kept]; exact additive)
      rw [kept] at all
      rw [absorbed, List.filter_cons_of_pos (by simpa using same), List.filterMap_cons_some nextFloat, List.foldl_cons]
      exact ⟨grown, reached, all⟩
    · rw [absorbed, List.filter_cons_of_neg (by simpa using other)]
      exact ih float additive

theorem summand?_isSome_of_variant {left right : Metric} (same : left.variant = right.variant) :
    left.summand?.isSome = right.summand?.isSome := by
  cases left <;> cases right <;> simp [variant, summand?] at same ⊢

theorem leftSum?_counted {first : Metric} {rest : List Metric} {total : Metric}
    (reached : (first :: rest).foldl absorb none = some total) (same : total.variant = first.variant) {sum : Float}
    (float : total.summand? = some sum) : leftSum? ((counted (first :: rest)).filterMap summand?) = some sum := by
  have some : first.summand?.isSome := by
    rw [← summand?_isSome_of_variant same, float]
    rfl
  obtain ⟨start, begun⟩ := Option.isSome_iff_exists.mp some
  obtain ⟨grown, reached', all⟩ := summand?_foldl_absorb begun rest
  cases reached'.symm.trans reached
  rw [counted, List.filterMap_cons_some begun, leftSum?, ← all, float]

/-- A total is what the values of the variant of the first one come to, from left to right. -/
structure SumOf (values : List Metric) (total : Metric) : Prop where
  additive : total.isAdditive
  variant : values.head?.map (·.variant) = some total.variant
  folded : ∃ first rest, values.filter (·.variant = total.variant) = first :: rest ∧
    rest.foldlM combine first = some total
  number : ∀ number, total.number? = some number →
    number = min (exactSum (values.filter (·.variant = total.variant))) Count.limit
  float : ∀ sum, total.summand? = some sum →
    leftSum? ((values.filter (·.variant = total.variant)).filterMap summand?) = some sum

theorem foldl_absorb_eq_foldlM {total : Metric} (additive : total.isAdditive) (values : List Metric) :
    values.foldl absorb (some total) = (values.filter (·.variant = total.variant)).foldlM combine total := by
  induction values generalizing total with
  | nil => rfl
  | cons value rest ih =>
    rw [List.foldl_cons]
    rcases absorb_cases additive value with ⟨sum, same, added, absorbed, kept⟩ | ⟨other, absorbed⟩
    · rw [absorbed, ih (by rw [isAdditive, kept]; exact additive), kept, List.filter_cons_of_pos (by simpa using same),
        List.foldlM_cons, added]
      rfl
    · rw [absorbed, ih additive, List.filter_cons_of_neg (by simpa using other)]

theorem sumOf_foldl_absorb {first : Metric} (additive : first.isAdditive) (rest : List Metric) :
    ∃ total, (first :: rest).foldl absorb none = some total ∧ SumOf (first :: rest) total := by
  obtain ⟨total, reached, same, grouping⟩ := grouping_counted additive rest
  have alike : counted (first :: rest) = (first :: rest).filter (·.variant = total.variant) := by
    rw [same, counted, List.filter_cons_of_pos (by simp)]
  refine ⟨total, reached, by rw [isAdditive, same]; exact additive, by rw [same]; rfl, ?_, ?_, ?_⟩
  · rw [← alike]
    refine ⟨_, _, rfl, ?_⟩
    rw [← foldl_absorb_eq_foldlM additive]
    exact reached
  · intro number counts
    rw [← alike]
    exact grouping.number? counts
  · intro sum float
    rw [← alike]
    exact leftSum?_counted reached same float

theorem foldl_absorb_cases {values : List Metric} (additive : ∀ value ∈ values, value.isAdditive) :
    values = [] ∧ values.foldl absorb none = none ∨
      values ≠ [] ∧ ∃ total, values.foldl absorb none = some total ∧ SumOf values total := by
  cases values with
  | nil => exact .inl ⟨rfl, rfl⟩
  | cons first rest => exact .inr ⟨List.cons_ne_nil _ _, sumOf_foldl_absorb (additive first List.mem_cons_self) rest⟩

end Metric

namespace DeviceTotals

/-- The values with a sum that the calls on a device have under a name, in the order of the calls. -/
def addends (calls : List CallRecord) (device : Device) (name : String) : List Metric :=
  (calls.filter (·.device = device)).flatMap (·.given name)

/-- What the total of a name on a device is: the sum of the values of one variant, which is that of the first. -/
structure Exact (calls : List CallRecord) (device : Device) (name : String) (total : Metric) : Prop where
  additive : total.isAdditive
  variant : some total.variant =
    if name = callsName then some .count else (addends calls device name).head?.map (·.variant)
  number : ∀ number, total.number? = some number →
    number = min (Metric.exactSum ((addends calls device name).filter (·.variant = total.variant)) +
      if name = callsName then calls.countP (·.device = device) else 0) Count.limit
  float : ∀ sum, total.summand? = some sum →
    Metric.leftSum? (((addends calls device name).filter (·.variant = total.variant)).filterMap Metric.summand?) =
      some sum

theorem mem_addends_iff {calls : List CallRecord} {device : Device} {name : String} {value : Metric} :
    value ∈ addends calls device name ↔
      ∃ call ∈ calls, call.device = device ∧ call.metric? name = some value ∧ value.isAdditive := by
  simp only [addends, List.mem_flatMap, List.mem_filter, CallRecord.given, Option.mem_toList,
    Option.filter_eq_some_iff, decide_eq_true_eq, and_assoc]

theorem samples_eq_addends (calls : List CallRecord) (device : Device) {name : String} (other : name ≠ callsName) :
    samples calls device name = addends calls device name :=
  Report.samples_eq_flatMap other

theorem exactSum_samples_callsName (calls : List CallRecord) (device : Device) :
    Metric.exactSum ((samples calls device callsName).filter (·.variant = .count)) =
      Metric.exactSum ((addends calls device callsName).filter (·.variant = .count)) +
        calls.countP (·.device = device) := by
  rw [samples, addends, List.countP_eq_length_filter]
  induction calls.filter (·.device = device) with
  | nil => rfl
  | cons call rest ih =>
    have own : (call.samples callsName).filter (·.variant = .count) =
        .count 1 :: (call.given callsName).filter (·.variant = .count) := by
      rw [CallRecord.samples, if_pos rfl]
      rfl
    have one : Metric.exactSum (.count 1 :: (call.given callsName).filter (·.variant = .count)) =
        1 + Metric.exactSum ((call.given callsName).filter (·.variant = .count)) := rfl
    simp only [List.flatMap_cons, List.filter_append, Metric.exactSum_append, own, one, ih, List.length_cons]
    omega

theorem isSome_total?_iff (calls : List CallRecord) (device : Device) (name : String) :
    ((ofCalls calls).total? device name).isSome ↔
      ∃ call ∈ calls, call.device = device ∧
        (name = callsName ∨ ∃ value, call.metric? name = some value ∧ value.isAdditive) := by
  rw [Option.isSome_iff_ne_none, Ne, total?_ofCalls_eq_none_iff]
  constructor
  · intro some
    obtain ⟨sample, member⟩ := List.exists_mem_of_ne_nil _ some
    obtain ⟨call, listed, -⟩ := List.mem_flatMap.mp member
    obtain ⟨listed, here⟩ := List.mem_filter.mp listed
    by_cases calls : name = callsName
    · exact ⟨call, listed, of_decide_eq_true here, .inl calls⟩
    · rw [samples_eq_addends _ _ calls] at member
      obtain ⟨call, listed, here, found, additive⟩ := mem_addends_iff.mp member
      exact ⟨call, listed, here, .inr ⟨sample, found, additive⟩⟩
  · rintro ⟨call, listed, here, adds⟩ nothing
    have none : call.samples name = [] :=
      List.flatMap_eq_nil_iff.mp nothing call (List.mem_filter.mpr ⟨listed, decide_eq_true here⟩)
    rw [CallRecord.samples, List.append_eq_nil_iff] at none
    rcases adds with rfl | ⟨value, found, additive⟩
    · cases none.1
    · rw [found, Option.filter_some_pos additive] at none
      cases none.2

theorem exact_total {calls : List CallRecord} {device : Device} {name : String} {total : Metric}
    (found : (ofCalls calls).total? device name = some total) : Exact calls device name total := by
  have additive : ∀ sample ∈ samples calls device name, sample.isAdditive :=
    fun sample member => isAdditive_of_mem_samples member
  rw [total?_ofCalls] at found
  rcases Metric.foldl_absorb_cases additive with ⟨-, nothing⟩ | ⟨-, known, reached, sum⟩
  · cases nothing.symm.trans found
  cases reached.symm.trans found
  by_cases calls : name = callsName
  · -- A call is counted before the value that it has under the same name, so this total is a count.
    subst calls
    obtain ⟨first, head, own⟩ := Option.map_eq_some_iff.mp sum.variant
    have same : Metric.Variant.count = total.variant := by rw [← own, head?_samples_callsName head]; rfl
    refine ⟨sum.additive, by rw [if_pos rfl, same], ?_, ?_⟩
    · intro number counted
      rw [sum.number number counted, ← same, if_pos rfl]
      exact congrArg (min · Count.limit) (exactSum_samples_callsName _ device)
    · intro sum float
      cases total with
      | count => cases float
      | _ => cases same
  · rw [samples_eq_addends _ _ calls] at sum
    refine ⟨sum.additive, by rw [if_neg calls, sum.variant], ?_, sum.float⟩
    intro number counted
    rw [if_neg calls, Nat.add_zero]
    exact sum.number number counted

/-- Whether the values with a sum that calls have under a name on a device are of one variant. -/
def Steady (calls : List CallRecord) : Prop :=
  ∀ device name, name ≠ callsName →
    ∀ value ∈ addends calls device name, ∀ other ∈ addends calls device name, value.variant = other.variant

theorem steady_of_variants {calls : List CallRecord} (variant : Device → String → Metric.Variant)
    (known : ∀ call ∈ calls, ∀ entry ∈ call.metrics.entries, entry.2.variant = variant call.device entry.1) :
    Steady calls := by
  intro device name _
  have alike : ∀ value ∈ addends calls device name, value.variant = variant device name := by
    intro value member
    obtain ⟨call, listed, here, found, -⟩ := mem_addends_iff.mp member
    rw [← here]
    exact known call listed (name, value) (SortedMap.mem_entries_iff.mpr found)
  intro value member other member'
  exact (alike value member).trans (alike other member').symm

/-- Totals with the same devices and names, the same kinds of values and the same counts. -/
structure SameButFloats (left right : DeviceTotals) : Prop where
  devices : left.keys = right.keys
  names : ∀ device, (left.get? device).map (·.keys) = (right.get? device).map (·.keys)
  variants : ∀ device name, (left.total? device name).map (·.variant) = (right.total? device name).map (·.variant)
  numbers : ∀ device name, (left.total? device name).bind (·.number?) = (right.total? device name).bind (·.number?)

section Order

variable {calls others : List CallRecord} (same : calls.Perm others)
include same

theorem addends_perm (device : Device) (name : String) :
    (addends calls device name).Perm (addends others device name) :=
  (same.filter _).flatMap_right _

theorem contains_ofCalls_perm (device : Device) :
    (ofCalls calls).contains device = (ofCalls others).contains device := by
  rw [Bool.eq_iff_iff, contains_ofCalls, contains_ofCalls]
  simp only [same.mem_iff]

theorem isSome_total?_perm (device : Device) (name : String) :
    ((ofCalls calls).total? device name).isSome = ((ofCalls others).total? device name).isSome := by
  rw [Bool.eq_iff_iff, isSome_total?_iff, isSome_total?_iff]
  simp only [same.mem_iff]

theorem Exact.variant_eq (steady : Steady calls) {device : Device} {name : String} {total total' : Metric}
    (exact : Exact calls device name total) (exact' : Exact others device name total') :
    total.variant = total'.variant := by
  have variant := exact.variant
  have variant' := exact'.variant
  by_cases calls : name = callsName
  · rw [if_pos calls] at variant variant'
    exact Option.some.inj (variant.trans variant'.symm)
  · rw [if_neg calls] at variant variant'
    obtain ⟨first, head, own⟩ := Option.map_eq_some_iff.mp variant.symm
    obtain ⟨first', head', own'⟩ := Option.map_eq_some_iff.mp variant'.symm
    have member := List.mem_of_head? head
    have member' := (addends_perm same device name).mem_iff.mpr (List.mem_of_head? head')
    rw [← own, ← own']
    exact steady device name calls first member first' member'

theorem Exact.number_eq (steady : Steady calls) {device : Device} {name : String} {total total' : Metric}
    (exact : Exact calls device name total) (exact' : Exact others device name total') :
    total.number? = total'.number? := by
  have alike := exact.variant_eq same steady exact'
  have counts := Metric.number?_isSome_of_variant alike
  cases counted : total.number? with
  | none =>
    rw [counted] at counts
    exact (Option.isNone_iff_eq_none.mp (Option.isSome_eq_false_iff.mp counts.symm)).symm
  | some number =>
    rw [counted] at counts
    obtain ⟨number', counted'⟩ := Option.isSome_iff_exists.mp counts.symm
    have sums : Metric.exactSum ((addends calls device name).filter (·.variant = total.variant)) =
        Metric.exactSum ((addends others device name).filter (·.variant = total.variant)) :=
      Metric.exactSum_perm ((addends_perm same device name).filter _)
    rw [counted', exact.number number counted, exact'.number number' counted', sums, alike, same.countP_eq]

theorem total?_perm (steady : Steady calls) (device : Device) (name : String) :
    Option.Rel (fun total total' => total.variant = total'.variant ∧ total.number? = total'.number?)
      ((ofCalls calls).total? device name) ((ofCalls others).total? device name) := by
  have present := isSome_total?_perm same device name
  cases left : (ofCalls calls).total? device name with
  | none =>
    rw [left] at present
    rw [Option.isNone_iff_eq_none.mp (Option.isSome_eq_false_iff.mp present.symm)]
    exact .none
  | some total =>
    rw [left] at present
    obtain ⟨total', right⟩ := Option.isSome_iff_exists.mp present.symm
    rw [right]
    have exact := exact_total left
    have exact' := exact_total right
    exact .some ⟨exact.variant_eq same steady exact', exact.number_eq same steady exact'⟩

theorem keys_perm (device : Device) :
    ((ofCalls calls).get? device).map (·.keys) = ((ofCalls others).get? device).map (·.keys) := by
  have names := isSome_total?_perm same device
  have both := contains_ofCalls_perm same device
  simp only [total?, SortedMap.contains] at names both
  cases left : (ofCalls calls).get? device with
  | none =>
    rw [left] at both
    rw [Option.isNone_iff_eq_none.mp (Option.isSome_eq_false_iff.mp both.symm)]
  | some metrics =>
    rw [left] at names both
    obtain ⟨metrics', right⟩ := Option.isSome_iff_exists.mp both.symm
    rw [right] at names ⊢
    exact congrArg some (SortedMap.keys_eq_of_contains names)

theorem sameButFloats (steady : Steady calls) : SameButFloats (ofCalls calls) (ofCalls others) := by
  refine ⟨SortedMap.keys_eq_of_contains (contains_ofCalls_perm same), keys_perm same, ?_, ?_⟩
  all_goals
    intro device name
    have alike := total?_perm same steady device name
    generalize (ofCalls calls).total? device name = left at alike ⊢
    generalize (ofCalls others).total? device name = right at alike ⊢
  · cases alike with
    | none => rfl
    | some alike => exact congrArg some alike.1
  · cases alike with
    | none => rfl
    | some alike => exact alike.2

end Order

/--
The totals of the devices, for any list of calls: which devices and names there are, what the total of each is, and
that they do not depend on the order of the calls if no name changes its variant, but for the rounding of floats.
-/
theorem totals_are_exact (calls : List CallRecord) :
    (ofCalls calls).keys.Nodup ∧
      (∀ device, device ∈ (ofCalls calls).keys ↔ ∃ call ∈ calls, call.device = device) ∧
      (∀ device name, ((ofCalls calls).total? device name).isSome ↔
        ∃ call ∈ calls, call.device = device ∧
          (name = callsName ∨ ∃ value, call.metric? name = some value ∧ value.isAdditive)) ∧
      (∀ device name total, (ofCalls calls).total? device name = some total → Exact calls device name total) ∧
      ∀ others, calls.Perm others → Steady calls → SameButFloats (ofCalls calls) (ofCalls others) := by
  refine ⟨SortedMap.nodup_keys _, ?_, isSome_total?_iff calls, ?_, ?_⟩
  · intro device
    rw [← SortedMap.contains_iff_mem_keys, contains_ofCalls]
  · intro device name total found
    exact exact_total found
  · intro others same steady
    exact sameButFloats same steady

def reading (cycles : Count) : CallRecord :=
  { name := "step", device := .cpu 0, depth := 1, metrics := .ofList [("cycles", .count cycles)] }

theorem totals_are_exact_reordered :
    Exact [reading 3, reading Count.limit.toUInt64] (.cpu 0) "cycles" (.count Count.limit.toUInt64) ∧
      SameButFloats (ofCalls [reading 3, reading Count.limit.toUInt64])
        (ofCalls [reading Count.limit.toUInt64, reading 3]) := by
  obtain ⟨-, -, -, exact, order⟩ := totals_are_exact [reading 3, reading Count.limit.toUInt64]
  refine ⟨exact (.cpu 0) "cycles" _ (by decide +kernel), order _ (.swap _ _ []) ?_⟩
  exact steady_of_variants (fun _ _ => .count) (by decide +kernel)

end DeviceTotals

end CallProfile
