import CallProfile.Proofs.Failure
import CallProfile.Proofs.Report.DeviceTotals

namespace CallProfile

namespace Count

theorem add_comm (left right : Count) : left.add right = right.add left := by
  apply UInt64.toNat_inj.mp
  rw [toNat_add, toNat_add, Nat.add_comm]

theorem add_assoc (left middle right : Count) : (left.add middle).add right = left.add (middle.add right) := by
  apply UInt64.toNat_inj.mp
  simp only [toNat_add]
  omega

end Count

namespace Metric

theorem isSome_combine_comm (left right : Metric) : (left.combine right).isSome = (right.combine left).isSome := by
  rw [Bool.eq_iff_iff, combine_isSome_iff, combine_isSome_iff, eq_comm]
  refine and_congr_right fun same => ?_
  rw [isAdditive, isAdditive, same]

theorem isSome_combine_left_iff (left middle right : Metric) :
    ((left.combine middle).bind (·.combine right)).isSome ↔ Summable [left, middle, right] := by
  cases joined : left.combine middle with
  | some part => exact Grouping.combine_isSome_iff (.pair (.single left) (.single middle) joined) (.single right)
  | none =>
    refine iff_of_false Bool.false_ne_true fun summable => ?_
    have pair := (Grouping.combine_isSome_iff (.single left) (.single middle)).mpr (Summable.left summable)
    rw [joined] at pair
    cases pair

theorem isSome_combine_right_iff (left middle right : Metric) :
    ((middle.combine right).bind left.combine).isSome ↔ Summable [left, middle, right] := by
  cases joined : middle.combine right with
  | some part => exact Grouping.combine_isSome_iff (.single left) (.pair (.single middle) (.single right) joined)
  | none =>
    refine iff_of_false Bool.false_ne_true fun summable => ?_
    have pair := (Grouping.combine_isSome_iff (.single middle) (.single right)).mpr (@Summable.right [left] _ summable)
    rw [joined] at pair
    cases pair

theorem isSome_combine_assoc (left middle right : Metric) :
    ((left.combine middle).bind (·.combine right)).isSome = ((middle.combine right).bind left.combine).isSome := by
  rw [Bool.eq_iff_iff, isSome_combine_left_iff, isSome_combine_right_iff]

theorem exists_combine_iff (metric : Metric) : (∃ other sum, metric.combine other = some sum) ↔ metric.isAdditive := by
  constructor
  · rintro ⟨other, sum, added⟩
    exact ((combine_isSome_iff metric other).mp (Option.isSome_of_eq_some added)).2
  · intro additive
    have twice := (combine_isSome_iff metric metric).mpr ⟨rfl, additive⟩
    exact ⟨metric, Option.isSome_iff_exists.mp twice⟩

section Counts

variable {left : Metric} (counts : left.number?.isSome)
include counts

theorem combine_comm (right : Metric) : left.combine right = right.combine left := by
  cases left with
  | count number =>
    cases right with
    | count number' => exact congrArg (some ∘ count) (Count.add_comm number number')
    | _ => rfl
  | bytes number =>
    cases right with
    | bytes number' => exact congrArg (some ∘ bytes) (Count.add_comm number number')
    | _ => rfl
  | _ => cases counts

theorem combine_assoc (middle right : Metric) :
    (left.combine middle).bind (·.combine right) = (middle.combine right).bind left.combine := by
  cases left with
  | count number =>
    cases middle with
    | count number' =>
      cases right with
      | count number'' => exact congrArg (some ∘ count) (Count.add_assoc number number' number'')
      | _ => rfl
    | _ => cases right <;> rfl
  | bytes number =>
    cases middle with
    | bytes number' =>
      cases right with
      | bytes number'' => exact congrArg (some ∘ bytes) (Count.add_assoc number number' number'')
      | _ => rfl
    | _ => cases right <;> rfl
  | _ => cases counts

end Counts

theorem Grouping.number?_eq {terms : List Metric} {sum : Metric} (grouping : Grouping terms sum) {term : Metric}
    (member : term ∈ terms) (counts : term.number?.isSome) :
    sum.number? = some (min (exactSum terms) Count.limit) := by
  rw [number?_isSome_of_variant (grouping.variant term member)] at counts
  obtain ⟨number, counted⟩ := Option.isSome_iff_exists.mp counts
  rw [counted, grouping.number? counted]

/-- How values add up, under whatever name. -/
structure AddsUp (left middle right : Metric) : Prop where
  named : ∀ name sum, left.combineUnder name right = .ok sum ↔ left.combine right = some sum
  exchanged : (left.combine right).isSome = (right.combine left).isSome
  partnered : (∃ other sum, left.combine other = some sum) ↔ left.isAdditive
  regrouped : ((left.combine middle).bind (·.combine right)).isSome = ((middle.combine right).bind left.combine).isSome
  variant : ∀ sum, left.combine right = some sum → sum.variant = left.variant
  commutes : left.number?.isSome → left.combine right = right.combine left
  associates : left.number?.isSome →
    (left.combine middle).bind (·.combine right) = (middle.combine right).bind left.combine
  two : left.number?.isSome → ∀ sum, left.combine right = some sum →
    sum.number? = some (min (exactSum [left, right]) Count.limit)
  three : left.number?.isSome → ∀ sum, (left.combine middle).bind (·.combine right) = some sum →
    sum.number? = some (min (exactSum [left, middle, right]) Count.limit)

theorem addsUp (left middle right : Metric) : AddsUp left middle right where
  named name sum := combineUnder_eq_ok
  exchanged := isSome_combine_comm left right
  partnered := exists_combine_iff left
  regrouped := isSome_combine_assoc left middle right
  variant sum added := variant_of_combine added
  commutes counts := combine_comm counts right
  associates counts := combine_assoc counts middle right
  two counts sum added := by
    have grouping : Grouping [left, right] sum := .pair (.single left) (.single right) added
    exact grouping.number?_eq List.mem_cons_self counts
  three counts sum added := by
    obtain ⟨part, first, second⟩ := Option.bind_eq_some_iff.mp added
    have grouping : Grouping [left, middle, right] sum :=
      .pair (.pair (.single left) (.single middle) first) (.single right) second
    exact grouping.number?_eq List.mem_cons_self counts

theorem number?_isSome_iff (metric : Metric) :
    metric.number?.isSome ↔ metric.variant = .count ∨ metric.variant = .bytes := by
  cases metric <;> simp [number?, variant]

theorem isAdditive_of_counts {metric : Metric} (counts : metric.number?.isSome) : metric.isAdditive := by
  rw [isAdditive]
  rcases (number?_isSome_iff metric).mp counts with same | same <;> rw [same] <;> rfl

theorem absorb_of_combine {total sample sum : Metric} (added : total.combine sample = some sum) :
    absorb (some total) sample = some sum := by
  rw [absorb, added]
  rfl

theorem absorb_of_apart {total sample : Metric} (apart : total.variant ≠ sample.variant) :
    absorb (some total) sample = some total := by
  rw [absorb, (combine_eq_none_iff total sample).mpr fun both => apart both.1]
  rfl

theorem exists_combine_of_counts {left right : Metric} (counts : left.number?.isSome)
    (same : left.variant = right.variant) : ∃ sum, left.combine right = some sum :=
  Option.isSome_iff_exists.mp ((combine_isSome_iff left right).mpr ⟨same, isAdditive_of_counts counts⟩)

theorem absorb_right_comm {first second : Metric} (counts : first.number?.isSome)
    (same : first.variant = second.variant) (total : Option Metric) :
    absorb (absorb total first) second = absorb (absorb total second) first := by
  obtain ⟨both, joined⟩ := exists_combine_of_counts counts same
  have joined' : second.combine first = some both := combine_comm counts second ▸ joined
  cases total with
  | none => exact (absorb_of_combine joined).trans (absorb_of_combine joined').symm
  | some total =>
    by_cases fits : total.variant = first.variant
    · have counted : total.number?.isSome := by rw [number?_isSome_of_variant fits]; exact counts
      obtain ⟨one, added⟩ := exists_combine_of_counts counted fits
      obtain ⟨other, added'⟩ := exists_combine_of_counts counted (fits.trans same)
      have left := combine_assoc counted first second
      have right := combine_assoc counted second first
      rw [added, joined, Option.bind_some, Option.bind_some] at left
      rw [added', joined', Option.bind_some, Option.bind_some, ← left] at right
      have part : one.number?.isSome := by rw [number?_isSome_of_variant (variant_of_combine added)]; exact counted
      obtain ⟨sum, all⟩ := exists_combine_of_counts part ((variant_of_combine added).trans (fits.trans same))
      rw [absorb_of_combine added, absorb_of_combine added', absorb_of_combine all, absorb_of_combine (right.trans all)]
    · have other : total.variant ≠ second.variant := fun here => fits (here.trans same.symm)
      rw [absorb_of_apart fits, absorb_of_apart other, absorb_of_apart fits]

theorem foldl_absorb_perm {values others : List Metric} (same : values.Perm others) {variant : Variant}
    (counts : variant = .count ∨ variant = .bytes) (alike : ∀ value ∈ values, value.variant = variant)
    (total : Option Metric) : values.foldl absorb total = others.foldl absorb total := by
  refine same.foldl_eq' (fun first member second member' total => ?_) total
  refine absorb_right_comm ?_ ((alike first member).trans (alike second member').symm) total
  rw [number?_isSome_iff, alike first member]
  exact counts

theorem variant_of_joinUnder {name : String} {total : Option Metric} {value sum : Metric}
    (joined : joinUnder name total value = .ok sum) : sum.variant = value.variant := by
  cases total with
  | none => cases joined; rfl
  | some total =>
    have added := combineUnder_eq_ok.mp joined
    exact (variant_of_combine added).trans ((combine_isSome_iff total value).mp (Option.isSome_of_eq_some added)).1

end Metric

namespace MetricMap

abbrev InPlace (α : Type) := ExceptT MetricClash (StateM MetricMap) α

def InPlace.on {α : Type} (work : InPlace α) (totals : MetricMap) : Except MetricClash α × MetricMap :=
  work.run.run totals

def settle (name : String) (value : Metric) : Option Metric → InPlace Unit
  | none => modify (·.insert name value)
  | some total => do
    let sum ← MonadExcept.ofExcept (total.combineUnder name value)
    modify (·.insert name sum)

/-- Adds a value to the total of its name in place. -/
def accumulateInPlace (name : String) (value : Metric) : InPlace Unit := do settle name value ((← get).get? name)

theorem accumulateInPlace_on (totals : MetricMap) (name : String) (value : Metric) :
    (accumulateInPlace name value).on totals =
      match MetricMap.accumulate totals name value with
      | .ok after => (.ok (), after)
      | .error clash => (.error clash, totals) := by
  have opened : (accumulateInPlace name value).on totals = (settle name value (totals.get? name)).on totals := rfl
  rw [opened, accumulate]
  cases totals.get? name with
  | none => rfl
  | some total =>
    rw [settle]
    dsimp only
    cases total.combineUnder name value with
    | error clash => rfl
    | ok sum => rfl

theorem accumulateInPlace_snd (totals : MetricMap) (name : String) (value : Metric) :
    ((accumulateInPlace name value).on totals).2 = totals.accumulateOrSkip name value := by
  rw [accumulateInPlace_on, accumulateOrSkip]
  cases MetricMap.accumulate totals name value <;> rfl

/-- A value is taken in whole or not at all, and under its own name only. -/
structure TakesWhole (totals : MetricMap) (name : String) (value : Metric) : Prop where
  others : ∀ other, other ≠ name → ((accumulateInPlace name value).on totals).2.get? other = totals.get? other
  failed : ∀ clash, ((accumulateInPlace name value).on totals).1 = .error clash →
    ((accumulateInPlace name value).on totals).2 = totals ∧ MetricMap.accumulate totals name value = .error clash
  done : ((accumulateInPlace name value).on totals).1 = .ok () →
    MetricMap.accumulate totals name value = .ok ((accumulateInPlace name value).on totals).2

theorem takesWhole (totals : MetricMap) (name : String) (value : Metric) : TakesWhole totals name value := by
  constructor
  · intro other apart
    rw [accumulateInPlace_snd, get?_accumulateOrSkip, if_neg apart]
  all_goals
    rw [accumulateInPlace_on]
    cases MetricMap.accumulate totals name value with
    | error clash => simp
    | ok after => simp

/-- Adds values one after the other, up to the first clash. -/
def accumulateAll (totals : MetricMap) (values : List (String × Metric)) : Except MetricClash MetricMap :=
  values.foldlM (fun totals entry => MetricMap.accumulate totals entry.1 entry.2) totals

/-- Adds values one after the other, without those that clash. -/
def accumulateFitting (totals : MetricMap) (values : List (String × Metric)) : MetricMap :=
  values.foldl (fun totals entry => accumulateOrSkip totals entry.1 entry.2) totals

def under (values : List (String × Metric)) (name : String) : List Metric :=
  (values.filter (·.1 = name)).map (·.2)

theorem under_cons (entry : String × Metric) (rest : List (String × Metric)) (name : String) :
    under (entry :: rest) name = if entry.1 = name then entry.2 :: under rest name else under rest name := by
  rw [under, List.filter_cons]
  by_cases here : entry.1 = name <;> simp [here, under]

theorem under_perm {values others : List (String × Metric)} (same : values.Perm others) (name : String) :
    (under values name).Perm (under others name) := (same.filter _).map _

theorem mem_under_iff {values : List (String × Metric)} {name : String} {value : Metric} :
    value ∈ under values name ↔ (name, value) ∈ values := by
  simp [under]

theorem get?_accumulateFitting (totals : MetricMap) (values : List (String × Metric)) (name : String) :
    (accumulateFitting totals values).get? name = (under values name).foldl Metric.absorb (totals.get? name) := by
  induction values generalizing totals with
  | nil => rfl
  | cons entry rest ih =>
    rw [accumulateFitting, List.foldl_cons, ← accumulateFitting, ih, get?_accumulateOrSkip, under_cons]
    by_cases here : entry.1 = name
    · rw [if_pos here, if_pos here.symm, List.foldl_cons, here]
    · rw [if_neg here, if_neg (Ne.symm here)]

theorem accumulateAll_cons_eq_ok_iff {totals after : MetricMap} {entry : String × Metric}
    {rest : List (String × Metric)} : accumulateAll totals (entry :: rest) = .ok after ↔
      ∃ middle, MetricMap.accumulate totals entry.1 entry.2 = .ok middle ∧ accumulateAll middle rest = .ok after := by
  rw [accumulateAll, List.foldlM_cons]
  constructor
  · exact bind_eq_ok
  · rintro ⟨middle, here, later⟩
    rw [here]
    exact later

theorem accumulateFitting_eq {totals after : MetricMap} {values : List (String × Metric)}
    (done : accumulateAll totals values = .ok after) : accumulateFitting totals values = after := by
  induction values generalizing totals with
  | nil => cases done; rfl
  | cons entry rest ih =>
    obtain ⟨middle, here, later⟩ := accumulateAll_cons_eq_ok_iff.mp done
    have first : accumulateOrSkip totals entry.1 entry.2 = middle := by rw [accumulateOrSkip, here]
    rw [accumulateFitting, List.foldl_cons, first]
    exact ih later

theorem exists_accumulate_iff {value : Metric} (additive : value.isAdditive) (totals : MetricMap) (name : String) :
    (∃ after, MetricMap.accumulate totals name value = .ok after) ↔
      ∀ kind, (totals.get? name).map (·.variant) = some kind → kind = value.variant := by
  rw [accumulate_eq_map_joinUnder]
  cases totals.get? name with
  | none => simp [Metric.joinUnder, Except.map]
  | some total =>
    have joins : (total.combine value).isSome ↔ total.variant = value.variant := by
      rw [Metric.combine_isSome_iff]
      refine and_iff_left_of_imp fun same => ?_
      rw [Metric.isAdditive, same]
      exact additive
    simp only [Metric.joinUnder, Metric.combineUnder, Option.map_some, Option.some.injEq, forall_eq', ← joins]
    cases total.combine value with
    | none => simp [Except.map]
    | some sum => simp [Except.map]

theorem variant_accumulate {totals after : MetricMap} {name : String} {value : Metric}
    (done : MetricMap.accumulate totals name value = .ok after) (other : String) :
    (after.get? other).map (·.variant) =
      if other = name then some value.variant else (totals.get? other).map (·.variant) := by
  rw [accumulate_eq_map_joinUnder] at done
  cases joined : Metric.joinUnder name (totals.get? name) value with
  | error => rw [joined] at done; cases done
  | ok sum =>
    rw [joined] at done
    cases done
    rw [SortedMap.get?_insert]
    split
    next => exact congrArg some (Metric.variant_of_joinUnder joined)
    next => rfl

section Counts

variable {variant : Metric.Variant} (counts : variant = .count ∨ variant = .bytes) {values : List (String × Metric)}
  (alike : ∀ entry ∈ values, entry.2.variant = variant)
include counts alike

theorem exists_accumulateAll_iff (totals : MetricMap) : (∃ after, accumulateAll totals values = .ok after) ↔
    ∀ entry ∈ values, ∀ kind, (totals.get? entry.1).map (·.variant) = some kind → kind = variant := by
  induction values generalizing totals with
  | nil => simp [accumulateAll, pure, Except.pure]
  | cons entry rest ih =>
    obtain ⟨own, others⟩ := List.forall_mem_cons.mp alike
    have additive := Metric.isAdditive_of_counts ((Metric.number?_isSome_iff entry.2).mpr (own ▸ counts))
    have takes := exists_accumulate_iff additive totals entry.1
    constructor
    · rintro ⟨after, done⟩
      obtain ⟨middle, here, later⟩ := accumulateAll_cons_eq_ok_iff.mp done
      intro other member kind known
      by_cases same : other.1 = entry.1
      · rw [same] at known
        exact (takes.mp ⟨middle, here⟩ kind known).trans own
      · rcases List.mem_cons.mp member with rfl | member
        · exact absurd rfl same
        · refine (ih others middle).mp ⟨after, later⟩ other member kind ?_
          rw [variant_accumulate here, if_neg same, known]
    · intro fits
      obtain ⟨middle, here⟩ := takes.mpr fun kind known => (fits entry List.mem_cons_self kind known).trans own.symm
      have later : ∃ after, accumulateAll middle rest = .ok after := by
        refine (ih others middle).mpr fun other member kind known => ?_
        rw [variant_accumulate here] at known
        split at known
        · cases known
          exact own
        · exact fits other (List.mem_cons_of_mem _ member) kind known
      obtain ⟨after, done⟩ := later
      exact ⟨after, accumulateAll_cons_eq_ok_iff.mpr ⟨middle, here, done⟩⟩

theorem number?_accumulateAll {totals after : MetricMap} (done : accumulateAll totals values = .ok after)
    {name : String} (listed : under values name ≠ []) : ∃ total,
      after.get? name = some total ∧ total.variant = variant ∧
        total.number? = some (min (Metric.exactSum ((totals.get? name).toList ++ under values name)) Count.limit) := by
  have reached : after.get? name = ((totals.get? name).toList ++ under values name).foldl Metric.absorb none := by
    rw [← accumulateFitting_eq done, get?_accumulateFitting, List.foldl_append]
    cases totals.get? name <;> rfl
  have fits := (exists_accumulateAll_iff counts alike totals).mp ⟨after, done⟩
  have terms : ∀ term ∈ (totals.get? name).toList ++ under values name, term.variant = variant := by
    intro term member
    rcases List.mem_append.mp member with member | member
    · obtain ⟨value, other⟩ := List.exists_mem_of_ne_nil _ listed
      refine fits (name, value) (mem_under_iff.mp other) term.variant ?_
      rw [Option.mem_toList.mp member, Option.map_some]
    · exact alike (name, term) (mem_under_iff.mp member)
  obtain ⟨first, rest, split⟩ := List.exists_cons_of_ne_nil (List.append_ne_nil_of_right_ne_nil _ listed)
  rw [split] at reached terms ⊢
  have own := terms first List.mem_cons_self
  have counted : first.number?.isSome := (Metric.number?_isSome_iff first).mpr (own ▸ counts)
  obtain ⟨total, folded, same, grouping⟩ := Metric.grouping_counted (Metric.isAdditive_of_counts counted) rest
  have all : Metric.counted (first :: rest) = first :: rest := by
    refine congrArg (first :: ·) (List.filter_eq_self.mpr fun term member => decide_eq_true ?_)
    exact (terms term (List.mem_cons_of_mem _ member)).trans own.symm
  rw [all] at grouping
  exact ⟨total, reached.trans folded, same.trans own, grouping.number?_eq List.mem_cons_self counted⟩

theorem accumulateFitting_perm {others : List (String × Metric)} (same : values.Perm others) (totals : MetricMap) :
    accumulateFitting totals values = accumulateFitting totals others := by
  refine SortedMap.ext_get? fun name => ?_
  rw [get?_accumulateFitting, get?_accumulateFitting]
  exact Metric.foldl_absorb_perm (under_perm same name) counts (fun value member => alike _ (mem_under_iff.mp member)) _

theorem accumulateAll_perm {others : List (String × Metric)} (same : values.Perm others) (totals : MetricMap) :
    (accumulateAll totals values).toOption = (accumulateAll totals others).toOption := by
  have succeeds := exists_accumulateAll_iff counts alike totals
  have succeeds' := exists_accumulateAll_iff counts (fun entry member => alike entry (same.mem_iff.mpr member)) totals
  simp only [same.mem_iff, ← succeeds'] at succeeds
  cases done : accumulateAll totals values with
  | error clash =>
    cases done' : accumulateAll totals others with
    | error clash' => rfl
    | ok after =>
      obtain ⟨after', done''⟩ := succeeds.mpr ⟨after, done'⟩
      cases done.symm.trans done''
  | ok after =>
    obtain ⟨after', done'⟩ := succeeds.mp ⟨after, done⟩
    have fitting := accumulateFitting_perm counts alike same totals
    rw [accumulateFitting_eq done, accumulateFitting_eq done'] at fitting
    rw [done', fitting]

end Counts

/-- What adding counts of one variant to a map comes to. -/
structure SumsCounts (variant : Metric.Variant) (values : List (String × Metric)) (totals : MetricMap) : Prop where
  succeeds : (∃ after, accumulateAll totals values = .ok after) ↔
    ∀ entry ∈ values, ∀ kind, (totals.get? entry.1).map (·.variant) = some kind → kind = variant
  untouched : ∀ after, accumulateAll totals values = .ok after →
    ∀ name, under values name = [] → after.get? name = totals.get? name
  sums : ∀ after, accumulateAll totals values = .ok after → ∀ name, under values name ≠ [] →
    ∃ total, after.get? name = some total ∧ total.variant = variant ∧
      total.number? = some (min (Metric.exactSum ((totals.get? name).toList ++ under values name)) Count.limit)
  reordered : ∀ others, values.Perm others →
    (accumulateAll totals values).toOption = (accumulateAll totals others).toOption ∧
      accumulateFitting totals values = accumulateFitting totals others

theorem sumsCounts {variant : Metric.Variant} (counts : variant = .count ∨ variant = .bytes)
    {values : List (String × Metric)} (alike : ∀ entry ∈ values, entry.2.variant = variant) (totals : MetricMap) :
    SumsCounts variant values totals where
  succeeds := exists_accumulateAll_iff counts alike totals
  untouched after done name nothing := by
    rw [← accumulateFitting_eq done, get?_accumulateFitting, nothing, List.foldl_nil]
  sums after done name listed := number?_accumulateAll counts alike done listed
  reordered others same :=
    ⟨accumulateAll_perm counts alike same totals, accumulateFitting_perm counts alike same totals⟩

/--
Sums of values, of which counts may be grouped and ordered freely; a map takes a value in whole or not at all; and
counts of one variant make the same map in whatever order they are added.
-/
theorem sums_are_order_free :
    (∀ left middle right, Metric.AddsUp left middle right) ∧
      (∀ totals name value, TakesWhole totals name value) ∧
      ∀ variant, variant = .count ∨ variant = .bytes → ∀ values, (∀ entry ∈ values, entry.2.variant = variant) →
        ∀ totals, SumsCounts variant values totals :=
  ⟨Metric.addsUp, takesWhole, fun _ counts _ alike totals => sumsCounts counts alike totals⟩

def readings : List (String × Metric) :=
  [("cycles", .count 5), ("faults", .count 3), ("cycles", .count Count.limit.toUInt64)]

theorem sums_are_order_free_full :
    let totals : MetricMap := .ofList [("cycles", .count 1), ("note", .text "warm")]
    (accumulateAll totals readings).toOption = (accumulateAll totals readings.reverse).toOption ∧
      ∃ after, accumulateAll totals readings = .ok after ∧
        ∃ total, after.get? "cycles" = some total ∧ total.variant = .count ∧ total.number? = some Count.limit := by
  intro totals
  obtain ⟨-, -, all⟩ := sums_are_order_free
  have sums := all .count (.inl rfl) readings (by decide +kernel) totals
  obtain ⟨after, done⟩ : ∃ after, accumulateAll totals readings = .ok after := ⟨_, rfl⟩
  have full := sums.sums after done "cycles" (by decide +kernel)
  exact ⟨(sums.reordered _ (List.reverse_perm _).symm).1, after, done, full⟩

end MetricMap

end CallProfile
