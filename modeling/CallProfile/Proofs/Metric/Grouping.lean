import CallProfile.Metric

namespace CallProfile.Metric

def number? : Metric → Option Nat
  | count number => some number.toNat
  | bytes number => some number.toNat
  | _ => none

/-- The exact sum of what the metrics count. -/
def exactSum (terms : List Metric) : Nat := (terms.filterMap number?).foldr (· + ·) 0

/-- Whether metrics have a sum: one alone is its own, several need one additive variant. -/
def Summable (terms : List Metric) : Prop :=
  2 ≤ terms.length → ∃ variant : Variant, variant.isAdditive ∧ ∀ term ∈ terms, term.variant = variant

theorem Summable.left {front back : List Metric} (summable : Summable (front ++ back)) : Summable front := by
  intro several
  obtain ⟨variant, additive, all⟩ := summable (by rw [List.length_append]; omega)
  exact ⟨variant, additive, fun term member => all term (List.mem_append_left _ member)⟩

theorem Summable.right {front back : List Metric} (summable : Summable (front ++ back)) : Summable back := by
  intro several
  obtain ⟨variant, additive, all⟩ := summable (by rw [List.length_append]; omega)
  exact ⟨variant, additive, fun term member => all term (List.mem_append_right _ member)⟩

/-- The sum of the terms in one of its groupings. -/
inductive Grouping : List Metric → Metric → Prop where
  | single (term : Metric) : Grouping [term] term
  | pair {front back : List Metric} {left right sum : Metric} (first : Grouping front left)
      (second : Grouping back right) (added : left.combine right = some sum) : Grouping (front ++ back) sum

theorem combine_eq_none_iff (left right : Metric) :
    left.combine right = none ↔ ¬ (left.variant = right.variant ∧ left.isAdditive) := by
  rw [← combine_isSome_iff, Option.not_isSome_iff_eq_none]

theorem number?_of_combine {left right sum : Metric} (added : left.combine right = some sum) {total : Nat}
    (counted : sum.number? = some total) :
    ∃ first second, left.number? = some first ∧ right.number? = some second ∧
      total = min (first + second) Count.limit := by
  cases left <;> cases right <;> simp only [combine, Option.some.injEq, reduceCtorEq] at added <;> subst added <;>
    simp only [number?, Option.some.injEq, reduceCtorEq] at counted <;> subst counted
  all_goals exact ⟨_, _, rfl, rfl, Count.toNat_add _ _⟩

theorem number?_isSome_of_variant {left right : Metric} (same : left.variant = right.variant) :
    left.number?.isSome = right.number?.isSome := by
  cases left <;> cases right <;> first | rfl | cases same

theorem exactSum_append (front back : List Metric) : exactSum (front ++ back) = exactSum front + exactSum back := by
  induction front with
  | nil => simp [exactSum]
  | cons term rest ih =>
    simp only [exactSum, List.cons_append, List.filterMap_cons] at ih ⊢
    cases term.number? with
    | none => exact ih
    | some number =>
      simp only [List.foldr_cons]
      omega

theorem eq_of_number? {left right : Metric} (same : left.variant = right.variant) {total : Nat}
    (first : left.number? = some total) (second : right.number? = some total) : left = right := by
  have equal {number number' : Count} (first : some number.toNat = some total)
      (second : some number'.toNat = some total) : number = number' :=
    UInt64.toNat_inj.mp (Option.some.inj (first.trans second.symm))
  cases left with
  | count number =>
    cases right with
    | count number' => rw [equal first second]
    | _ => cases same
  | bytes number =>
    cases right with
    | bytes number' => rw [equal first second]
    | _ => cases same
  | _ => cases first

namespace Grouping

variable {terms : List Metric} {sum : Metric}

theorem ne_nil (grouping : Grouping terms sum) : terms ≠ [] := by
  induction grouping with
  | single => exact List.cons_ne_nil _ _
  | pair _ _ _ first => simp [first]

theorem variant (grouping : Grouping terms sum) : ∀ term ∈ terms, term.variant = sum.variant := by
  induction grouping with
  | single term =>
    intro other member
    rw [List.mem_singleton.mp member]
  | pair _ _ added first second =>
    intro term member
    have alike := ((combine_isSome_iff _ _).mp (Option.isSome_of_eq_some added)).1
    rw [variant_of_combine added]
    rcases List.mem_append.mp member with member | member
    · exact first term member
    · exact (second term member).trans alike.symm

theorem additive (grouping : Grouping terms sum) (several : 2 ≤ terms.length) : sum.isAdditive := by
  cases grouping with
  | single => simp at several
  | pair _ _ added =>
    rw [isAdditive, variant_of_combine added]
    exact ((combine_isSome_iff _ _).mp (Option.isSome_of_eq_some added)).2

theorem summable (grouping : Grouping terms sum) : Summable terms :=
  fun several => ⟨sum.variant, grouping.additive several, grouping.variant⟩

theorem eq_of_single {only : Metric} (grouping : Grouping [only] sum) : sum = only := by
  generalize same : [only] = terms at grouping
  cases grouping with
  | single => exact (List.singleton_inj.mp same).symm
  | pair first second =>
    have lengths := congrArg List.length same
    have := List.length_pos_iff.mpr first.ne_nil
    have := List.length_pos_iff.mpr second.ne_nil
    simp only [List.length_singleton, List.length_append] at lengths
    omega

/-- Cutting off along the way comes to the same as cutting off once, at the end. -/
theorem number? (grouping : Grouping terms sum) {total : Nat} (counted : sum.number? = some total) :
    total = min (exactSum terms) Count.limit := by
  induction grouping generalizing total with
  | single term =>
    have small : total ≤ Count.limit := by
      cases term <;> simp only [Metric.number?, Option.some.injEq, reduceCtorEq] at counted <;> subst counted <;>
        exact Count.toNat_le_limit _
    simp only [exactSum, List.filterMap_cons, counted, List.filterMap_nil, List.foldr_cons, List.foldr_nil]
    omega
  | pair _ _ added first second =>
    obtain ⟨left, right, leftCounted, rightCounted, sum⟩ := number?_of_combine added counted
    have left := first leftCounted
    have right := second rightCounted
    rw [exactSum_append]
    omega

theorem combine_isSome_iff {front back : List Metric} {left right : Metric} (first : Grouping front left)
    (second : Grouping back right) : (left.combine right).isSome ↔ Summable (front ++ back) := by
  rw [Metric.combine_isSome_iff]
  constructor
  · rintro ⟨same, additive⟩ -
    refine ⟨left.variant, additive, fun term member => ?_⟩
    rcases List.mem_append.mp member with member | member
    · exact first.variant term member
    · exact (second.variant term member).trans same.symm
  · intro summable
    have someLeft := List.length_pos_iff.mpr first.ne_nil
    have someRight := List.length_pos_iff.mpr second.ne_nil
    obtain ⟨variant, additive, all⟩ := summable (by rw [List.length_append]; omega)
    obtain ⟨term, member⟩ := List.exists_mem_of_ne_nil _ first.ne_nil
    obtain ⟨other, otherMember⟩ := List.exists_mem_of_ne_nil _ second.ne_nil
    have leftVariant : left.variant = variant :=
      (first.variant term member).symm.trans (all term (List.mem_append_left _ member))
    have rightVariant : right.variant = variant :=
      (second.variant other otherMember).symm.trans (all other (List.mem_append_right _ otherMember))
    exact ⟨leftVariant.trans rightVariant.symm, by rw [isAdditive, leftVariant]; exact additive⟩

end Grouping

/-- Two sums of the same terms: equal, unless they are floats, which may be rounded in different places. -/
structure Regrouped (terms : List Metric) (left right : Metric) : Prop where
  variant : left.variant = right.variant
  exact : left.variant ≠ .duration → left.variant ≠ .ratio → left = right
  first : Grouping terms left
  second : Grouping terms right

theorem Grouping.regrouped {terms : List Metric} {left right : Metric} (first : Grouping terms left)
    (second : Grouping terms right) : Regrouped terms left right := by
  obtain ⟨term, member⟩ := List.exists_mem_of_ne_nil _ first.ne_nil
  have same : left.variant = right.variant := (first.variant term member).symm.trans (second.variant term member)
  refine ⟨same, fun notDuration notRatio => ?_, first, second⟩
  by_cases several : 2 ≤ terms.length
  · have additive := first.additive several
    have counted : left.number?.isSome := by
      cases left <;> first | rfl | exact absurd rfl notDuration | exact absurd rfl notRatio | cases additive
    obtain ⟨total, leftCounted⟩ := Option.isSome_iff_exists.mp counted
    obtain ⟨total', rightCounted⟩ := Option.isSome_iff_exists.mp (number?_isSome_of_variant same ▸ counted)
    have equal : total' = total := (second.number? rightCounted).trans (first.number? leftCounted).symm
    exact eq_of_number? same leftCounted (equal ▸ rightCounted)
  · have someTerms := List.length_pos_iff.mpr first.ne_nil
    obtain ⟨only, rfl⟩ := List.length_eq_one_iff.mp (show terms.length = 1 by omega)
    rw [first.eq_of_single, second.eq_of_single]

end CallProfile.Metric
