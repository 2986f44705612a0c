import CallProfile.Decimal.TotalOrder

namespace CallProfile.Decimal

variable {α : Type} (key : α → Double)

/-- How items stand in a descending list: the larger key first, and of equal keys the item that was earlier. -/
def Descending (earlier : α → α → Prop) (before after : α) : Prop :=
  rank (key after) < rank (key before) ∨ rank (key after) = rank (key before) ∧ earlier before after

theorem perm_sortDescending (items : List α) : (sortDescending key items).Perm items := List.mergeSort_perm _ _

section

variable {key}

theorem rank_le_trans (first second third : α) (left : decide (rank (key second) ≤ rank (key first)) = true)
    (right : decide (rank (key third) ≤ rank (key second)) = true) :
    decide (rank (key third) ≤ rank (key first)) = true :=
  decide_eq_true (Int.le_trans (of_decide_eq_true right) (of_decide_eq_true left))

theorem rank_le_total (first second : α) :
    (decide (rank (key second) ≤ rank (key first)) || decide (rank (key first) ≤ rank (key second))) = true := by
  rw [Bool.or_eq_true, decide_eq_true_eq, decide_eq_true_eq]
  exact Int.le_total _ _

end

theorem rank_le_of_sortDescending (items : List α) :
    (sortDescending key items).Pairwise fun before after => rank (key after) ≤ rank (key before) :=
  (List.pairwise_mergeSort rank_le_trans rank_le_total items).imp of_decide_eq_true

theorem filter_sortDescending (items : List α) (place : Int) :
    (sortDescending key items).filter (fun item => rank (key item) = place) =
      items.filter fun item => rank (key item) = place := by
  let own (item : α) : Bool := rank (key item) = place
  have level : (items.filter own).Pairwise fun before after => decide (rank (key after) ≤ rank (key before)) := by
    refine List.pairwise_iff_forall_sublist.mpr fun {before after} listed => ?_
    have first := (List.mem_filter.mp (listed.subset List.mem_cons_self)).2
    have second := (List.mem_filter.mp (listed.subset (List.mem_cons_of_mem _ List.mem_cons_self))).2
    simp only [own, decide_eq_true_eq] at first second ⊢
    omega
  have within : (items.filter own).Sublist (sortDescending key items) :=
    List.sublist_mergeSort rank_le_trans rank_le_total level List.filter_sublist
  have filtered := within.filter own
  rw [List.filter_filter, funext fun item => Bool.and_self (own item)] at filtered
  exact (filtered.eq_of_length ((perm_sortDescending key items).filter own).length_eq.symm).symm

theorem descending_sortDescending {items : List α} {earlier : α → α → Prop} (ordered : items.Pairwise earlier) :
    (sortDescending key items).Pairwise (Descending key earlier) := by
  refine List.pairwise_iff_forall_sublist.mpr fun {before after} listed => ?_
  have least := List.pairwise_iff_forall_sublist.mp (rank_le_of_sortDescending key items) listed
  by_cases tied : rank (key after) = rank (key before)
  · -- Two items of one place stand among those of that place, which are in their old order.
    have both := listed.filter fun item => rank (key item) = rank (key before)
    rw [filter_sortDescending] at both
    simp only [List.filter_cons, tied, decide_true, if_true, List.filter_nil] at both
    exact .inr ⟨tied, List.pairwise_iff_forall_sublist.mp (ordered.filter _) both⟩
  · exact .inl (by omega)

example :
    let ascending : List Double :=
      [⟨0xFFF8000000000000⟩, ⟨0xFFF0000000000000⟩, .ofFloat (-0.0), 0.0, ⟨0x7FF0000000000000⟩, ⟨0x7FF8000000000000⟩]
    ascending.Pairwise fun before after => rank before < rank after := by decide +kernel

end CallProfile.Decimal
