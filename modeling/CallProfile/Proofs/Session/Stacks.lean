import Mathlib.Data.List.Nodup
import CallProfile.Proofs.SortedMap
import CallProfile.Session

namespace CallProfile.CallStacks

open Session

def Descending (frames : List OpenCall) : Prop :=
  frames.Pairwise fun later earlier => earlier.id.number < later.id.number

theorem Descending.eq_of_id {frames : List OpenCall} (descending : Descending frames) {one other : OpenCall}
    (first : one ∈ frames) (second : other ∈ frames) (same : one.id = other.id) : one = other := by
  induction frames with
  | nil => cases first
  | cons frame rest ih =>
    obtain ⟨below, tail⟩ := List.pairwise_cons.mp descending
    rcases List.mem_cons.mp first with head | within
    · rcases List.mem_cons.mp second with head' | within'
      · rw [head, head']
      · have := below other within'
        rw [← same, head] at this
        omega
    · rcases List.mem_cons.mp second with head' | within'
      · have := below one within
        rw [same, head'] at this
        omega
      · exact ih tail within within'

theorem Descending.nodup {frames : List OpenCall} (descending : Descending frames) : frames.Nodup := by
  refine descending.imp ?_
  rintro later earlier less rfl
  omega

theorem Descending.apart {frames : List OpenCall} (descending : Descending frames) :
    frames.Pairwise fun one other => one.id ≠ other.id := by
  refine descending.imp ?_
  intro later earlier less same
  rw [same] at less
  omega

/-- The list of all open calls, of which every stack is a part. -/
structure Stacked (pending : CallStacks) (frames : List OpenCall) : Prop where
  descending : Descending frames
  on_eq : ∀ thread, pending.on thread = frames.filter fun call => call.thread = thread

theorem stacked_empty : Stacked .empty [] := ⟨.nil, fun _ => rfl⟩

variable {pending : CallStacks} {frames : List OpenCall}

theorem Stacked.mem_on (stacked : Stacked pending frames) {thread : ThreadId} {call : OpenCall} :
    call ∈ pending.on thread ↔ call ∈ frames ∧ call.thread = thread := by
  rw [stacked.on_eq]
  simp

theorem Stacked.push (stacked : Stacked pending frames) (call : OpenCall)
    (last : ∀ frame ∈ frames, frame.id.number < call.id.number) :
    Stacked (pending.setOn call.thread (call :: pending.on call.thread)) (call :: frames) where
  descending := List.pairwise_cons.mpr ⟨last, stacked.descending⟩
  on_eq thread := by
    by_cases own : thread = call.thread
    · rw [own, on_setOn_self, stacked.on_eq]
      simp
    · have foreign : ¬ call.thread = thread := fun h => own h.symm
      rw [on_setOn_of_ne pending own, stacked.on_eq]
      simp [foreign]

theorem Stacked.pop (stacked : Stacked pending frames) {thread : ThreadId} {call : OpenCall}
    {around : List OpenCall} (top : pending.on thread = call :: around) :
    Stacked (pending.setOn thread around) (frames.filter fun frame => frame.id ≠ call.id) where
  descending := stacked.descending.filter _
  on_eq other := by
    have member : call ∈ frames ∧ call.thread = thread := stacked.mem_on.mp (top ▸ List.mem_cons_self)
    have part := stacked.on_eq thread
    rw [top] at part
    by_cases own : other = thread
    · have ordered : Descending (call :: around) := part ▸ stacked.descending.filter _
      have others : ∀ frame ∈ around, frame.id ≠ call.id := by
        intro frame within same
        have := (List.pairwise_cons.mp ordered).1 frame within
        rw [same] at this
        omega
      rw [own, on_setOn_self, List.filter_filter]
      calc around = (call :: around).filter (fun frame => frame.id ≠ call.id) := by
            simp only [List.filter_cons, ne_eq, not_true_eq_false, decide_false, Bool.false_eq_true, if_false]
            exact (List.filter_eq_self.mpr (by simpa using others)).symm
        _ = _ := by
            rw [part, List.filter_filter]
            simp only [Bool.and_comm]
    · rw [on_setOn_of_ne pending own, stacked.on_eq, List.filter_filter]
      refine List.filter_congr fun frame within => ?_
      by_cases same : frame.id = call.id
      · have := stacked.descending.eq_of_id within member.1 same
        have foreign : ¬ frame.thread = other := by
          intro h
          rw [this, member.2] at h
          exact own h.symm
        simp [foreign]
      · simp [same]

theorem mem_all_iff {call : OpenCall} : call ∈ pending.all ↔ ∃ thread, call ∈ pending.on thread := by
  simp only [all, List.mem_flatMap]
  constructor
  · rintro ⟨entry, member, within⟩
    refine ⟨entry.1, ?_⟩
    rw [on, SortedMap.mem_entries_iff.mp member]
    exact within
  · rintro ⟨thread, within⟩
    cases found : pending.get? thread with
    | none => simp [on, found] at within
    | some calls =>
      refine ⟨(thread, calls), SortedMap.mem_entries_iff.mpr found, ?_⟩
      simpa [on, found] using within

theorem Stacked.mem_all (stacked : Stacked pending frames) {call : OpenCall} :
    call ∈ pending.all ↔ call ∈ frames := by
  simp [mem_all_iff, stacked.mem_on]

theorem Stacked.nodup_all (stacked : Stacked pending frames) : pending.all.Nodup := by
  have part : ∀ entry ∈ pending.entries, entry.2 = frames.filter fun call => call.thread = entry.1 := by
    intro entry member
    rw [← stacked.on_eq, on, SortedMap.mem_entries_iff.mp member]
    rfl
  refine List.nodup_flatMap.mpr ⟨fun entry member => ?_, ?_⟩
  · rw [part entry member]
    exact stacked.descending.nodup.filter _
  · refine List.Pairwise.imp_of_mem ?_ (List.pairwise_map.mp pending.nodup_keys)
    -- a call in both parts would belong to two threads
    intro one other first second apart call inOne inOther
    simp only [part one first, part other second, List.mem_filter, decide_eq_true_eq] at inOne inOther
    exact apart (inOne.2.symm.trans inOther.2)

theorem Stacked.perm (stacked : Stacked pending frames) : pending.all.Perm frames :=
  (List.perm_ext_iff_of_nodup stacked.nodup_all stacked.descending.nodup).mpr fun _ => stacked.mem_all

theorem newestFirst_of_perm {found : List OpenCall} (descending : Descending frames) (same : found.Perm frames) :
    newestFirst found = frames := by
  have sorted : (newestFirst found).Pairwise fun before after => after.id.number ≤ before.id.number := by
    refine (List.pairwise_mergeSort ?_ ?_ found).imp (by simp)
    · intro one two three first second
      simp only [decide_eq_true_eq] at first second ⊢
      omega
    · intro one two
      simp only [Bool.or_eq_true, decide_eq_true_eq]
      omega
  have permuted : (newestFirst found).Perm frames := (List.mergeSort_perm found _).trans same
  refine permuted.eq_of_pairwise ?_ sorted (descending.imp fun less => Nat.le_of_lt less)
  intro one other first second up down
  have same : one.id.number = other.id.number := Nat.le_antisymm down up
  exact descending.eq_of_id (permuted.mem_iff.mp first) second (congrArg CallId.mk same)

theorem Stacked.newestFirst_eq (stacked : Stacked pending frames) {found : List OpenCall}
    (same : found.Perm pending.all) : newestFirst found = frames :=
  newestFirst_of_perm stacked.descending (same.trans stacked.perm)

end CallProfile.CallStacks
