import CallProfile.Proofs.Report.Totals

namespace CallProfile.Report

def recordedCount? (report : Report) (device : Device) : Option Count :=
  match report.deviceMetric? device callsName with
  | some (.count number) => some number
  | _ => none

def listedCount (report : Report) (device : Device) : Nat := report.calls.countP (·.device = device)

theorem callCount_eq_getD (report : Report) (device : Device) :
    report.callCount device = (report.recordedCount? device).getD (.ofNat (report.listedCount device)) := by
  rw [callCount, recordedCount?, listedCount]
  cases report.deviceMetric? device callsName with
  | none => rfl
  | some total => cases total <;> rfl

theorem recordedCount?_eq_some_iff {report : Report} {device : Device} {number : Count} :
    report.recordedCount? device = some number ↔ report.deviceMetric? device callsName = some (.count number) := by
  rw [recordedCount?]
  cases report.deviceMetric? device callsName with
  | none => simp
  | some total => cases total <;> simp

/-- Whether a report records a number of calls for each device on which it has calls. -/
def Tallied (report : Report) : Prop :=
  ∀ device, 0 < report.listedCount device → (report.recordedCount? device).isSome

theorem tallied_ofCalls (calls : List CallRecord) : Tallied (ofCalls calls) := by
  intro device some
  obtain ⟨call, member, here⟩ := List.countP_pos_iff.mp some
  have own : Metric.count 1 ∈ samples calls device callsName := by
    refine List.mem_flatMap.mpr ⟨call, List.mem_filter.mpr ⟨member, here⟩, ?_⟩
    rw [CallRecord.samples, if_pos rfl]
    exact List.mem_cons_self
  obtain ⟨total, found⟩ := Option.ne_none_iff_exists'.mp fun absent => by
    rw [(DeviceTotals.total?_ofCalls_eq_none_iff calls device callsName).mp absent] at own
    cases own
  have variant : total.variant = .count := by
    refine (DeviceTotals.variant_ofCalls (fun sample first => ?_) found).1
    rw [head?_samples_callsName first]
    rfl
  cases total with
  | count number => exact Option.isSome_of_eq_some (recordedCount?_eq_some_iff.mpr found)
  | _ => cases variant

/-- Whether merging leaves out calls: one report records a number of calls, the other has calls and lists them only. -/
structure Hides (recording listing : Report) (device : Device) : Prop where
  recorded : ∃ number : Count, recording.recordedCount? device = some number ∧ number.toNat < Count.limit
  unrecorded : listing.recordedCount? device = none
  listed : 0 < listing.listedCount device

theorem adds_iff_not_hides {recording listing : Report} {device : Device} {number : Count}
    (recorded : recording.recordedCount? device = some number) (unrecorded : listing.recordedCount? device = none) :
    number.toNat = min (number.toNat + min (listing.listedCount device) Count.limit) Count.limit ↔
      ¬ Hides recording listing device := by
  have small := Count.toNat_le_limit number
  constructor
  · intro adds hides
    obtain ⟨same, found, below⟩ := hides.recorded
    cases recorded.symm.trans found
    have listed := hides.listed
    omega
  · intro shown
    by_cases below : number.toNat < Count.limit
    · have nothing : listing.listedCount device = 0 :=
        Nat.eq_zero_of_not_pos fun listed => shown ⟨⟨number, recorded, below⟩, unrecorded, listed⟩
      omega
    · omega

theorem not_hides_of_recorded {recording listing : Report} {device : Device}
    (recorded : listing.recordedCount? device ≠ none) : ¬ Hides recording listing device :=
  fun hides => recorded hides.unrecorded

theorem not_hides_of_unrecorded {recording listing : Report} {device : Device}
    (unrecorded : recording.recordedCount? device = none) : ¬ Hides recording listing device := by
  intro hides
  obtain ⟨number, found, -⟩ := hides.recorded
  cases unrecorded.symm.trans found

theorem Tallied.not_hides {recording listing : Report} (tallied : Tallied listing) (device : Device) :
    ¬ Hides recording listing device :=
  fun hides => Option.isSome_iff_ne_none.mp (tallied device hides.listed) hides.unrecorded

section Merged

variable {first second merged : Report} (done : first.merge second = .ok merged)
include done

theorem listedCount_of_merge (device : Device) :
    merged.listedCount device = first.listedCount device + second.listedCount device := by
  rw [listedCount, (merge_eq_ok.mp done).1, List.countP_append, listedCount, listedCount]

theorem recordedCount?_of_merge (device : Device) :
    merged.recordedCount? device =
      Option.merge Count.add (first.recordedCount? device) (second.recordedCount? device) := by
  have joined := DeviceTotals.joined_of_merge (merge_eq_ok.mp done).2 device callsName
  simp only [← deviceMetric?_eq_total?] at joined
  simp only [recordedCount?]
  generalize first.deviceMetric? device callsName = front at joined ⊢
  generalize second.deviceMetric? device callsName = back at joined ⊢
  generalize merged.deviceMetric? device callsName = total at joined ⊢
  cases joined with
  | first =>
    cases front with
    | none => rfl
    | some only => cases only <;> rfl
  | second only => cases only <;> rfl
  | @sum left right total added => cases left <;> cases right <;> cases added <;> rfl

theorem Tallied.merge (left : Tallied first) (right : Tallied second) : Tallied merged := by
  intro device some
  rw [listedCount_of_merge done] at some
  rw [recordedCount?_of_merge done]
  rcases Nat.add_pos_iff_pos_or_pos.mp some with some | some
  · obtain ⟨number, found⟩ := Option.isSome_iff_exists.mp (left device some)
    rw [found]
    cases second.recordedCount? device <;> rfl
  · obtain ⟨number, found⟩ := Option.isSome_iff_exists.mp (right device some)
    rw [found]
    cases first.recordedCount? device <;> rfl

theorem callCount_of_hides {device : Device} :
    (Hides first second device → merged.callCount device = first.callCount device) ∧
      (Hides second first device → merged.callCount device = second.callCount device) := by
  simp only [callCount_eq_getD, recordedCount?_of_merge done]
  constructor
  · intro hides
    obtain ⟨number, found, -⟩ := hides.recorded
    rw [found, hides.unrecorded]
    rfl
  · intro hides
    obtain ⟨number, found, -⟩ := hides.recorded
    rw [found, hides.unrecorded]
    rfl

theorem callCount_of_merge_iff (device : Device) :
    (merged.callCount device).toNat =
        min ((first.callCount device).toNat + (second.callCount device).toNat) Count.limit ↔
      ¬ Hides first second device ∧ ¬ Hides second first device := by
  simp only [callCount_eq_getD, recordedCount?_of_merge done, listedCount_of_merge done]
  cases before : first.recordedCount? device with
  | none =>
    have shown : ¬ Hides first second device := not_hides_of_unrecorded before
    cases after : second.recordedCount? device with
    | none =>
      have shown' : ¬ Hides second first device := not_hides_of_unrecorded after
      simp only [Option.merge_none_left, Option.getD_none, Count.toNat_ofNat]
      exact iff_of_true (by omega) ⟨shown, shown'⟩
    | some number =>
      have adds := adds_iff_not_hides after before
      simp only [Option.merge_none_left, Option.getD_some, Option.getD_none, Count.toNat_ofNat]
      rw [Nat.add_comm, adds]
      exact ⟨fun shown' => ⟨shown, shown'⟩, And.right⟩
  | some number =>
    have shown' : ¬ Hides second first device := not_hides_of_recorded (by rw [before]; exact Option.some_ne_none _)
    cases after : second.recordedCount? device with
    | none =>
      have adds := adds_iff_not_hides before after
      simp only [Option.merge_none_right, Option.getD_some, Option.getD_none, Count.toNat_ofNat]
      rw [adds]
      exact ⟨fun shown => ⟨shown, shown'⟩, And.left⟩
    | some number' =>
      have shown : ¬ Hides first second device := not_hides_of_recorded (by rw [after]; exact Option.some_ne_none _)
      simp only [Option.merge_some_some, Option.getD_some, Count.toNat_add]
      exact iff_of_true trivial ⟨shown, shown'⟩

/--
The number of calls on a device in a merged report is that of the two reports together, cut off at the largest
count, except where one report records a number and the other only lists its calls; then the recorded one is all.
Reports that record a number wherever they have calls, as those of sessions do, stay so and lose no calls.
-/
theorem merged_counts_add_unless_hidden :
    (∀ device, (merged.callCount device).toNat =
        min ((first.callCount device).toNat + (second.callCount device).toNat) Count.limit ↔
      ¬ Hides first second device ∧ ¬ Hides second first device) ∧
    (∀ device, (Hides first second device → merged.callCount device = first.callCount device) ∧
      (Hides second first device → merged.callCount device = second.callCount device)) ∧
    (Tallied first → Tallied second → Tallied merged ∧ ∀ device, (merged.callCount device).toNat =
      min ((first.callCount device).toNat + (second.callCount device).toNat) Count.limit) := by
  refine ⟨callCount_of_merge_iff done, fun device => callCount_of_hides done, fun left right => ?_⟩
  have adds (device : Device) := (callCount_of_merge_iff done device).mpr
    ⟨right.not_hides device, left.not_hides device⟩
  exact ⟨left.merge done right, adds⟩

end Merged

def stepOn (device : Device) : CallRecord := { name := "step", device, depth := 1, metrics := .empty }

theorem merged_counts_add_unless_hidden_runs :
    let first := ofCalls [stepOn (.cpu 0), stepOn (.gpu 0), stepOn (.cpu 0)]
    let second := ofCalls [stepOn (.cpu 0)]
    ∃ merged, first.merge second = .ok merged ∧ (merged.callCount (.cpu 0)).toNat = min (2 + 1) Count.limit := by
  intro first second
  have done : first.merge second = .ok _ := rfl
  obtain ⟨-, -, adds⟩ := merged_counts_add_unless_hidden done
  exact ⟨_, done, (adds (tallied_ofCalls _) (tallied_ofCalls _)).2 (.cpu 0)⟩

/-- The same call twice, of which one report records that it was one and the other does not: merged, it is one. -/
theorem merge_hides_listed_call :
    let recording := ofCalls [stepOn (.cpu 0)]
    let listing : Report := ⟨[stepOn (.cpu 0)], .empty⟩
    ∃ merged, recording.merge listing = .ok merged ∧ recording.callCount (.cpu 0) = 1 ∧
      listing.callCount (.cpu 0) = 1 ∧ merged.calls.length = 2 ∧ merged.callCount (.cpu 0) = 1 :=
  ⟨_, rfl, by decide +kernel, by decide +kernel, rfl, by decide +kernel⟩

end CallProfile.Report
