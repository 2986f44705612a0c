import CallProfile.Proofs.CommandLine.Merging
import CallProfile.Proofs.Report.Merge

namespace CallProfile

open CommandLine

namespace Report

/-- Whether no total of the report has overflowed. -/
def TotalsFinite (report : Report) : Prop :=
  ∀ device name total, report.deviceMetric? device name = some total → total.IsFinite

theorem Gathered.isWellFormed_iff {reports : List Report} {merged : Report} (gathered : Gathered reports merged)
    (formed : ∀ report ∈ reports, report.IsWellFormed) : merged.IsWellFormed ↔ merged.TotalsFinite := by
  constructor
  · intro whole device name total found
    obtain ⟨metrics, here, found⟩ := Option.bind_eq_some_iff.mp found
    have entry := (whole.deviceMetrics _ (SortedMap.mem_entries_iff.mpr here)).2
    exact entry _ (SortedMap.mem_entries_iff.mpr found)
  · intro finite
    refine ⟨?_, ?_⟩
    · intro call member
      rw [gathered.calls] at member
      obtain ⟨report, given, member⟩ := List.mem_flatMap.mp member
      exact (formed report given).calls call member
    · rintro ⟨device, metrics⟩ member
      have here := SortedMap.mem_entries_iff.mp member
      constructor
      · obtain ⟨report, given, known⟩ := (gathered.devices device).mp (by rw [SortedMap.contains, here]; rfl)
        obtain ⟨others, there⟩ := Option.isSome_iff_exists.mp known
        exact ((formed report given).deviceMetrics _ (SortedMap.mem_entries_iff.mpr there)).1
      · rintro ⟨name, total⟩ within
        apply finite device name total
        rw [deviceMetric?, here]
        exact SortedMap.mem_entries_iff.mp within

theorem gathered_of_mergeAll {reports : List Report} {merged : Report} (done : mergeAll reports = .ok merged) :
    Gathered reports merged := by
  rw [← MergePlan.run_leftward] at done
  have gathered := MergePlan.gathered _ done
  rwa [MergePlan.reports_leftward] at gathered

theorem ofBytes_toJson_iff {report : Report} :
    (∃ read, ofBytes report.toJson.toUTF8 = .ok read ∧ read == report) ↔ report.IsWellFormed := by
  constructor
  · rintro ⟨read, accepted, same⟩
    exact isWellFormed_of_beq same (isWellFormed_of_ofBytes accepted)
  · intro formed
    exact ⟨report, ofBytes_toJson formed, beq_self formed⟩

end Report

theorem FileStore.Holds.isWellFormed {store : FileStore} {path : String} {report : Report}
    (held : store.Holds path report) : report.IsWellFormed := by
  obtain ⟨content, -, read⟩ := held
  exact Report.isWellFormed_of_ofBytes read

namespace CommandLine

variable {host : Host (StateM FileStore)} {store after : FileStore}

/-- What a merge has written loads as what was merged, just if no total has overflowed. -/
theorem merged_files_load_if_finite (stored : host.files = FileStore.files) {arguments paths : List String}
    {output : String} (asked : request? arguments = some (.run (.merge paths output))) {outcome : Outcome}
    (ran : (run host arguments).run store = (outcome, after)) (success : outcome.code = 0) :
    ∃ reports merged, List.Forall₂ store.Holds paths reports ∧ Report.mergeAll reports = .ok merged ∧
      ((∃ read, (Report.load host.files output).run.run after = (.ok read, after) ∧ read == merged) ↔
        merged.TotalsFinite) ∧
      (merged.TotalsFinite → (Report.load host.files output).run.run after = (.ok merged, after)) := by
  rcases run_merge stored asked ran with ⟨failure, -, -⟩ | ⟨-, merged, folded, written⟩
  · cases success.symm.trans failure
  obtain ⟨reports, held, done⟩ := FileStore.foldlM_mergeStep_eq_ok.mp folded
  have formed : ∀ report ∈ reports, report.IsWellFormed :=
    ((List.forall₂_and_left _ _).mp (held.flip.imp fun report path (held : store.Holds path report) => ⟨held.isWellFormed, held⟩)).1
  have whole := (Report.gathered_of_mergeAll done).isWellFormed_iff formed
  have content := (FileStore.wrote_of_write written).reads output rfl
  have loads (read : Report) : (Report.load host.files output).run.run after = (.ok read, after) ↔
      Report.ofBytes merged.toJson.toUTF8 = .ok read := by
    rw [stored, FileStore.run_load_eq_ok, FileStore.Holds, content]
    simp only [Except.ok.injEq, exists_eq_left']
  refine ⟨reports, merged, held, done, ?_, ?_⟩
  · simp only [loads, ← whole]
    exact Report.ofBytes_toJson_iff
  · rw [loads, ← whole]
    exact Report.ofBytes_toJson

theorem merged_files_load_if_finite_counts :
    ∃ (store after : FileStore) (outcome : Outcome),
      (run quietHost (mergeLine ["a.json", "b.json"] "out.json")).run store = (outcome, after) ∧ outcome.code = 0 ∧
      (Report.load quietHost.files "out.json").run.run after = (.ok (single "load" (.count 5)), after) := by
  have formed (number : Count) : (single "load" (.count number)).IsWellFormed :=
    isWellFormed_single "load" (Metric.isFinite_of_none rfl)
  have held := holds_twoReports (formed 2) (formed 3)
  have added : Report.mergeAll [single "load" (.count 2), single "load" (.count 3)] = .ok (single "load" (.count 5)) := rfl
  have asked := request?_twoFiles "out.json" (by decide)
  obtain ⟨outcome, after, ran⟩ := exists_run quietHost (mergeLine ["a.json", "b.json"] "out.json") (twoReports _ _)
  obtain ⟨success, -⟩ := merge_succeeds rfl asked ran held added (writable_twoFiles _ _).2
  obtain ⟨reports, merged, held', done, -, loads⟩ := merged_files_load_if_finite rfl asked ran success
  cases List.right_unique_forall₂' FileStore.rightUnique_holds held' held
  cases done.symm.trans added
  have finite := (Report.gathered_of_mergeAll added).isWellFormed_iff (by simp [formed]) |>.mp (formed 5)
  exact ⟨_, after, outcome, ran, success, loads finite⟩

def greatest : Float := .ofBits 0x7FEFFFFFFFFFFFFF

/-- Two reports whose durations overflow when they are added: their sum is written as `null`. -/
theorem merged_files_do_not_load_if_overflown :
    ∃ (store after : FileStore) (outcome : Outcome) (merged : Report),
      (run quietHost (mergeLine ["a.json", "b.json"] "out.json")).run store = (outcome, after) ∧ outcome.code = 0 ∧
      List.Forall₂ store.Holds ["a.json", "b.json"] [single "Duration" (.duration greatest), single "Duration" (.duration greatest)] ∧
      Report.mergeAll [single "Duration" (.duration greatest), single "Duration" (.duration greatest)] = .ok merged ∧
      ∀ read, (Report.load quietHost.files "out.json").run.run after ≠ (.ok read, after) := by
  have formed : (single "Duration" (.duration greatest)).IsWellFormed :=
    isWellFormed_single "Duration" (Metric.isFinite_of_some rfl (by decide))
  have held := holds_twoReports formed formed
  have added : Report.mergeAll [single "Duration" (.duration greatest), single "Duration" (.duration greatest)] =
    .ok (single "Duration" (.duration (greatest + greatest))) := rfl
  have asked := request?_twoFiles "out.json" (by decide)
  obtain ⟨outcome, after, ran⟩ := exists_run quietHost (mergeLine ["a.json", "b.json"] "out.json") (twoReports _ _)
  obtain ⟨success, written⟩ := merge_succeeds rfl asked ran held added (writable_twoFiles _ _).2
  refine ⟨_, after, outcome, _, ran, success, held, added, ?_⟩
  intro read loaded
  obtain ⟨content, there, accepted⟩ := FileStore.run_load_eq_ok.mp loaded
  have same := Except.ok.inj (there.symm.trans ((FileStore.wrote_of_write written).reads _ rfl))
  have isOk : (Report.ofBytes content).isOk = true := by
    rw [accepted]
    rfl
  have refused : (Report.ofBytes (single "Duration" (.duration (greatest + greatest))).toJson.toUTF8).isOk = false := by
    decide +kernel
  rw [same, refused] at isOk
  cases isOk

end CommandLine

end CallProfile
