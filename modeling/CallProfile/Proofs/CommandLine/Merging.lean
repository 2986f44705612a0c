import CallProfile.CommandLine
import CallProfile.Proofs.CommandLine.Arguments
import CallProfile.Proofs.Report.File
import CallProfile.Proofs.Report.RoundTrip
import Mathlib.Data.List.Forall2

namespace CallProfile

namespace FileStore

variable {α β : Type} {store : FileStore} {path : String} {paths : List String} {report merged : Report}

/-- Merges the reports of files from the left, up to the first that does not allow it. -/
def mergeStep (store : FileStore) (merged : Report) (path : String) : Except Failure Report := do
  let report ← loadedFrom path (store.read path)
  attempting [.mergeReport path] (fun clash => .profile (.incompatibleMetric clash)) (merged.merge report)

theorem mergeStep_eq_ok {first : Report} :
    store.mergeStep first path = .ok merged ↔ ∃ report, store.Holds path report ∧ first.merge report = .ok merged := by
  unfold mergeStep
  constructor
  · intro done
    obtain ⟨report, loaded, done⟩ := bind_eq_ok done
    exact ⟨report, loadedFrom_eq_ok.mp loaded, attempting_eq_ok done⟩
  · rintro ⟨report, held, done⟩
    rw [loadedFrom_eq_ok.mpr held]
    show attempting _ _ (first.merge report) = _
    rw [done]
    rfl

theorem foldlM_mergeStep_eq_ok {first : Report} :
    paths.foldlM store.mergeStep first = .ok merged ↔
      ∃ reports, List.Forall₂ store.Holds paths reports ∧ reports.foldlM Report.merge first = .ok merged := by
  induction paths generalizing first with
  | nil => simp [pure, Except.pure]
  | cons path paths ih =>
    rw [List.foldlM_cons]
    constructor
    · intro done
      obtain ⟨middle, stepped, done⟩ := bind_eq_ok done
      obtain ⟨report, held, stepped⟩ := mergeStep_eq_ok.mp stepped
      obtain ⟨reports, all, done⟩ := ih.mp done
      refine ⟨report :: reports, .cons held all, ?_⟩
      rw [List.foldlM_cons, stepped]
      exact done
    · rintro ⟨_, all, done⟩
      cases all with
      | @cons _ report _ reports held all =>
        rw [List.foldlM_cons] at done
        obtain ⟨middle, stepped, done⟩ := bind_eq_ok done
        rw [mergeStep_eq_ok.mpr ⟨report, held, stepped⟩]
        exact ih.mpr ⟨reports, all, done⟩

/-- Why the reports of files cannot be merged. -/
inductive Obstacle (store : FileStore) (paths : List String) : Prop where
  | unread {path : String} {error : FileError} (listed : path ∈ paths) (missing : store.read path = .error error)
  | malformed {path : String} {content : ByteArray} {fault : Json.Fault} (listed : path ∈ paths)
    (read : store.read path = .ok content) (refused : Report.ofBytes content = .error fault)
  | clash {front back : List String} {path : String} {reports : List Report} {merged report : Report} {clash : MetricClash}
    (listed : paths = front ++ path :: back) (before : List.Forall₂ store.Holds front reports)
    (done : Report.mergeAll reports = .ok merged) (held : store.Holds path report) (refused : merged.merge report = .error clash)

theorem rightUnique_holds : Relator.RightUnique store.Holds := fun _ _ _ => Holds.unique

theorem forall₂_middle {relation : α → β → Prop} {front back : List α} {item : α} {others : List β}
    (all : List.Forall₂ relation (front ++ item :: back) others) :
    ∃ front' item' back', others = front' ++ item' :: back' ∧ List.Forall₂ relation front front' ∧ relation item item' := by
  induction front generalizing others with
  | nil =>
    obtain ⟨item', back', here, -, rfl⟩ := List.forall₂_cons_left_iff.mp all
    exact ⟨[], item', back', rfl, .nil, here⟩
  | cons first front ih =>
    obtain ⟨first', rest, here, rest_all, rfl⟩ := List.forall₂_cons_left_iff.mp all
    obtain ⟨front', item', back', rfl, before, middle⟩ := ih rest_all
    exact ⟨first' :: front', item', back', rfl, .cons here before, middle⟩

theorem exists_forall₂ {relation : α → β → Prop} {items : List α} (each : ∀ item ∈ items, ∃ other, relation item other) :
    ∃ others, List.Forall₂ relation items others := by
  induction items with
  | nil => exact ⟨[], .nil⟩
  | cons item items ih =>
    obtain ⟨⟨other, here⟩, rest⟩ := List.forall_mem_cons.mp each
    obtain ⟨others, all⟩ := ih rest
    exact ⟨other :: others, .cons here all⟩

theorem exists_holds_of_not_obstacle (free : ¬ store.Obstacle paths) {path : String} (listed : path ∈ paths) :
    ∃ report, store.Holds path report := by
  cases read : store.read path with
  | error error => exact absurd (.unread listed read) free
  | ok content =>
    cases parsed : Report.ofBytes content with
    | error fault => exact absurd (.malformed listed read parsed) free
    | ok report => exact ⟨report, content, read, parsed⟩

theorem clash_of_mergeAll {reports : List Report} {first : Report} {clash : MetricClash}
    (stopped : reports.foldlM Report.merge first = .error clash) :
    ∃ front report back merged, reports = front ++ report :: back ∧ front.foldlM Report.merge first = .ok merged ∧
      merged.merge report = .error clash := by
  induction reports generalizing first with
  | nil => cases stopped
  | cons report reports ih =>
    rw [List.foldlM_cons] at stopped
    cases stepped : first.merge report with
    | error other =>
      rw [stepped] at stopped
      cases stopped
      exact ⟨[], report, reports, first, rfl, rfl, stepped⟩
    | ok next =>
      rw [stepped] at stopped
      obtain ⟨front, other, back, merged, rfl, done, refused⟩ := ih stopped
      refine ⟨report :: front, other, back, merged, rfl, ?_, refused⟩
      rw [List.foldlM_cons, stepped]
      exact done

theorem Obstacle.not_merged (obstacle : store.Obstacle paths) {reports : List Report}
    (held : List.Forall₂ store.Holds paths reports) : Report.mergeAll reports ≠ .ok merged := by
  cases obstacle with
  | unread listed missing =>
    obtain ⟨front, back, rfl⟩ := List.append_of_mem listed
    obtain ⟨_, _, _, _, _, content, read, _⟩ := forall₂_middle held
    rw [missing] at read
    cases read
  | malformed listed read refused =>
    obtain ⟨front, back, rfl⟩ := List.append_of_mem listed
    obtain ⟨_, _, _, _, _, content, read', parsed⟩ := forall₂_middle held
    rw [read] at read'
    cases read'
    rw [refused] at parsed
    cases parsed
  | clash listed before done here refused =>
    subst listed
    obtain ⟨front, report, back, rfl, front_held, there⟩ := forall₂_middle held
    cases List.right_unique_forall₂' rightUnique_holds before front_held
    cases here.unique there
    intro whole
    rw [Report.mergeAll, List.foldlM_append] at whole
    obtain ⟨middle, reached, whole⟩ := bind_eq_ok whole
    rw [Report.mergeAll, reached] at done
    cases done
    rw [List.foldlM_cons, refused] at whole
    cases whole

theorem exists_merged_of_not_obstacle (free : ¬ store.Obstacle paths) :
    ∃ reports merged, List.Forall₂ store.Holds paths reports ∧ Report.mergeAll reports = .ok merged := by
  obtain ⟨reports, held⟩ := exists_forall₂ fun _ listed => exists_holds_of_not_obstacle free listed
  cases done : Report.mergeAll reports with
  | ok merged => exact ⟨reports, merged, held, done⟩
  | error clash =>
    obtain ⟨front, report, back, merged, rfl, done, refused⟩ := clash_of_mergeAll done
    obtain ⟨fronts, path, backs, rfl, before, here⟩ := forall₂_middle held.flip
    exact absurd (.clash rfl before.flip done here refused) free

end FileStore

namespace CommandLine

variable {host : Host (StateM FileStore)} {store after : FileStore} {paths : List String} {output : String}

theorem looks_mergeFiles (stored : host.files = FileStore.files) :
    FileStore.Looks (mergeFiles host paths) fun store => paths.foldlM store.mergeStep .empty := by
  apply FileStore.looks_foldlM
  intro merged path
  rw [stored]
  exact (FileStore.looks_load path).bind fun report _ => rfl

theorem run_of_ok {arguments : List String} {command : Command} (asked : request? arguments = some (.run command))
    {outcome : Outcome} (done : (runCommand host command).run.run store = (.ok outcome, after)) :
    (run host arguments).run store = (outcome, after) := by
  rw [run, asked]
  dsimp only
  rw [StateT.run_bind, done]
  rfl

theorem run_of_error {arguments : List String} {command : Command} (asked : request? arguments = some (.run command))
    {failure : Failure} (failed : (runCommand host command).run.run store = (.error failure, after)) :
    (run host arguments).run store = (host.failure failure.message, after) := by
  rw [run, asked]
  dsimp only
  rw [StateT.run_bind, failed]
  rfl

/-- All that a merge of files can come to. -/
theorem run_merge (stored : host.files = FileStore.files) {arguments : List String}
    (asked : request? arguments = some (.run (.merge paths output))) {outcome : Outcome}
    (ran : (run host arguments).run store = (outcome, after)) :
    (outcome.code = 1 ∧ after = store ∧
      ((∃ failure, paths.foldlM store.mergeStep .empty = .error failure) ∨ ¬ store.Writable output)) ∨
    (outcome.code = 0 ∧ ∃ merged, paths.foldlM store.mergeStep .empty = .ok merged ∧
      store.write output merged.toJson.toUTF8 = .ok after) := by
  have looked := @looks_mergeFiles host paths stored store
  dsimp only at looked
  cases done : paths.foldlM store.mergeStep .empty with
  | error failure =>
    rw [done] at looked
    cases ran.symm.trans (run_of_error asked (FileStore.run_bind_of_error looked))
    exact .inl ⟨rfl, rfl, .inl ⟨failure, rfl⟩⟩
  | ok merged =>
    rw [done] at looked
    cases written : store.write output merged.toJson.toUTF8 with
    | error error =>
      have failed : (runCommand host (.merge paths output)).run.run store =
          (.error ⟨[.createFile output], .file error⟩, store) := by
        rw [runCommand, FileStore.run_bind_of_ok looked, stored]
        exact FileStore.run_bind_of_error (FileStore.run_save_of_error written)
      cases ran.symm.trans (run_of_error asked failed)
      refine .inl ⟨rfl, rfl, .inr fun writable => ?_⟩
      obtain ⟨_, possible⟩ := FileStore.exists_write_iff.mpr writable
      cases written.symm.trans possible
    | ok now =>
      obtain ⟨reply, saved, success⟩ :
          ∃ reply, (runCommand host (.merge paths output)).run.run store = (.ok reply, now) ∧ reply.code = 0 := by
        rw [runCommand, FileStore.run_bind_of_ok looked, stored]
        exact ⟨_, FileStore.run_bind_of_ok (FileStore.run_save_of_ok written), rfl⟩
      cases ran.symm.trans (run_of_ok asked saved)
      exact .inr ⟨success, merged, rfl, written⟩

theorem merge_succeeds (stored : host.files = FileStore.files) {arguments : List String}
    (asked : request? arguments = some (.run (.merge paths output))) {outcome : Outcome}
    (ran : (run host arguments).run store = (outcome, after)) {reports : List Report} {merged : Report}
    (held : List.Forall₂ store.Holds paths reports) (done : Report.mergeAll reports = .ok merged)
    (writable : store.Writable output) :
    outcome.code = 0 ∧ store.write output merged.toJson.toUTF8 = .ok after := by
  have folded := FileStore.foldlM_mergeStep_eq_ok.mpr ⟨reports, held, done⟩
  rcases run_merge stored asked ran with ⟨-, -, ⟨failure, failed⟩ | unwritable⟩ | ⟨success, merged', folded', written⟩
  · cases failed.symm.trans folded
  · exact absurd writable unwritable
  · cases folded'.symm.trans folded
    exact ⟨success, written⟩

/-- A merge that meets an obstacle changes no file; any other merge changes just the one that it writes. -/
theorem merging_is_all_or_nothing (host : Host (StateM FileStore)) (stored : host.files = FileStore.files)
    (paths : List String) (output : String) (store : FileStore) :
    (2 ≤ paths.length → (∀ path ∈ paths, path ≠ "") → output ≠ "" →
      ∃ arguments, request? arguments = some (.run (.merge paths output))) ∧
    ∀ arguments outcome after, request? arguments = some (.run (.merge paths output)) →
      (run host arguments).run store = (outcome, after) →
      (store.Obstacle paths → outcome.code = 1 ∧ after = store) ∧
      (¬ store.Obstacle paths →
        ∃ reports merged, List.Forall₂ store.Holds paths reports ∧ Report.mergeAll reports = .ok merged ∧
          (store.Writable output → outcome.code = 0 ∧ after.read output = .ok merged.toJson.toUTF8 ∧
            store.Wrote output merged.toJson.toUTF8 after) ∧
          (¬ store.Writable output → outcome.code = 1 ∧ after = store)) := by
  refine ⟨fun several named given => ⟨_, request?_mergeLine several named given⟩, ?_⟩
  intro arguments outcome after asked ran
  have ended := run_merge stored asked ran
  constructor
  · intro obstacle
    rcases ended with ⟨failure, same, -⟩ | ⟨-, merged, done, -⟩
    · exact ⟨failure, same⟩
    · obtain ⟨reports, held, done⟩ := FileStore.foldlM_mergeStep_eq_ok.mp done
      exact absurd done (obstacle.not_merged held)
  · intro free
    obtain ⟨reports, merged, held, done⟩ := FileStore.exists_merged_of_not_obstacle free
    refine ⟨reports, merged, held, done, ?_, ?_⟩
    · intro writable
      obtain ⟨success, written⟩ := merge_succeeds stored asked ran held done writable
      have wrote := FileStore.wrote_of_write written
      exact ⟨success, wrote.reads output rfl, wrote⟩
    · intro unwritable
      rcases ended with ⟨failure, same, -⟩ | ⟨-, merged', -, written⟩
      · exact ⟨failure, same⟩
      · exact absurd (FileStore.exists_write_iff.mp ⟨after, written⟩) unwritable

def quietHost : Host (StateM FileStore) := ⟨FileStore.files, return default, false⟩

def single (name : String) (total : Metric) : Report :=
  ⟨[], SortedMap.empty.insert (.cpu 0) (SortedMap.empty.insert name total)⟩

theorem isWellFormed_single (name : String) {total : Metric} (finite : total.IsFinite) : (single name total).IsWellFormed := by
  refine ⟨by simp [single], ?_⟩
  simp only [single, SortedMap.insert, SortedMap.empty, SortedMap.place, DeviceTotals.IsWellFormed,
    List.forall_mem_singleton, MetricMap.IsFinite]
  exact ⟨trivial, finite⟩

def twoFiles (first second : ByteArray) : FileStore :=
  ⟨(SortedMap.empty.insert ["a.json"] (.file first)).insert ["b.json"] (.file second), []⟩

theorem entry?_twoFiles (first second : ByteArray) (name : String) :
    FileStore.entry? (twoFiles first second) [name] =
      if name = "b.json" then some (.file second) else if name = "a.json" then some (.file first) else none := by
  simp [twoFiles, FileStore.entry?, SortedMap.get?_insert]

theorem read_twoFiles (first second : ByteArray) :
    (twoFiles first second).read "a.json" = .ok first ∧ (twoFiles first second).read "b.json" = .ok second :=
  ⟨FileStore.read_eq_ok.mpr ⟨["a.json"], rfl, by simp [entry?_twoFiles]⟩,
    FileStore.read_eq_ok.mpr ⟨["b.json"], rfl, by simp [entry?_twoFiles]⟩⟩

theorem writable_twoFiles (first second : ByteArray) :
    (twoFiles first second).Writable "/a.json" ∧ (twoFiles first second).Writable "out.json" :=
  ⟨⟨["a.json"], rfl, by simp [entry?_twoFiles]⟩, ⟨["out.json"], rfl, by simp [entry?_twoFiles]⟩⟩

def twoReports (first second : Report) : FileStore := twoFiles first.toJson.toUTF8 second.toJson.toUTF8

theorem holds_twoReports {first second : Report} (formed : first.IsWellFormed) (formed' : second.IsWellFormed) :
    List.Forall₂ (twoReports first second).Holds ["a.json", "b.json"] [first, second] := by
  have read := read_twoFiles first.toJson.toUTF8 second.toJson.toUTF8
  exact .cons ⟨_, read.1, Report.ofBytes_toJson formed⟩ (.cons ⟨_, read.2, Report.ofBytes_toJson formed'⟩ .nil)

theorem request?_twoFiles (output : String) (given : output ≠ "") :
    request? (mergeLine ["a.json", "b.json"] output) = some (.run (.merge ["a.json", "b.json"] output)) :=
  request?_mergeLine (by decide) (by simp) given

theorem exists_run (host : Host (StateM FileStore)) (arguments : List String) (store : FileStore) :
    ∃ (outcome : Outcome) (after : FileStore), (run host arguments).run store = (outcome, after) :=
  ⟨_, _, (Prod.eta _).symm⟩

theorem merging_is_all_or_nothing_in_place :
    ∃ (store after : FileStore) (outcome : Outcome),
      (run quietHost (mergeLine ["a.json", "b.json"] "/a.json")).run store = (outcome, after) ∧ outcome.code = 0 ∧
      after.read "a.json" = .ok (single "load" (.count 5)).toJson.toUTF8 ∧
      after.read "b.json" = .ok (single "load" (.count 3)).toJson.toUTF8 := by
  have formed (number : Count) : (single "load" (.count number)).IsWellFormed :=
    isWellFormed_single "load" (Metric.isFinite_of_none rfl)
  have held := holds_twoReports (formed 2) (formed 3)
  have added : Report.mergeAll [single "load" (.count 2), single "load" (.count 3)] = .ok (single "load" (.count 5)) := rfl
  obtain ⟨outcome, after, ran⟩ := exists_run quietHost (mergeLine ["a.json", "b.json"] "/a.json") (twoReports _ _)
  have spec := (merging_is_all_or_nothing quietHost rfl _ "/a.json" _).2 _ _ _ (request?_twoFiles _ (by decide)) ran
  obtain ⟨reports, merged, held', done, fine, -⟩ := spec.2 fun obstacle => obstacle.not_merged held added
  obtain ⟨success, -, wrote⟩ := fine (writable_twoFiles _ _).1
  cases List.right_unique_forall₂' FileStore.rightUnique_holds held' held
  cases done.symm.trans added
  exact ⟨_, after, outcome, ran, success, wrote.reads "a.json" rfl, (wrote.others "b.json" _ (by decide)).mpr (read_twoFiles _ _).2⟩

end CommandLine

end CallProfile
