import CallProfile.Proofs.FileStore
import CallProfile.Report.File

namespace CallProfile.FileStore

variable {α β : Type} {store after : FileStore} {path : String} {report : Report}

section Tasks

variable {task : ExceptT Failure (StateM FileStore) α} {next : α → ExceptT Failure (StateM FileStore) β}

theorem run_lift_of {task : StateM FileStore α} {value : α} (done : task.run store = (value, after)) :
    (liftM task : ExceptT Failure (StateM FileStore) α).run.run store = (.ok value, after) :=
  congrArg (fun result : α × FileStore => ((.ok result.1 : Except Failure α), result.2)) done

theorem run_bind_of_ok {value : α} (done : task.run.run store = (.ok value, after)) :
    (task >>= next).run.run store = (next value).run.run after := by
  rw [ExceptT.run_bind, StateT.run_bind, done]
  rfl

theorem run_bind_of_error {failure : Failure} (failed : task.run.run store = (.error failure, after)) :
    (task >>= next).run.run store = (.error failure, after) := by
  rw [ExceptT.run_bind, StateT.run_bind, failed]
  rfl

def Looks (task : ExceptT Failure (StateM FileStore) α) (view : FileStore → Except Failure α) : Prop :=
  ∀ store, task.run.run store = (view store, store)

theorem Looks.bind {view : FileStore → Except Failure α} (looks : Looks task view)
    {further : α → FileStore → Except Failure β} (looksNext : ∀ value, Looks (next value) (further value)) :
    Looks (task >>= next) fun store => view store >>= fun value => further value store := by
  intro store
  have looked := looks store
  dsimp only
  cases result : view store with
  | error failure => exact run_bind_of_error (looked.trans (by rw [result]))
  | ok value => exact (run_bind_of_ok (looked.trans (by rw [result]))).trans (looksNext value store)

theorem looks_foldlM {step : α → β → ExceptT Failure (StateM FileStore) α} {view : α → β → FileStore → Except Failure α}
    (looks : ∀ sum item, Looks (step sum item) (view sum item)) (items : List β) (first : α) :
    Looks (items.foldlM step first) fun store => items.foldlM (fun sum item => view sum item store) first := by
  induction items generalizing first with
  | nil => exact fun _ => rfl
  | cons item items ih =>
    simp only [List.foldlM_cons]
    exact (looks first item).bind fun sum => ih sum

end Tasks

def loadedFrom (path : String) : Except FileError ByteArray → Except Failure Report
  | .error .isDirectory => .error ⟨[.parseReport path], .file .isDirectory⟩
  | .error error => .error ⟨[.openReport path], .file error⟩
  | .ok content => attempting [.parseReport path] .json (Report.ofBytes content)

theorem looks_load (path : String) : Looks (Report.load files path) fun store => loadedFrom path (store.read path) := by
  have looks : Looks (liftM (files.read path)) fun store => .ok (store.read path) := fun _ => rfl
  show Looks (liftM (files.read path) >>= _) fun store =>
    (Except.ok (store.read path) : Except Failure _) >>= fun found => loadedFrom path found
  apply looks.bind
  intro found store
  cases found with
  | error error => cases error <;> rfl
  | ok content => rfl

/-- The report that a file holds. -/
def Holds (store : FileStore) (path : String) (report : Report) : Prop :=
  ∃ content, store.read path = .ok content ∧ Report.ofBytes content = .ok report

theorem loadedFrom_eq_ok : loadedFrom path (store.read path) = .ok report ↔ store.Holds path report := by
  unfold Holds
  cases store.read path with
  | error error =>
    apply iff_of_false
    · cases error <;> exact fun same => nomatch same
    · rintro ⟨content, same, -⟩
      cases same
  | ok content =>
    rw [loadedFrom]
    constructor
    · intro loaded
      exact ⟨content, rfl, attempting_eq_ok loaded⟩
    · rintro ⟨_, ⟨⟩, read⟩
      rw [read]
      rfl

theorem run_load_eq_ok : (Report.load files path).run.run store = (.ok report, store) ↔ store.Holds path report := by
  rw [looks_load, Prod.mk.injEq, ← loadedFrom_eq_ok]
  exact and_iff_left rfl

theorem Holds.unique {other : Report} (first : store.Holds path report) (second : store.Holds path other) :
    report = other := by
  obtain ⟨content, read, parsed⟩ := first
  obtain ⟨content', read', parsed'⟩ := second
  rw [read] at read'
  cases read'
  rw [parsed] at parsed'
  exact Except.ok.inj parsed'

theorem run_write_of_ok {content : ByteArray} (written : store.write path content = .ok after) :
    (files.write path content).run store = (.ok (), after) := by
  simp only [files, StateT.run_bind, StateT.run_get, pure_bind, written]
  rfl

theorem run_write_of_error {content : ByteArray} {error : FileError} (refused : store.write path content = .error error) :
    (files.write path content).run store = (.error error, store) := by
  simp only [files, StateT.run_bind, StateT.run_get, pure_bind, refused]
  rfl

theorem run_save_of_ok (written : store.write path report.toJson.toUTF8 = .ok after) :
    (report.save files path).run.run store = (.ok (), after) :=
  run_bind_of_ok (run_lift_of (run_write_of_ok written))

theorem run_save_of_error {error : FileError} (refused : store.write path report.toJson.toUTF8 = .error error) :
    (report.save files path).run.run store = (.error ⟨[.createFile path], .file error⟩, store) :=
  run_bind_of_ok (run_lift_of (run_write_of_error refused))

end CallProfile.FileStore
