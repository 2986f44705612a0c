import CallProfile.Counter.Usage
import CallProfile.Proofs.Counter.Ledger

namespace CallProfile

theorem mapM_eq_error_iff {α β ε : Type} (step : α → Except ε β) {items : List α} {error : ε} :
    items.mapM step = .error error ↔
      ∃ item, items.find? (fun item => !(step item).isOk) = some item ∧ step item = .error error := by
  induction items with
  | nil => simp [pure, Except.pure]
  | cons first rest ih =>
    rw [List.mapM_cons]
    cases here : step first with
    | error refusal =>
      rw [List.find?_cons_of_pos (by rw [here]; rfl)]
      simp [here, bind, Except.bind]
    | ok value =>
      have later : (rest.mapM step).map (value :: ·) = .error error ↔ rest.mapM step = .error error := map_eq_error
      rw [List.find?_cons_of_neg (by rw [here]; exact Bool.false_ne_true), ← ih]
      exact later

namespace Backend

variable {σ : Type}

/-- What a source lists of a device and what it reads there agree. -/
structure ReadsListed (backend : Backend σ) (world : σ) : Prop where
  reads : ∀ thread device names, names ≠ [] →
    ((∃ values, (backend.read thread device names world).1 = .ok values) ↔
      ∀ name ∈ names, backend.supports world device name)
  values : ∀ thread device names values, (backend.read thread device names world).1 = .ok values →
    List.Forall₂ (fun name value => (backend.read thread device [name] world).1 = .ok [value]) names values
  unavailable : ∀ thread device names error, (backend.read thread device names world).1 = .error error →
    backend.available world device = [] → error = .deviceUnavailable backend.name device
  unknown : ∀ thread device names error, (backend.read thread device names world).1 = .error error →
    backend.available world device ≠ [] →
      ∃ name, names.find? (fun name => !backend.supports world device name) = some name ∧
        error = .unknownCounter name device

def lookUp (device : Device) (value? : String → Option Count) (name : String) : Except CounterError Count :=
  match value? name with
  | none => .error (.unknownCounter name device)
  | some value => .ok value

theorem lookUp_eq_ok_iff {device : Device} {value? : String → Option Count} {name : String} {value : Count} :
    lookUp device value? name = .ok value ↔ value? name = some value := by
  rw [lookUp]
  cases value? name <;> simp

theorem lookUp_eq_error_iff {device : Device} {value? : String → Option Count} {name : String} {error : CounterError} :
    lookUp device value? name = .error error ↔ value? name = none ∧ error = .unknownCounter name device := by
  rw [lookUp]
  cases value? name <;> simp [eq_comm]

theorem isOk_lookUp (device : Device) (value? : String → Option Count) (name : String) :
    (lookUp device value? name).isOk = (value? name).isSome := by
  rw [lookUp]
  cases value? name <;> rfl

/-- A source that reads from tables, one for each device that has counters, and lists what is in them. -/
structure ReadsTables (backend : Backend σ) (world : σ) (table? : ThreadId → Device → Option (String → Option Count)) :
    Prop where
  read : ∀ thread device names, (backend.read thread device names world).1 =
    match table? thread device with
    | none => .error (.deviceUnavailable backend.name device)
    | some value? => names.mapM (lookUp device value?)
  bare : ∀ thread device, backend.available world device = [] ↔ table? thread device = none
  listed : ∀ thread device value?, table? thread device = some value? →
    ∀ name, backend.supports world device name = (value? name).isSome

namespace ReadsTables

variable {backend : Backend σ} {world : σ} {table? : ThreadId → Device → Option (String → Option Count)}
  (tables : backend.ReadsTables world table?) (thread : ThreadId) {device : Device}
include tables

theorem read_of_none {names : List String} (bare : table? thread device = none) :
    (backend.read thread device names world).1 = .error (.deviceUnavailable backend.name device) := by
  rw [tables.read, bare]

section Table

variable {value? : String → Option Count} (table : table? thread device = some value?)
include table

theorem read_eq_ok_iff {names : List String} {values : List Count} :
    (backend.read thread device names world).1 = .ok values ↔
      List.Forall₂ (fun name value => value? name = some value) names values := by
  rw [tables.read, table]
  simp only [mapM_eq_ok_iff, lookUp_eq_ok_iff]

theorem read_eq_error_iff {names : List String} {error : CounterError} :
    (backend.read thread device names world).1 = .error error ↔
      ∃ name, names.find? (fun name => !backend.supports world device name) = some name ∧
        error = .unknownCounter name device := by
  rw [tables.read, table]
  simp only [mapM_eq_error_iff, isOk_lookUp, lookUp_eq_error_iff, ← tables.listed thread device value? table]
  refine exists_congr fun name => and_congr_right fun found => and_iff_right_of_imp fun _ => ?_
  have missing := List.find?_some found
  rw [tables.listed thread device value? table] at missing
  simpa using missing

theorem exists_read_iff {names : List String} :
    (∃ values, (backend.read thread device names world).1 = .ok values) ↔
      ∀ name ∈ names, backend.supports world device name := by
  have fails {error : CounterError} : (backend.read thread device names world).1 = .error error ↔ _ :=
    tables.read_eq_error_iff thread table
  cases result : (backend.read thread device names world).1 with
  | ok values =>
    have none : names.find? (fun name => !backend.supports world device name) = none := by
      refine Option.eq_none_iff_forall_ne_some.mpr fun name found => ?_
      cases result.symm.trans (fails.mpr ⟨name, found, rfl⟩)
    exact iff_of_true ⟨values, rfl⟩ (by simpa using List.find?_eq_none.mp none)
  | error error =>
    obtain ⟨name, found, -⟩ := fails.mp result
    refine iff_of_false (fun ⟨_, same⟩ => by cases same) fun all => ?_
    have missing := List.find?_some found
    rw [all name (List.mem_of_find?_eq_some found)] at missing
    cases missing

end Table

theorem readsListed : backend.ReadsListed world where
  reads thread device names listed := by
    cases table : table? thread device with
    | some value? => exact tables.exists_read_iff thread table
    | none =>
      rw [tables.read_of_none thread table]
      refine iff_of_false (fun ⟨_, same⟩ => by cases same) fun all => ?_
      obtain ⟨first, rest, rfl⟩ := List.exists_cons_of_ne_nil listed
      have supported := all first List.mem_cons_self
      rw [supports, (tables.bare thread device).mpr table] at supported
      cases supported
  values thread device names values served := by
    cases table : table? thread device with
    | none =>
      rw [tables.read_of_none thread table] at served
      cases served
    | some value? =>
      refine ((tables.read_eq_ok_iff thread table).mp served).imp fun name value here => ?_
      exact (tables.read_eq_ok_iff thread table).mpr (.cons here .nil)
  unavailable thread device names error failed bare := by
    rw [tables.read_of_none thread ((tables.bare thread device).mp bare)] at failed
    cases failed
    rfl
  unknown thread device names error failed some := by
    rw [Ne, tables.bare thread device] at some
    obtain ⟨value?, table⟩ := Option.ne_none_iff_exists'.mp some
    exact (tables.read_eq_error_iff thread table).mp failed

end ReadsTables

end Backend

namespace Usage

theorem mem_counterNames_iff (usage : Usage) (name : String) : name ∈ counterNames ↔ (usage.value? name).isSome := by
  constructor
  · intro member
    simp only [counterNames, List.mem_cons, List.not_mem_nil, or_false] at member
    rcases member with rfl | rfl | rfl | rfl | rfl | rfl | rfl | rfl <;> rfl
  · intro valued
    unfold value? at valued
    split at valued
    case h_9 => cases valued
    all_goals decide

theorem readsTables {σ : Type} (current : ThreadId → σ → Usage) (world : σ) :
    (backend current).ReadsTables world fun thread device =>
      if device.isCpu then some (current thread world).value? else none where
  read thread device names := by
    simp only [backend, read]
    split <;> rfl
  bare thread device := by
    simp only [backend, available]
    split <;> simp [counterNames]
  listed thread device value? table name := by
    split at table
    next processor =>
      cases table
      simp only [Backend.supports, backend, available, if_pos processor]
      rw [Bool.eq_iff_iff, List.contains_iff_mem, mem_counterNames_iff]
    next => cases table

end Usage

namespace ManualCounters

/-- Whether the counters are what some accesses have made of none. -/
def Reachable (counters : ManualCounters) : Prop := ∃ accesses, (Ledger.opened.play accesses).counters = counters

theorem Reachable.contains_iff {counters : ManualCounters} (reachable : counters.Reachable) (device : Device) :
    counters.values.contains device ↔ ∃ counter, (counters.value? device counter).isSome := by
  obtain ⟨accesses, rfl⟩ := reachable
  have balanced := Ledger.balanced_opened.play accesses
  simp only [balanced.known, balanced.declared]

theorem readsTables {σ : Type} {counters : σ → ManualCounters} {world : σ} (reachable : (counters world).Reachable) :
    (backend counters).ReadsTables world fun _ device => ((counters world).values.get? device).map (·.get?) where
  read thread device names := by
    simp only [backend, read]
    cases (counters world).values.get? device <;> rfl
  bare thread device := by
    have some := reachable.contains_iff device
    simp only [backend, available, SortedMap.contains, value?] at some ⊢
    cases found : (counters world).values.get? device with
    | none => simp
    | some declared =>
      rw [found] at some
      obtain ⟨counter, valued⟩ := some.mp rfl
      have member : counter ∈ declared.keys := SortedMap.mem_keys_iff.mpr valued
      simp [List.ne_nil_of_mem member]
  listed thread device value? table name := by
    obtain ⟨declared, found, rfl⟩ := Option.map_eq_some_iff.mp table
    rw [Bool.eq_iff_iff, supports_iff, value?, found, Option.bind_some]

end ManualCounters

/--
Of both sources, at least one counter is read exactly if all that are asked for are listed, with one value for each, and
otherwise the first one that is not listed is told, or the device where nothing is listed.
-/
theorem backends_read_what_they_list {σ : Type} (world : σ) :
    (∀ counters : σ → ManualCounters, (counters world).Reachable →
        (ManualCounters.backend counters).ReadsListed world) ∧
      ∀ current : ThreadId → σ → Usage, (Usage.backend current).ReadsListed world := by
  constructor
  · intro counters reachable
    exact (ManualCounters.readsTables reachable).readsListed
  · intro current
    exact (Usage.readsTables current world).readsListed

open ManualCounters in
theorem backends_read_what_they_list_mixed :
    let accesses : List Access := [.operate (.define (.gpu 0) "ticks"), .operate (.add (.gpu 0) "ticks" 5)]
    let counters := (Ledger.opened.play accesses).counters
    let answer := ((ManualCounters.backend id).read ⟨0⟩ (.gpu 0) ["ticks", "tocks", "tacks"] counters).1
    counters.Reachable ∧ (¬ ∃ values, answer = .ok values) ∧
      ∀ error, answer = .error error → error = .unknownCounter "tocks" (.gpu 0) := by
  intro accesses counters answer
  have reachable : counters.Reachable := ⟨_, rfl⟩
  have listed := (backends_read_what_they_list counters).1 id reachable
  refine ⟨reachable, fun read => ?_, fun error failed => ?_⟩
  · have all := (listed.reads ⟨0⟩ (.gpu 0) ["ticks", "tocks", "tacks"] (by simp)).mp read
    exact absurd (all "tocks" (by simp)) (by decide +kernel)
  · have lists : (ManualCounters.backend id).available counters (.gpu 0) ≠ [] := by decide +kernel
    obtain ⟨name, found, rfl⟩ := listed.unknown ⟨0⟩ (.gpu 0) ["ticks", "tocks", "tacks"] error failed lists
    have first : ["ticks", "tocks", "tacks"].find?
        (fun name => !(ManualCounters.backend id).supports counters (.gpu 0) name) = some "tocks" := by decide +kernel
    cases first.symm.trans found
    rfl

end CallProfile
