import CallProfile.Proofs.Counter.Manual
import CallProfile.Proofs.Device.Grammar
import CallProfile.Proofs.Session.Config
import Mathlib.Data.List.Nodup

namespace CallProfile

theorem SortedMap.length_place {κ α : Type} [Ord κ] {key : κ} (value : α) {entries : List (κ × α)}
    (absent : find key entries = none) : (place key value entries).length = entries.length + 1 := by
  induction entries with
  | nil => rfl
  | cons first rest ih =>
    rw [find] at absent
    rw [place]
    split at absent
    · cases absent
    next apart =>
      split
      · rfl
      next same => exact absurd same apart
      · rw [List.length_cons, ih absent, List.length_cons]

namespace SessionConfig

def planOf (listed : List (String × List String)) : Except ConfigError CounterPlan :=
  listed.foldlM (fun plan entry => addDevice plan entry.1 entry.2) .empty

/-- An order in which the entries of a configuration are found, and those of every plan. -/
structure Order (config : SessionConfig) where
  listed : List (String × List String)
  found : CounterPlan → List (Device × List String)
  listing : listed.Perm config.counters.entries
  finding : ∀ plan, (found plan).Perm plan.entries

def Order.ascending (config : SessionConfig) : config.Order :=
  ⟨config.counters.entries, SortedMap.entries, .refl _, fun _ => .refl _⟩

def validateIn (config : SessionConfig) (order : config.Order) : Except ConfigError Unit := do
  if Text.trim config.name = "" then throw .blankName
  let plan ← planOf order.listed
  (order.found plan).forM fun entry => checkCounters entry.1 entry.2
  if !config.wallClock && config.counters.isEmpty then throw .noCollector

theorem validate_eq (config : SessionConfig) : config.validate = config.validateIn (.ascending config) := rfl

theorem addDevice_of_fresh {plan : CounterPlan} {text : String} {device : Device} (names : List String)
    (parsed : Device.parse text = .ok device) (fresh : plan.get? device = none) :
    addDevice plan text names = .ok (plan.insert device names) := by
  simp [addDevice, parsed, SortedMap.contains, fresh]

theorem exists_addDevices_iff {start : CounterPlan} {entries : List (String × List String)} :
    (∃ plan, entries.foldlM (fun plan entry => addDevice plan entry.1 entry.2) start = .ok plan) ↔
      (∀ entry ∈ entries, ∃ device, Device.parse entry.1 = .ok device ∧ start.get? device = none) ∧
        entries.Pairwise fun one other => Device.parse one.1 ≠ Device.parse other.1 := by
  induction entries generalizing start with
  | nil => simp [pure, Except.pure]
  | cons first rest ih =>
    rw [List.foldlM_cons, List.pairwise_cons]
    constructor
    · rintro ⟨plan, planned⟩
      obtain ⟨middle, added, planned⟩ := bind_eq_ok planned
      obtain ⟨place, parsed, fresh, rfl⟩ := addDevice_eq_ok added
      obtain ⟨later, apart⟩ := ih.mp ⟨plan, planned⟩
      -- The devices of later entries are missed in the plan to which the first device was added.
      have missed : ∀ entry ∈ rest, ∃ device, Device.parse entry.1 = .ok device ∧ device ≠ place ∧
          start.get? device = none := by
        intro entry member
        obtain ⟨device, other, absent⟩ := later entry member
        rw [SortedMap.get?_insert] at absent
        split at absent
        · cases absent
        next differs => exact ⟨device, other, differs, absent⟩
      refine ⟨fun entry member => ?_, fun entry member same => ?_, apart⟩
      · rcases List.mem_cons.mp member with rfl | member
        · exact ⟨place, parsed, fresh⟩
        · obtain ⟨device, other, -, absent⟩ := missed entry member
          exact ⟨device, other, absent⟩
      · obtain ⟨device, other, differs, -⟩ := missed entry member
        exact differs (Except.ok.inj (other.symm.trans (same.symm.trans parsed)))
    · rintro ⟨each, differs, apart⟩
      obtain ⟨place, parsed, fresh⟩ := each first List.mem_cons_self
      have further : ∃ plan, rest.foldlM (fun plan entry => addDevice plan entry.1 entry.2)
          (start.insert place first.2) = .ok plan := by
        refine ih.mpr ⟨fun entry member => ?_, apart⟩
        obtain ⟨device, other, absent⟩ := each entry (List.mem_cons_of_mem _ member)
        have distinct : device ≠ place := by
          rintro rfl
          exact differs entry member (parsed.trans other.symm)
        exact ⟨device, other, by rw [SortedMap.get?_insert_of_ne _ distinct, absent]⟩
      obtain ⟨plan, planned⟩ := further
      refine ⟨plan, ?_⟩
      rw [addDevice_of_fresh first.2 parsed fresh]
      exact planned

theorem length_of_addDevices {start plan : CounterPlan} {entries : List (String × List String)}
    (planned : entries.foldlM (fun plan entry => addDevice plan entry.1 entry.2) start = .ok plan) :
    plan.entries.length = start.entries.length + entries.length := by
  induction entries generalizing start with
  | nil =>
    cases planned
    rfl
  | cons first rest ih =>
    rw [List.foldlM_cons] at planned
    obtain ⟨middle, added, planned⟩ := bind_eq_ok planned
    obtain ⟨place, parsed, fresh, rfl⟩ := addDevice_eq_ok added
    rw [ih planned, SortedMap.insert, SortedMap.length_place first.2 fresh, List.length_cons]
    omega

theorem repeatedFrom?_eq_none_iff {seen names : List String} :
    repeatedFrom? seen names = none ↔ names.Nodup ∧ ∀ name ∈ names, name ∉ seen := by
  induction names generalizing seen with
  | nil => simp [repeatedFrom?]
  | cons name rest ih =>
    rw [repeatedFrom?]
    by_cases known : name ∈ seen
    · simp [known]
    · simp only [List.contains_iff_mem, known, if_false, ih, List.nodup_cons, List.mem_cons, not_or]
      grind

theorem repeated?_eq_none_iff {names : List String} : repeated? names = none ↔ names.Nodup := by
  rw [repeated?, repeatedFrom?_eq_none_iff]
  simp

theorem checkCounters_eq_ok_iff {device : Device} {names : List String} :
    checkCounters device names = .ok () ↔ names ≠ [] ∧ names.Nodup := by
  rw [← repeated?_eq_none_iff, checkCounters]
  cases names with
  | nil => simp
  | cons name rest => cases repeated? (name :: rest) <;> simp

/-- What a configuration must be for a session to be made of it. -/
structure IsValid (config : SessionConfig) : Prop where
  named : ∃ c ∈ config.name.toList, ¬ Text.isBlank c
  read : ∀ text ∈ config.counters.keys, ∃ device, Device.parse text = .ok device
  apart : ∀ text ∈ config.counters.keys, ∀ other ∈ config.counters.keys,
    Device.parse text = Device.parse other → text = other
  listed : ∀ text names, config.counters.get? text = some names → names ≠ [] ∧ names.Nodup
  measures : config.wallClock = true ∨ config.counters.keys ≠ []

theorem trim_name_iff {name : String} : Text.trim name ≠ "" ↔ ∃ c ∈ name.toList, ¬ Text.isBlank c := by
  have blank : Text.trim name = "" ↔ Text.Blank name.toList := by
    rw [Text.trim, ← Text.trimChars_eq_nil_iff, ← String.toList_inj, String.toList_ofList]
    rfl
  rw [ne_eq, blank, Text.Blank]
  simp

theorem planOf_perm {listed entries : List (String × List String)} (same : listed.Perm entries) (plan : CounterPlan) :
    planOf listed = .ok plan ↔ planOf entries = .ok plan := by
  have onward {one other : List (String × List String)} (same : one.Perm other) (planned : planOf one = .ok plan) :
      planOf other = .ok plan := by
    obtain ⟨each, apart⟩ := exists_addDevices_iff.mp ⟨plan, planned⟩
    obtain ⟨plan', planned'⟩ : ∃ plan', planOf other = .ok plan' :=
      exists_addDevices_iff.mpr ⟨fun entry member => each entry (same.mem_iff.mpr member),
        (same.pairwise_iff fun differs => Ne.symm differs).mp apart⟩
    have alike : plan' = plan := by
      refine SortedMap.ext_get? fun device => Option.ext fun names => ?_
      rw [get?_of_addDevices planned, get?_of_addDevices planned']
      simp only [same.mem_iff]
    exact alike ▸ planned'
  exact ⟨onward same, onward same.symm⟩

theorem exists_plan_iff {config : SessionConfig} :
    (∃ plan, config.plan = .ok plan) ↔
      (∀ text ∈ config.counters.keys, ∃ device, Device.parse text = .ok device) ∧
      ∀ text ∈ config.counters.keys, ∀ other ∈ config.counters.keys,
        Device.parse text = Device.parse other → text = other := by
  have each : (∀ entry ∈ config.counters.entries, ∃ device, Device.parse entry.1 = .ok device ∧
      (SortedMap.empty : CounterPlan).get? device = none) ↔
      ∀ text ∈ config.counters.keys, ∃ device, Device.parse text = .ok device := by
    simp [SortedMap.keys]
  have apart : config.counters.entries.Pairwise (fun one other => Device.parse one.1 ≠ Device.parse other.1) ↔
      (config.counters.keys.map Device.parse).Nodup := by
    rw [List.Nodup, List.pairwise_map, SortedMap.keys, List.pairwise_map]
  rw [plan, exists_addDevices_iff, each, apart, List.nodup_map_iff_inj_on config.counters.nodup_keys]

theorem validateIn_eq_ok_iff {config : SessionConfig} {order : config.Order} :
    config.validateIn order = .ok () ↔
      Text.trim config.name ≠ "" ∧
      (∃ plan, planOf order.listed = .ok plan ∧ ∀ entry ∈ order.found plan, entry.2 ≠ [] ∧ entry.2.Nodup) ∧
      (config.wallClock = true ∨ config.counters.keys ≠ []) := by
  have measures : (!config.wallClock && config.counters.isEmpty) = false ↔
      (config.wallClock = true ∨ config.counters.keys ≠ []) := by
    cases config.wallClock <;> simp [SortedMap.isEmpty, SortedMap.keys]
  rw [← measures]
  unfold validateIn
  dsimp only
  by_cases blank : Text.trim config.name = ""
  · simp [blank, bind, Except.bind, throw, throwThe, MonadExceptOf.throw]
  · rw [if_neg blank]
    constructor
    · intro valid
      obtain ⟨plan, planned, valid⟩ := bind_eq_ok valid
      obtain ⟨_, checked, valid⟩ := bind_eq_ok valid
      refine ⟨blank, ⟨plan, planned, fun entry member => ?_⟩, ?_⟩
      · exact checkCounters_eq_ok_iff.mp (forM_eq_ok_iff.mp checked entry member)
      · split at valid
        · cases valid
        next some => exact Bool.eq_false_iff.mpr some
    · rintro ⟨-, ⟨plan, planned, checked⟩, some⟩
      have passed : ((order.found plan).forM fun entry => checkCounters entry.1 entry.2) = .ok () :=
        forM_eq_ok_iff.mpr fun entry member => checkCounters_eq_ok_iff.mpr (checked entry member)
      rw [planned]
      change (((order.found plan).forM fun entry => checkCounters entry.1 entry.2) >>= _) = _
      rw [passed, some]
      rfl

theorem validateIn_iff {config : SessionConfig} (order : config.Order) :
    config.validateIn order = .ok () ↔ config.IsValid := by
  rw [validateIn_eq_ok_iff, trim_name_iff]
  constructor
  · rintro ⟨named, ⟨plan, planned, checked⟩, measures⟩
    have planned := (planOf_perm order.listing plan).mp planned
    obtain ⟨read, apart⟩ := exists_plan_iff.mp ⟨plan, planned⟩
    refine ⟨named, read, apart, fun text names here => ?_, measures⟩
    obtain ⟨device, parsed⟩ := read text (SortedMap.mem_keys_iff.mpr (Option.isSome_of_eq_some here))
    have held := (plan_get?_iff planned device names).mpr ⟨text, here, parsed⟩
    exact checked (device, names) ((order.finding plan).mem_iff.mpr (SortedMap.mem_entries_iff.mpr held))
  · intro valid
    obtain ⟨plan, planned⟩ := exists_plan_iff.mpr ⟨valid.read, valid.apart⟩
    refine ⟨valid.named, ⟨plan, (planOf_perm order.listing plan).mpr planned, fun entry member => ?_⟩, valid.measures⟩
    have held := SortedMap.mem_entries_iff.mp ((order.finding plan).mem_iff.mp member)
    obtain ⟨text, here, -⟩ := (plan_get?_iff planned entry.1 entry.2).mp held
    exact valid.listed text entry.2 here

end SessionConfig

variable {σ : Type}

namespace HardwareCollector

def ofPlanIn (entries : List (Device × List String)) (backend : Backend σ) (plan : CounterPlan) (world : σ) :
    Except ProfileError (HardwareCollector σ) :=
  match entries.findSome? fun entry =>
    (entry.2.find? fun counter => !backend.supports world entry.1 counter).map (entry.1, ·) with
  | some (device, counter) => .error (.unsupportedCounter counter device.text)
  | none => .ok ⟨backend, plan, .empty⟩

theorem ofPlanIn_cases {entries : List (Device × List String)} {plan : CounterPlan}
    (finding : entries.Perm plan.entries) (backend : Backend σ) (world : σ) :
    ofPlanIn entries backend plan world = .ok ⟨backend, plan, .empty⟩ ∧
      (∀ device names, plan.get? device = some names → ∀ counter ∈ names, backend.supports world device counter) ∨
    ∃ device names counter, plan.get? device = some names ∧ counter ∈ names ∧
      ¬ backend.supports world device counter ∧
      ofPlanIn entries backend plan world = .error (.unsupportedCounter counter device.text) := by
  have held {device : Device} {names : List String} :
      (device, names) ∈ entries ↔ plan.get? device = some names :=
    finding.mem_iff.trans SortedMap.mem_entries_iff
  unfold ofPlanIn
  split
  next device counter missing =>
    obtain ⟨entry, member, missing⟩ := List.exists_of_findSome?_eq_some missing
    obtain ⟨name, missing, same⟩ := Option.map_eq_some_iff.mp missing
    cases same
    refine .inr ⟨entry.1, entry.2, counter, held.mp member, List.mem_of_find?_eq_some missing, ?_, rfl⟩
    simpa using List.find?_some missing
  next known =>
    refine .inl ⟨rfl, fun device names planned counter listed => ?_⟩
    simp only [List.findSome?_eq_none_iff, Option.map_eq_none_iff, List.find?_eq_none] at known
    simpa using known (device, names) (held.mpr planned) counter listed

end HardwareCollector

namespace SessionConfig

def collectorsIn (config : SessionConfig) (order : config.Order) (clock : Clock σ) (backend : Backend σ) (world : σ) :
    Except Failure (List (Collector σ)) := do
  let timers := if config.wallClock then [Collector.ofClock clock] else []
  let plan ← attempting [] .config (planOf order.listed)
  if plan.isEmpty then return timers
  else
    let hardware ← attempting [] .profile (HardwareCollector.ofPlanIn (order.found plan) backend plan world)
    return timers ++ [.hardware hardware]

theorem collectors_eq (config : SessionConfig) (clock : Clock σ) (backend : Backend σ) (world : σ) :
    config.collectors clock backend world = config.collectorsIn (.ascending config) clock backend world := rfl

def Supported (config : SessionConfig) (backend : Backend σ) (world : σ) : Prop :=
  ∀ device names, config.Lists device names → ∀ counter ∈ names, backend.supports world device counter

/-- Which collectors are made of a configuration with this plan, or which counter is said to be missing. -/
structure Equips (config : SessionConfig) (plan : CounterPlan) (clock : Clock σ) (backend : Backend σ) (world : σ)
    (made : Except Failure (List (Collector σ))) : Prop where
  supported : config.Supported backend world → ∃ hardware : HardwareCollector σ,
    hardware.backend = backend ∧ hardware.calls = .empty ∧
    (∀ device, hardware.countersFor device = (plan.get? device).getD []) ∧
    made = .ok ((if config.wallClock then [Collector.ofClock clock] else []) ++
      if config.counters.isEmpty then [] else [.hardware hardware])
  unsupported : ¬ config.Supported backend world → ∃ device names counter,
    config.Lists device names ∧ counter ∈ names ∧ ¬ backend.supports world device counter ∧
    made = .error ⟨[], .profile (.unsupportedCounter counter device.text)⟩

theorem collectorsIn_of_plan {config : SessionConfig} {plan : CounterPlan} {order : config.Order}
    (planned : planOf order.listed = .ok plan) (clock : Clock σ) (backend : Backend σ) (world : σ) :
    config.collectorsIn order clock backend world =
      let timers := if config.wallClock then [Collector.ofClock clock] else []
      if plan.isEmpty then .ok timers
      else (attempting [] .profile (HardwareCollector.ofPlanIn (order.found plan) backend plan world)).map
        fun hardware => timers ++ [.hardware hardware] := by
  simp only [collectorsIn, planned]
  rfl

theorem length_of_plan {config : SessionConfig} {plan : CounterPlan} (planned : config.plan = .ok plan) :
    plan.entries.length = config.counters.entries.length :=
  (length_of_addDevices planned).trans (Nat.zero_add _)

theorem isEmpty_of_plan {config : SessionConfig} {plan : CounterPlan} (planned : config.plan = .ok plan) :
    plan.isEmpty = config.counters.isEmpty := by
  rw [Bool.eq_iff_iff, SortedMap.isEmpty, SortedMap.isEmpty, List.isEmpty_iff_length_eq_zero,
    List.isEmpty_iff_length_eq_zero, length_of_plan planned]

theorem equips {config : SessionConfig} {plan : CounterPlan} {order : config.Order}
    (planned : planOf order.listed = .ok plan) (clock : Clock σ) (backend : Backend σ) (world : σ) :
    config.Equips plan clock backend world (config.collectorsIn order clock backend world) := by
  have planned' : config.plan = .ok plan := (planOf_perm order.listing plan).mp planned
  have lists := plan_get?_iff planned'
  have outcome := HardwareCollector.ofPlanIn_cases (order.finding plan) backend world
  rw [collectorsIn_of_plan planned, isEmpty_of_plan planned']
  refine ⟨fun supported => ⟨⟨backend, plan, .empty⟩, rfl, rfl, fun device => rfl, ?_⟩, fun missing => ?_⟩
  · rcases outcome with ⟨built, -⟩ | ⟨device, names, counter, here, member, unknown, -⟩
    · rw [built]
      by_cases bare : config.counters.isEmpty = true
      · simp only [if_pos bare, List.append_nil]
      · simp only [if_neg bare]
        rfl
    · exact absurd (supported device names ((lists device names).mp here) counter member) unknown
  · rcases outcome with ⟨-, known⟩ | ⟨device, names, counter, here, member, unknown, refused⟩
    · exact absurd (fun device names listed => known device names ((lists device names).mpr listed)) missing
    · refine ⟨device, names, counter, (lists device names).mp here, member, unknown, ?_⟩
      have some : config.counters.isEmpty ≠ true := by
        rw [← isEmpty_of_plan planned']
        intro bare
        rw [SortedMap.get?_of_isEmpty bare] at here
        cases here
      simp only [if_neg some, refused]
      rfl

/--
A configuration is found valid exactly if it is, in whatever order its entries are found. It then has a plan with an
entry for each of its own, which gives the device of each text the list of that text, and its collectors can be made
exactly if all its counters are there.
-/
theorem validation_is_exact (config : SessionConfig) :
    (config.validate = .ok () ↔ config.IsValid) ∧
    (∀ order : config.Order, config.validateIn order = .ok () ↔ config.validate = .ok ()) ∧
    (config.IsValid → ∃ plan : CounterPlan, config.plan = .ok plan ∧
      (∀ order : config.Order, planOf order.listed = .ok plan) ∧
      (∀ text names, config.counters.get? text = some names →
        ∃ device, Device.parse text = .ok device ∧ plan.get? device = some names) ∧
      (∀ device names, plan.get? device = some names ↔ config.Lists device names) ∧
      plan.keys.length = config.counters.keys.length ∧
      ∀ {σ : Type} (clock : Clock σ) (backend : Backend σ) (world : σ),
        config.Equips plan clock backend world (config.collectors clock backend world) ∧
        ∀ order : config.Order,
          config.Equips plan clock backend world (config.collectorsIn order clock backend world)) := by
  have exact : config.validate = .ok () ↔ config.IsValid := by
    rw [validate_eq]
    exact validateIn_iff (.ascending config)
  refine ⟨exact, fun order => (validateIn_iff order).trans exact.symm, fun valid => ?_⟩
  obtain ⟨plan, planned⟩ := exists_plan_iff.mpr ⟨valid.read, valid.apart⟩
  have always (order : config.Order) : planOf order.listed = .ok plan := (planOf_perm order.listing plan).mpr planned
  have lists := plan_get?_iff planned
  refine ⟨plan, planned, always, fun text names here => ?_, lists, ?_, fun clock backend world =>
    ⟨?_, fun order => equips (always order) clock backend world⟩⟩
  · obtain ⟨device, parsed⟩ := valid.read text (SortedMap.mem_keys_iff.mpr (Option.isSome_of_eq_some here))
    exact ⟨device, parsed, (lists device names).mpr ⟨text, here, parsed⟩⟩
  · rw [SortedMap.keys, SortedMap.keys, List.length_map, List.length_map, length_of_plan planned]
  · rw [collectors_eq]
    exact equips (always (.ascending config)) clock backend world

def twoDevices : SessionConfig := ⟨"run", true, .ofList [(" GPU:00 ", ["warps"]), ("cpu", ["ticks", "misses"])]⟩

def descending : twoDevices.Order :=
  ⟨twoDevices.counters.entries.reverse, fun plan => plan.entries.reverse, List.reverse_perm _,
    fun _ => List.reverse_perm _⟩

theorem validation_is_exact_twoDevices :
    let clock : Clock ManualCounters := fun counters => (0, counters)
    let counters := ManualCounters.after [.define (.cpu 0) "ticks", .define (.gpu 0) "warps"]
    let backend : Backend ManualCounters := ManualCounters.backend id
    twoDevices.IsValid ∧ ∃ plan, planOf descending.listed = .ok plan ∧ plan.get? (.gpu 0) = some ["warps"] ∧
      twoDevices.Equips plan clock backend counters (twoDevices.collectorsIn descending clock backend counters) ∧
      twoDevices.collectorsIn descending clock backend counters =
        .error ⟨[], .profile (.unsupportedCounter "misses" "cpu:0")⟩ ∧
      twoDevices.collectorsIn descending clock backend (counters.define (.cpu 0) "misses") =
        .ok [.ofClock clock, .hardware ⟨backend, plan, .empty⟩] := by
  intro clock counters backend
  obtain ⟨exact, -, valid⟩ := validation_is_exact twoDevices
  have accepted : twoDevices.IsValid := exact.mp rfl
  obtain ⟨plan, -, planned, -, -, -, equipped⟩ := valid accepted
  have plan_eq : plan = .ofList [(.gpu 0, ["warps"]), (.cpu 0, ["ticks", "misses"])] :=
    (Except.ok.inj (planned descending)).symm
  refine ⟨accepted, plan, planned descending, ?_, (equipped clock backend counters).2 descending, rfl, ?_⟩
  · rw [plan_eq]
    decide
  · rw [plan_eq]
    dsimp only [clock, counters, backend]
    rfl

end SessionConfig
end CallProfile
