import CallProfile.Proofs.Failure
import CallProfile.Proofs.SortedMap
import CallProfile.Session

namespace CallProfile

namespace SessionConfig

/-- The counters that are listed for a device, in whatever way it is written. -/
def Lists (config : SessionConfig) (device : Device) (names : List String) : Prop :=
  ∃ text, config.counters.get? text = some names ∧ Device.parse text = .ok device

theorem addDevice_eq_ok {plan after : CounterPlan} {text : String} {names : List String}
    (added : addDevice plan text names = .ok after) :
    ∃ device, Device.parse text = .ok device ∧ plan.get? device = none ∧ after = plan.insert device names := by
  unfold addDevice at added
  split at added
  · cases added
  · next device parsed =>
    split at added
    · cases added
    · next fresh =>
      cases added
      exact ⟨device, parsed, by simpa [SortedMap.contains] using fresh, rfl⟩

theorem get?_of_addDevices {entries : List (String × List String)} {start plan : CounterPlan}
    (planned : entries.foldlM (fun plan entry => addDevice plan entry.1 entry.2) start = .ok plan)
    (device : Device) (names : List String) :
    plan.get? device = some names ↔
      start.get? device = some names ∨ ∃ text, (text, names) ∈ entries ∧ Device.parse text = .ok device := by
  induction entries generalizing start with
  | nil =>
    cases planned
    simp
  | cons entry rest ih =>
    rw [List.foldlM_cons] at planned
    obtain ⟨middle, added, planned⟩ := bind_eq_ok planned
    obtain ⟨place, parsed, fresh, rfl⟩ := addDevice_eq_ok added
    rw [ih planned, SortedMap.get?_insert]
    constructor
    · rintro (here | ⟨text, member, same⟩)
      · split at here
        next own => exact .inr ⟨entry.1, by simp [← Option.some.inj here], own ▸ parsed⟩
        next => exact .inl here
      · exact .inr ⟨text, List.mem_cons_of_mem _ member, same⟩
    · rintro (old | ⟨text, member, same⟩)
      · refine .inl ?_
        split
        next own => simp [own, fresh] at old
        next => exact old
      · rcases List.mem_cons.mp member with rfl | member
        · have own : device = place := Except.ok.inj (same.symm.trans parsed)
          exact .inl (by simp [own])
        · exact .inr ⟨text, member, same⟩

theorem plan_get?_iff {config : SessionConfig} {plan : CounterPlan} (planned : config.plan = .ok plan)
    (device : Device) (names : List String) : plan.get? device = some names ↔ config.Lists device names := by
  rw [get?_of_addDevices planned]
  simp [Lists, SortedMap.mem_entries_iff]

theorem forM_eq_ok_iff {α ε : Type} {check : α → Except ε Unit} {items : List α} :
    items.forM check = .ok () ↔ ∀ item ∈ items, check item = .ok () := by
  induction items with
  | nil => exact iff_of_true rfl nofun
  | cons first rest ih =>
    change (check first >>= fun _ => rest.forM check) = .ok () ↔ _
    rw [List.forall_mem_cons, ← ih]
    constructor
    · intro passed
      obtain ⟨_, here, passed⟩ := bind_eq_ok passed
      exact ⟨here, passed⟩
    · rintro ⟨here, passed⟩
      rw [here]
      exact passed

theorem plan_of_validate {config : SessionConfig} (valid : config.validate = .ok ()) :
    ∃ plan, config.plan = .ok plan ∧ ∀ device names, plan.get? device = some names → names ≠ [] := by
  by_cases blank : Text.trim config.name = ""
  · simp [validate, blank, bind, Except.bind, throw, throwThe, MonadExceptOf.throw] at valid
  unfold validate at valid
  dsimp only at valid
  rw [if_neg blank] at valid
  obtain ⟨plan, planned, valid⟩ := bind_eq_ok valid
  obtain ⟨_, checked, -⟩ := bind_eq_ok valid
  refine ⟨plan, planned, fun device names found none => ?_⟩
  have passed := forM_eq_ok_iff.mp checked (device, names) (SortedMap.mem_entries_iff.mpr found)
  simp [checkCounters, none] at passed

end SessionConfig

theorem HardwareCollector.supports_of_ofPlan {σ : Type} {backend : Backend σ} {plan : CounterPlan} {world : σ}
    {collector : HardwareCollector σ} (made : ofPlan backend plan world = .ok collector) :
    collector = ⟨backend, plan, .empty⟩ ∧ ∀ device names, plan.get? device = some names →
      ∀ counter ∈ names, backend.supports world device counter := by
  unfold ofPlan at made
  split at made
  · cases made
  · next known =>
    cases made
    refine ⟨rfl, fun device names found counter member => ?_⟩
    simp only [unsupported?, List.findSome?_eq_none_iff, Option.map_eq_none_iff, List.find?_eq_none] at known
    simpa using known (device, names) (SortedMap.mem_entries_iff.mpr found) counter member

namespace Session

variable {σ : Type}

def configured (config : SessionConfig) (plan : CounterPlan) (clock : Clock σ) (backend : Backend σ) :
    List (Collector σ) :=
  (if config.wallClock then [Collector.ofClock clock] else []) ++
    if plan.isEmpty then [] else [.hardware ⟨backend, plan, .empty⟩]

theorem ofConfig_eq_ok {config : SessionConfig} {clock : Clock σ} {backend : Backend σ} {world : σ}
    {session : Session σ} (made : ofConfig config clock backend world = .ok session) :
    ∃ plan, config.plan = .ok plan ∧
      (∀ device names, plan.get? device = some names → names ≠ [] ∧
        ∀ counter ∈ names, backend.supports world device counter) ∧
      session =
        { (new config : Session σ) with phase := .running, collectors := configured config plan clock backend } := by
  unfold ofConfig at made
  obtain ⟨_, valid, made⟩ := bind_eq_ok made
  obtain ⟨plan, planned, listed⟩ := SessionConfig.plan_of_validate (attempting_eq_ok valid)
  obtain ⟨collectors, built, started⟩ := bind_eq_ok made
  have running : session = { (new config : Session σ) with phase := .running, collectors } :=
    (Except.ok.inj (attempting_eq_ok started)).symm
  have collected := mapError_eq_ok built
  simp only [SessionConfig.collectors, planned] at collected
  obtain ⟨_, ⟨⟩, collected⟩ := bind_eq_ok collected
  refine ⟨plan, planned, ?_⟩
  by_cases bare : plan.isEmpty = true
  · rw [if_pos bare] at collected
    refine ⟨fun device names found => by simp [SortedMap.get?_of_isEmpty bare] at found, ?_⟩
    rw [running, configured, if_pos bare, List.append_nil, ← Except.ok.inj collected]
  · rw [if_neg bare] at collected
    obtain ⟨hardware, checked, collected⟩ := bind_eq_ok collected
    obtain ⟨rfl, supported⟩ := HardwareCollector.supports_of_ofPlan (attempting_eq_ok checked)
    refine ⟨fun device names found => ⟨listed device names found, supported device names found⟩, ?_⟩
    rw [running, configured, if_neg bare, ← Except.ok.inj collected]

end Session

end CallProfile
