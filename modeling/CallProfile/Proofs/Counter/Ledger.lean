import CallProfile.Proofs.Counter.Manual
import CallProfile.Proofs.Failure
import Mathlib.Algebra.GroupWithZero.Nat
import Mathlib.Data.List.Forall2

namespace CallProfile

theorem mapM_eq_ok_iff {α β ε : Type} (step : α → Except ε β) {items : List α} {results : List β} :
    items.mapM step = .ok results ↔ List.Forall₂ (fun item result => step item = .ok result) items results := by
  induction items generalizing results with
  | nil => simp [pure, Except.pure, eq_comm]
  | cons first rest ih =>
    rw [List.mapM_cons, List.forall₂_cons_left_iff]
    constructor
    · intro mapped
      obtain ⟨result, here, mapped⟩ := bind_eq_ok mapped
      obtain ⟨others, there, same⟩ := bind_eq_ok mapped
      cases same
      exact ⟨result, others, here, ih.mp there, rfl⟩
    · rintro ⟨result, others, here, there, rfl⟩
      rw [here, ih.mpr there]
      rfl

namespace ManualCounters

/-- What is asked of manual counters, by the program or by whoever reads them as a source of counters. -/
inductive Access where
  | operate (operation : Operation)
  | read (thread : ThreadId) (device : Device) (names : List String)

def serve (counters : ManualCounters) : Access → Except CounterError (List Count) × ManualCounters
  | .operate (.define device counter) => (.ok [], counters.define device counter)
  | .operate (.add device counter amount) =>
    match counters.add device counter amount with
    | .ok after => (.ok [], after)
    | .error error => (.error error, counters)
  | .read thread device names => (backend id).read thread device names counters

structure Entry where
  access : Access
  answer : Except CounterError (List Count)

/-- What was added to a counter; nothing if adding was refused. -/
def Entry.added (device : Device) (counter : String) : Entry → Nat
  | ⟨.operate (.add place name amount), .ok _⟩ => if place = device ∧ name = counter then amount.toNat else 0
  | _ => 0

structure Ledger where
  counters : ManualCounters
  entries : List Entry

namespace Ledger

def opened : Ledger := ⟨.empty, []⟩

def next (ledger : Ledger) (access : Access) : Ledger :=
  ⟨(ledger.counters.serve access).2, ledger.entries ++ [⟨access, (ledger.counters.serve access).1⟩]⟩

def play (ledger : Ledger) (accesses : List Access) : Ledger := accesses.foldl next ledger

/-- The exact sum of what was added to a counter. -/
def total (ledger : Ledger) (device : Device) (counter : String) : Nat :=
  (ledger.entries.map (Entry.added device counter)).sum

def Declares (ledger : Ledger) (device : Device) (counter : String) : Prop :=
  ∃ entry ∈ ledger.entries, entry.access = .operate (.define device counter)

end Ledger

theorem contains_set (counters : ManualCounters) (place device : Device) (name : String) (value : Count) :
    (counters.set place name value).values.contains device ↔ device = place ∨ counters.values.contains device := by
  simp only [set, SortedMap.contains, SortedMap.get?_insert]
  split <;> simp_all

theorem contains_of_value? {counters : ManualCounters} {device : Device} {counter : String}
    (declared : (counters.value? device counter).isSome) : counters.values.contains device := by
  rw [value?] at declared
  rw [SortedMap.contains]
  cases found : counters.values.get? device with
  | none => simp [found] at declared
  | some declared => rfl

theorem serve_add (counters : ManualCounters) (device : Device) (counter : String) (amount : Count) :
    counters.serve (.operate (.add device counter amount)) =
      match counters.value? device counter with
      | none => (.error (.unknownCounter counter device), counters)
      | some value => (.ok [], counters.set device counter (value.add amount)) := by
  simp only [serve, add_eq]
  cases counters.value? device counter <;> rfl

theorem serve_define (counters : ManualCounters) (device : Device) (counter : String) :
    counters.serve (.operate (.define device counter)) =
      (.ok [], counters.set device counter ((counters.value? device counter).getD 0)) := by
  rw [serve, define_eq_set]

theorem read_eq_ok_iff {counters : ManualCounters} {device : Device} {names : List String} {values : List Count} :
    counters.read device names = .ok values ↔
      counters.values.contains device ∧
        List.Forall₂ (fun name value => counters.value? device name = some value) names values := by
  cases found : counters.values.get? device with
  | none => simp [read, found, SortedMap.contains]
  | some declared =>
    simp only [read, found, SortedMap.contains, Option.isSome_some, true_and, mapM_eq_ok_iff]
    refine iff_of_eq (congrArg (List.Forall₂ · names values) (funext fun name => funext fun value => propext ?_))
    rw [value?, found, Option.bind_some]
    cases declared.get? name <;> simp

theorem read_singleton {counters : ManualCounters} {device : Device} {name : String} {value : Count} :
    counters.read device [name] = .ok [value] ↔ counters.value? device name = some value := by
  rw [read_eq_ok_iff]
  simp only [List.forall₂_cons, List.Forall₂.nil, and_true, and_iff_right_iff_imp]
  exact fun here => contains_of_value? (Option.isSome_of_eq_some here)

theorem exists_read_iff {counters : ManualCounters} {device : Device} {names : List String} :
    (∃ values, counters.read device names = .ok values) ↔
      counters.values.contains device ∧ ∀ name ∈ names, (counters.value? device name).isSome := by
  constructor
  · rintro ⟨values, served⟩
    obtain ⟨known, each⟩ := read_eq_ok_iff.mp served
    have declared := each.imp fun name value here => And.intro (Option.isSome_of_eq_some here) here
    exact ⟨known, ((List.forall₂_and_left ..).mp declared).1⟩
  · rintro ⟨known, each⟩
    refine ⟨names.map (counters.value device), read_eq_ok_iff.mpr ⟨known, ?_⟩⟩
    rw [List.forall₂_map_right_iff, List.forall₂_same]
    intro name member
    obtain ⟨number, here⟩ := Option.isSome_iff_exists.mp (each name member)
    rw [value, here]
    rfl

namespace Ledger

variable {ledger : Ledger}

theorem total_next (access : Access) (device : Device) (counter : String) :
    (ledger.next access).total device counter =
      ledger.total device counter + Entry.added device counter ⟨access, (ledger.counters.serve access).1⟩ := by
  simp [total, next]

theorem declares_next {access : Access} {device : Device} {counter : String} :
    (ledger.next access).Declares device counter ↔
      ledger.Declares device counter ∨ access = .operate (.define device counter) := by
  simp only [Declares, next, List.mem_append, List.mem_singleton]
  constructor
  · rintro ⟨entry, member | rfl, same⟩
    · exact .inl ⟨entry, member, same⟩
    · exact .inr same
  · rintro (⟨entry, member, same⟩ | same)
    · exact ⟨entry, .inl member, same⟩
    · exact ⟨_, .inr rfl, same⟩

/-- The counters are what the ledger says. -/
structure Balanced (ledger : Ledger) : Prop where
  declared : ∀ device counter, (ledger.counters.value? device counter).isSome ↔ ledger.Declares device counter
  known : ∀ device, ledger.counters.values.contains device ↔ ∃ counter, ledger.Declares device counter
  valued : ∀ device counter value, ledger.counters.value? device counter = some value →
    value = Count.ofNat (ledger.total device counter)
  untouched : ∀ device counter, ledger.counters.value? device counter = none → ledger.total device counter = 0

theorem balanced_opened : opened.Balanced where
  declared device counter := by simp [opened, Declares, value?, empty]
  known device := by simp [opened, Declares, empty, SortedMap.contains]
  valued device counter value here := by simp [opened, value?, empty] at here
  untouched device counter _ := rfl

theorem Balanced.next_idle (balanced : ledger.Balanced) {access : Access}
    (same : (ledger.counters.serve access).2 = ledger.counters)
    (fresh : ∀ device counter, access ≠ .operate (.define device counter))
    (nothing : ∀ device counter, Entry.added device counter ⟨access, (ledger.counters.serve access).1⟩ = 0) :
    (ledger.next access).Balanced := by
  have declares (device : Device) (counter : String) :
      (ledger.next access).Declares device counter ↔ ledger.Declares device counter := by
    simp [declares_next, fresh]
  have total (device : Device) (counter : String) :
      (ledger.next access).total device counter = ledger.total device counter := by
    rw [total_next, nothing, Nat.add_zero]
  have counters : (ledger.next access).counters = ledger.counters := same
  constructor
  · simpa only [declares, counters] using balanced.declared
  · simpa only [declares, counters] using balanced.known
  · simpa only [total, counters] using balanced.valued
  · simpa only [total, counters] using balanced.untouched

theorem Balanced.next_set (balanced : ledger.Balanced) {access : Access} {place : Device} {name : String}
    {value : Count} (changed : (ledger.counters.serve access).2 = ledger.counters.set place name value)
    (declares : ∀ device counter, (ledger.next access).Declares device counter ↔
      ledger.Declares device counter ∨ place = device ∧ name = counter)
    (others : ∀ device counter, ¬ (place = device ∧ name = counter) →
      (ledger.next access).total device counter = ledger.total device counter)
    (own : value = Count.ofNat ((ledger.next access).total place name)) : (ledger.next access).Balanced := by
  have counters : (ledger.next access).counters = ledger.counters.set place name value := changed
  constructor
  · intro device counter
    rw [counters, value?_set, declares, ← balanced.declared]
    split <;> simp_all
  · intro device
    simp only [counters, contains_set, declares, balanced.known, exists_or, exists_and_left, exists_eq', and_true]
    rw [or_comm, eq_comm]
  · intro device counter other here
    rw [counters, value?_set] at here
    split at here
    next same =>
      rw [← same.1, ← same.2, ← own, Option.some.inj here]
    next apart =>
      rw [others device counter apart]
      exact balanced.valued device counter other here
  · intro device counter here
    rw [counters, value?_set] at here
    split at here
    · cases here
    next apart =>
      rw [others device counter apart]
      exact balanced.untouched device counter here

theorem Balanced.next (balanced : ledger.Balanced) (access : Access) : (ledger.next access).Balanced := by
  cases access with
  | read thread device names => exact balanced.next_idle rfl (by simp) fun _ _ => rfl
  | operate operation =>
    cases operation with
    | define place name =>
      have totals (device : Device) (counter : String) :
          (ledger.next (.operate (.define place name))).total device counter = ledger.total device counter :=
        total_next _ _ _
      refine balanced.next_set (congrArg Prod.snd (serve_define ledger.counters place name)) (fun device counter => ?_)
        (fun device counter _ => totals device counter) ?_
      · simp [declares_next]
      · rw [totals]
        cases here : ledger.counters.value? place name with
        | none => rw [balanced.untouched place name here]; rfl
        | some value => exact balanced.valued place name value here
    | add place name amount =>
      have served := serve_add ledger.counters place name amount
      cases here : ledger.counters.value? place name with
      | none =>
        rw [here] at served
        exact balanced.next_idle (congrArg Prod.snd served) (by simp) fun device counter => by rw [served]; rfl
      | some value =>
        rw [here] at served
        have totals (device : Device) (counter : String) :
            (ledger.next (.operate (.add place name amount))).total device counter =
              ledger.total device counter + if place = device ∧ name = counter then amount.toNat else 0 := by
          rw [total_next, served]
          rfl
        have declared : ledger.Declares place name := (balanced.declared place name).mp (Option.isSome_of_eq_some here)
        refine balanced.next_set (congrArg Prod.snd served) (fun device counter => ?_)
          (fun device counter apart => ?_) ?_
        · simp only [declares_next, Access.operate.injEq, reduceCtorEq, or_false]
          refine ⟨.inl, fun either => ?_⟩
          rcases either with known | ⟨rfl, rfl⟩
          · exact known
          · exact declared
        · rw [totals, if_neg apart, Nat.add_zero]
        · rw [totals, if_pos ⟨rfl, rfl⟩, balanced.valued place name value here, Count.add_ofNat]

theorem Balanced.play (balanced : ledger.Balanced) (accesses : List Access) : (ledger.play accesses).Balanced := by
  induction accesses generalizing ledger with
  | nil => exact balanced
  | cons access rest ih => exact ih (balanced.next access)

theorem declares_play {accesses : List Access} {device : Device} {counter : String} :
    (ledger.play accesses).Declares device counter ↔
      ledger.Declares device counter ∨ .operate (.define device counter) ∈ accesses := by
  induction accesses generalizing ledger with
  | nil => simp [play]
  | cons access rest ih =>
    rw [play, List.foldl_cons, ← play, ih, declares_next, List.mem_cons, or_assoc]
    simp only [eq_comm]

theorem total_le_play (ledger : Ledger) (accesses : List Access) (device : Device) (counter : String) :
    ledger.total device counter ≤ (ledger.play accesses).total device counter := by
  induction accesses generalizing ledger with
  | nil => exact Nat.le_refl _
  | cons access rest ih =>
    refine Nat.le_trans ?_ (ih (ledger.next access))
    rw [total_next]
    exact Nat.le_add_right _ _

theorem Balanced.grows (balanced : ledger.Balanced) (accesses : List Access) {device : Device} {counter : String}
    {value : Count} (here : ledger.counters.value? device counter = some value) :
    ∃ grown, (ledger.play accesses).counters.value? device counter = some grown ∧ value ≤ grown := by
  have after := balanced.play accesses
  have declared : (ledger.play accesses).Declares device counter :=
    declares_play.mpr (.inl ((balanced.declared device counter).mp (Option.isSome_of_eq_some here)))
  obtain ⟨grown, there⟩ := Option.isSome_iff_exists.mp ((after.declared device counter).mpr declared)
  refine ⟨grown, there, UInt64.le_iff_toNat_le.mpr ?_⟩
  have more := ledger.total_le_play accesses device counter
  rw [balanced.valued device counter value here, after.valued device counter grown there, Count.toNat_ofNat,
    Count.toNat_ofNat]
  omega

end Ledger

def Access.Concerns (device : Device) (counter : String) : Access → Prop
  | .operate (.define place name) | .operate (.add place name _) => place = device ∧ name = counter
  | .read _ _ _ => False

theorem value?_serve_of_other {counters : ManualCounters} {access : Access} {device : Device} {counter : String}
    (other : ¬ access.Concerns device counter) :
    (counters.serve access).2.value? device counter = counters.value? device counter := by
  cases access with
  | read thread place names => rfl
  | operate operation =>
    cases operation with
    | define place name =>
      have apart : ¬ (place = device ∧ name = counter) := other
      rw [serve_define, value?_set, if_neg apart]
    | add place name amount =>
      have apart : ¬ (place = device ∧ name = counter) := other
      rw [serve_add]
      cases counters.value? place name with
      | none => rfl
      | some value => rw [value?_set, if_neg apart]

theorem serve_of_error {counters : ManualCounters} {access : Access} {error : CounterError}
    (refused : (counters.serve access).1 = .error error) : (counters.serve access).2 = counters := by
  cases access with
  | read thread device names => rfl
  | operate operation =>
    cases operation with
    | define device counter => cases refused
    | add device counter amount =>
      rw [serve_add] at refused ⊢
      cases here : counters.value? device counter with
      | none => rfl
      | some value =>
        rw [here] at refused
        cases refused

/-- What counters owe to all that was asked of them, and how they answer from then on. -/
structure Ledger.Faithful (ledger : Ledger) (accesses : List Access) : Prop where
  declared : ∀ device counter,
    (ledger.counters.value? device counter).isSome ↔ .operate (.define device counter) ∈ accesses
  value : ∀ device counter value, ledger.counters.value? device counter = some value →
    value.toNat = min (ledger.total device counter) Count.limit
  grows : ∀ device counter value, ledger.counters.value? device counter = some value →
    ∀ more, ∃ grown, (ledger.play more).counters.value? device counter = some grown ∧ value ≤ grown
  again : ∀ device counter value, ledger.counters.value? device counter = some value →
    (ledger.counters.define device counter).value? device counter = some value
  adds : ∀ device counter amount,
    (∃ after, ledger.counters.add device counter amount = .ok after) ↔ .operate (.define device counter) ∈ accesses
  others : ∀ access device counter, ¬ access.Concerns device counter →
    (ledger.counters.serve access).2.value? device counter = ledger.counters.value? device counter
  refused : ∀ access error, (ledger.counters.serve access).1 = .error error →
    (ledger.counters.serve access).2 = ledger.counters
  reads : ∀ device names, (∃ values, ledger.counters.read device names = .ok values) ↔
    (∃ counter, .operate (.define device counter) ∈ accesses) ∧
      ∀ name ∈ names, .operate (.define device name) ∈ accesses
  values : ∀ device names values, ledger.counters.read device names = .ok values →
    List.Forall₂ (fun name value => ledger.counters.read device [name] = .ok [value] ∧
      value.toNat = min (ledger.total device name) Count.limit) names values

/--
Whatever is asked of manual counters, they hold the exact sums of what was added to them, cut off at the largest
count, under just those names that were declared.
-/
theorem counters_keep_totals (accesses : List Access) : (Ledger.opened.play accesses).Faithful accesses := by
  have balanced := Ledger.balanced_opened.play accesses
  generalize kept : Ledger.opened.play accesses = ledger at balanced
  have declares (device : Device) (counter : String) :
      ledger.Declares device counter ↔ .operate (.define device counter) ∈ accesses := by
    rw [← kept, Ledger.declares_play]
    exact or_iff_right (by simp [Ledger.opened, Ledger.Declares])
  have declared (device : Device) (counter : String) :
      (ledger.counters.value? device counter).isSome ↔ .operate (.define device counter) ∈ accesses :=
    (balanced.declared device counter).trans (declares device counter)
  have value (device : Device) (counter : String) (value : Count)
      (here : ledger.counters.value? device counter = some value) :
      value.toNat = min (ledger.total device counter) Count.limit := by
    rw [balanced.valued device counter value here, Count.toNat_ofNat]
  refine ⟨declared, value, fun device counter value here more => balanced.grows more here, ?_, ?_,
    fun access device counter => value?_serve_of_other, fun access error => serve_of_error, ?_, ?_⟩
  · intro device counter value here
    rw [define_eq_set, value?_set, if_pos ⟨rfl, rfl⟩, here]
    rfl
  · intro device counter amount
    rw [← declared, add_eq]
    cases ledger.counters.value? device counter <;> simp
  · intro device names
    simp only [exists_read_iff, declared, balanced.known, declares]
  · intro device names values served
    refine (read_eq_ok_iff.mp served).2.imp fun name count here => ?_
    exact ⟨read_singleton.mpr here, value device name count here⟩

theorem counters_keep_totals_full :
    let ledger := Ledger.opened.play [.operate (.add (.cpu 0) "ticks" 5), .operate (.define (.cpu 0) "ticks"),
      .operate (.add (.cpu 0) "ticks" 18446744073709551615), .operate (.add (.cpu 0) "ticks" 7),
      .operate (.define (.cpu 0) "ticks")]
    ledger.counters.value? (.cpu 0) "ticks" = some 18446744073709551615 ∧
      ledger.total (.cpu 0) "ticks" = 18446744073709551622 ∧
      ∃ values, ledger.counters.read (.cpu 0) ["ticks", "ticks"] = .ok values := by
  intro ledger
  have faithful := counters_keep_totals [.operate (.add (.cpu 0) "ticks" 5), .operate (.define (.cpu 0) "ticks"),
    .operate (.add (.cpu 0) "ticks" 18446744073709551615), .operate (.add (.cpu 0) "ticks" 7),
    .operate (.define (.cpu 0) "ticks")]
  refine ⟨by decide, by decide, (faithful.reads (.cpu 0) ["ticks", "ticks"]).mpr ⟨⟨"ticks", ?_⟩, ?_⟩⟩
  · simp
  · simp

end ManualCounters

end CallProfile
