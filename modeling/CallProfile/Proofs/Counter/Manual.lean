import CallProfile.Counter.Manual
import CallProfile.Proofs.SortedMap

namespace CallProfile

theorem Count.add_ofNat (total : Nat) (amount : Count) :
    (Count.ofNat total).add amount = Count.ofNat (total + amount.toNat) := by
  apply UInt64.toNat_inj.mp
  rw [toNat_add, toNat_ofNat, toNat_ofNat]
  omega

namespace ManualCounters

inductive Operation where
  | define (device : Device) (counter : String)
  | add (device : Device) (counter : String) (amount : Count)

def apply (counters : ManualCounters) : Operation → ManualCounters
  | .define device counter => counters.define device counter
  | .add device counter amount =>
    match counters.add device counter amount with
    | .ok after => after
    | .error _ => counters

def after (operations : List Operation) : ManualCounters := operations.foldl apply .empty

/-- Takes an operation into the total of one counter, which has none before it is declared. -/
def tally (device : Device) (counter : String) (total : Option Nat) : Operation → Option Nat
  | .define place name => if place = device ∧ name = counter then some (total.getD 0) else total
  | .add place name amount =>
    if place = device ∧ name = counter then total.map (· + amount.toNat) else total

/-- What has been added to a counter since it was declared, if it was. -/
def total? (operations : List Operation) (device : Device) (counter : String) : Option Nat :=
  operations.foldl (tally device counter) none

def total (operations : List Operation) (device : Device) (counter : String) : Nat :=
  (total? operations device counter).getD 0

def value (counters : ManualCounters) (device : Device) (counter : String) : Count :=
  (counters.value? device counter).getD 0

def set (counters : ManualCounters) (device : Device) (counter : String) (value : Count) : ManualCounters :=
  ⟨counters.values.insert device (((counters.values.get? device).getD .empty).insert counter value)⟩

theorem value?_eq_getD (counters : ManualCounters) (device : Device) (counter : String) :
    counters.value? device counter = ((counters.values.get? device).getD .empty).get? counter := by
  rw [value?]
  cases counters.values.get? device <;> rfl

theorem value?_set (counters : ManualCounters) (place device : Device) (name counter : String) (value : Count) :
    (counters.set place name value).value? device counter =
      if place = device ∧ name = counter then some value else counters.value? device counter := by
  simp only [value?_eq_getD, set, SortedMap.get?_insert]
  by_cases here : place = device
  · subst here
    simp only [if_true, Option.getD_some, SortedMap.get?_insert, true_and]
    by_cases same : name = counter
    · rw [if_pos same.symm, if_pos same]
    · rw [if_neg (Ne.symm same), if_neg same]
  · rw [if_neg (Ne.symm here), if_neg fun both => here both.1]

theorem define_eq_set (counters : ManualCounters) (device : Device) (counter : String) :
    counters.define device counter = counters.set device counter ((counters.value? device counter).getD 0) := by
  rw [value?_eq_getD]
  rfl

theorem add_eq (counters : ManualCounters) (device : Device) (counter : String) (amount : Count) :
    counters.add device counter amount =
      match counters.value? device counter with
      | none => .error (.unknownCounter counter device)
      | some value => .ok (counters.set device counter (value.add amount)) := by
  rw [value?, add]
  cases found : counters.values.get? device with
  | none => rfl
  | some declared =>
    cases here : declared.get? counter with
    | none => simp only [Option.bind_some, here]
    | some value => simp only [Option.bind_some, here, set, found, Option.getD_some]

theorem apply_add (counters : ManualCounters) (device : Device) (counter : String) (amount : Count) :
    counters.apply (.add device counter amount) =
      match counters.value? device counter with
      | none => counters
      | some value => counters.set device counter (value.add amount) := by
  rw [apply, add_eq]
  cases counters.value? device counter <;> rfl

/-- One operation does to the value what it does to the total. -/
theorem value?_apply {counters : ManualCounters} {device : Device} {counter : String} {total : Option Nat}
    (known : counters.value? device counter = total.map Count.ofNat) (operation : Operation) :
    (counters.apply operation).value? device counter =
      (tally device counter total operation).map Count.ofNat := by
  cases operation with
  | define place name =>
    rw [apply, tally, define_eq_set, value?_set]
    split
    next same =>
      rw [same.1, same.2, known]
      cases total <;> rfl
    next => exact known
  | add place name amount =>
    rw [apply_add, tally]
    cases found : counters.value? place name with
    | none =>
      simp only
      split
      next same =>
        rw [same.1, same.2] at found
        rw [Option.map_eq_none_iff.mp (known.symm.trans found)]
        exact found
      next => exact known
    | some value =>
      simp only [value?_set]
      split
      next same =>
        rw [same.1, same.2] at found
        obtain ⟨sum, rfl, rfl⟩ := Option.map_eq_some_iff.mp (known.symm.trans found)
        exact congrArg some (Count.add_ofNat sum amount)
      next => exact known

theorem value?_after (operations : List Operation) (device : Device) (counter : String) :
    (after operations).value? device counter = (total? operations device counter).map Count.ofNat := by
  have general {counters : ManualCounters} {total : Option Nat}
      (known : counters.value? device counter = total.map Count.ofNat) :
      (operations.foldl apply counters).value? device counter =
        (operations.foldl (tally device counter) total).map Count.ofNat := by
    induction operations generalizing counters total with
    | nil => exact known
    | cons operation rest ih => exact ih (value?_apply known operation)
  exact general rfl

theorem total?_append {operations : List Operation} {device : Device} {counter : String} (total : Nat)
    (declared : total? operations device counter = some total) (more : List Operation) :
    ∃ grown, total? (operations ++ more) device counter = some grown ∧ total ≤ grown := by
  rw [total?, List.foldl_append, ← total?, declared]
  clear declared
  induction more generalizing total with
  | nil => exact ⟨total, rfl, Nat.le_refl total⟩
  | cons operation rest ih =>
    have step : ∃ next, tally device counter (some total) operation = some next ∧ total ≤ next := by
      cases operation <;> rw [tally] <;> split
      · exact ⟨total, rfl, Nat.le_refl total⟩
      · exact ⟨total, rfl, Nat.le_refl total⟩
      · exact ⟨_, rfl, Nat.le_add_right total _⟩
      · exact ⟨total, rfl, Nat.le_refl total⟩
    obtain ⟨next, stepped, least⟩ := step
    rw [List.foldl_cons, stepped]
    obtain ⟨grown, reached, larger⟩ := ih next
    exact ⟨grown, reached, Nat.le_trans least larger⟩

theorem value_after {operations : List Operation} {device : Device} {counter : String}
    (declared : (total? operations device counter).isSome) (more : List Operation) :
    (after (operations ++ more)).value? device counter =
      some (Count.ofNat (total (operations ++ more) device counter)) := by
  obtain ⟨first, known⟩ := Option.isSome_iff_exists.mp declared
  obtain ⟨grown, reached, -⟩ := total?_append first known more
  rw [value?_after, total, reached]
  rfl

theorem total_mono {operations : List Operation} {device : Device} {counter : String}
    (declared : (total? operations device counter).isSome) (more : List Operation) :
    total operations device counter ≤ total (operations ++ more) device counter := by
  obtain ⟨first, known⟩ := Option.isSome_iff_exists.mp declared
  obtain ⟨grown, reached, larger⟩ := total?_append first known more
  rw [total, total, known, reached]
  exact larger

theorem supports_iff {σ : Type} (counters : σ → ManualCounters) (world : σ) (device : Device) (counter : String) :
    (backend counters).supports world device counter ↔ ((counters world).value? device counter).isSome := by
  simp only [Backend.supports, backend, available, value?]
  cases (counters world).values.get? device with
  | none => simp
  | some declared =>
    rw [List.contains_iff_mem, SortedMap.mem_keys_iff]
    rfl

theorem read_of_declared {counters : ManualCounters} {device : Device} {names : List String} (listed : names ≠ [])
    (declared : ∀ counter ∈ names, (counters.value? device counter).isSome) :
    counters.read device names = .ok (names.map (counters.value device)) := by
  obtain ⟨first, rest, rfl⟩ := List.exists_cons_of_ne_nil listed
  cases found : counters.values.get? device with
  | none =>
    have := declared first List.mem_cons_self
    simp [value?, found] at this
  | some known =>
    simp only [read, found]
    generalize first :: rest = names at declared
    induction names with
    | nil => rfl
    | cons counter others ih =>
      have here := declared counter List.mem_cons_self
      obtain ⟨number, read⟩ := Option.isSome_iff_exists.mp here
      have value : counters.value device counter = number := by rw [value, read]; rfl
      simp only [value?, found, Option.bind_some] at read
      rw [List.mapM_cons, read, ih fun other member => declared other (List.mem_cons_of_mem _ member),
        List.map_cons, value]
      rfl

end ManualCounters

end CallProfile
