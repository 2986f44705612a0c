import CallProfile.SortedMap

namespace CallProfile.SortedMap

variable {κ α : Type} [Ord κ]

theorem get?_of_isEmpty {map : SortedMap κ α} (bare : map.isEmpty = true) (key : κ) : map.get? key = none := by
  have nothing : map.entries = [] := List.isEmpty_iff.mp bare
  rw [get?, nothing, find]

variable [Std.LawfulEqOrd κ]

theorem find_eq_some_iff {key : κ} {value : α} {entries : List (κ × α)}
    (ascending : entries.Pairwise (fun before after => compare before.1 after.1 = .lt)) :
    find key entries = some value ↔ (key, value) ∈ entries := by
  induction entries with
  | nil => simp [find]
  | cons first rest ih =>
    obtain ⟨below, tail⟩ := List.pairwise_cons.mp ascending
    by_cases same : compare key first.1 = .eq
    · have here : key = first.1 := Std.LawfulEqCmp.eq_of_compare same
      have absent : (key, value) ∉ rest := by
        intro member
        have less := below _ member
        simp [here, Std.ReflCmp.compare_self] at less
      subst here
      simp only [find, Std.ReflCmp.compare_self, if_true, Option.some.injEq, List.mem_cons, absent, or_false]
      constructor
      · intro h; rw [← h]
      · intro h; rw [← h]
    · have apart : key ≠ first.1 := by
        intro here
        exact same (here ▸ Std.ReflCmp.compare_self)
      have other : (key, value) ≠ first := fun h => apart (congrArg Prod.fst h)
      rw [find, if_neg same, ih tail]
      simp [other]

theorem find_cons_of_lt {first : κ × α} {rest : List (κ × α)}
    (ascending : (first :: rest).Pairwise (fun before after => compare before.1 after.1 = .lt)) {key : κ} {value : α}
    (found : find key rest = some value) : key ≠ first.1 ∧ find key (first :: rest) = some value := by
  obtain ⟨below, tail⟩ := List.pairwise_cons.mp ascending
  have less := below _ ((find_eq_some_iff tail).mp found)
  have apart : key ≠ first.1 := by
    rintro rfl
    simp [Std.ReflCmp.compare_self] at less
  have unequal : ¬ compare key first.1 = .eq := fun same => apart (Std.LawfulEqCmp.eq_of_compare same)
  exact ⟨apart, by rw [find, if_neg unequal, found]⟩

theorem find_cons_eq_some_iff {first : κ × α} {rest : List (κ × α)}
    (ascending : (first :: rest).Pairwise (fun before after => compare before.1 after.1 = .lt)) {key : κ} {value : α} :
    find key (first :: rest) = some value ↔
      (key = first.1 ∧ value = first.2) ∨ (compare first.1 key = .lt ∧ find key rest = some value) := by
  obtain ⟨below, tail⟩ := List.pairwise_cons.mp ascending
  rw [find_eq_some_iff ascending, List.mem_cons, Prod.ext_iff, find_eq_some_iff tail]
  constructor
  · rintro (same | member)
    · exact .inl same
    · exact .inr ⟨below _ member, member⟩
  · rintro (same | ⟨-, member⟩)
    · exact .inl same
    · exact .inr member

theorem mem_entries_iff {map : SortedMap κ α} {key : κ} {value : α} :
    (key, value) ∈ map.entries ↔ map.get? key = some value :=
  (find_eq_some_iff map.ascending).symm

theorem mem_keys_iff {map : SortedMap κ α} {key : κ} : key ∈ map.keys ↔ (map.get? key).isSome := by
  rw [Option.isSome_iff_exists]
  simp only [keys, List.mem_map]
  constructor
  · rintro ⟨entry, member, rfl⟩
    exact ⟨entry.2, mem_entries_iff.mp member⟩
  · rintro ⟨value, found⟩
    exact ⟨(key, value), mem_entries_iff.mpr found, rfl⟩

theorem contains_iff_mem_keys {map : SortedMap κ α} {key : κ} : map.contains key ↔ key ∈ map.keys :=
  mem_keys_iff.symm

theorem nodup_keys (map : SortedMap κ α) : map.keys.Nodup := by
  have apart : map.entries.Pairwise (fun before after => before.1 ≠ after.1) := by
    refine map.ascending.imp ?_
    intro before after less same
    simp [same, Std.ReflCmp.compare_self] at less
  exact List.pairwise_map.mpr apart

variable [Std.TransOrd κ] [DecidableEq κ]

theorem get?_insert (map : SortedMap κ α) (key other : κ) (value : α) :
    (map.insert key value).get? other = if other = key then some value else map.get? other := by
  split
  next here => rw [here, get?_insert_self]
  next apart => exact get?_insert_of_ne map apart value

theorem get?_erase (map : SortedMap κ α) (key other : κ) :
    (map.erase key).get? other = if other = key then none else map.get? other := by
  split
  next here => rw [here, get?_erase_self]
  next apart => exact get?_erase_of_ne map apart

theorem mem_keys_insert {map : SortedMap κ α} {key other : κ} {value : α} :
    other ∈ (map.insert key value).keys ↔ other = key ∨ other ∈ map.keys := by
  rw [mem_keys_iff, mem_keys_iff, get?_insert]
  split <;> simp_all

theorem mem_keys_erase {map : SortedMap κ α} {key other : κ} :
    other ∈ (map.erase key).keys ↔ other ≠ key ∧ other ∈ map.keys := by
  rw [mem_keys_iff, mem_keys_iff, get?_erase]
  split <;> simp_all

theorem get?_insertAll_map (map : SortedMap κ α) (keys : List κ) (value : κ → α) (key : κ) :
    (map.insertAll (keys.map fun key => (key, value key))).get? key =
      if key ∈ keys then some (value key) else map.get? key := by
  induction keys generalizing map with
  | nil => simp [insertAll]
  | cons first rest ih =>
    rw [List.map_cons, insertAll, List.foldl_cons, ← insertAll, ih, get?_insert]
    by_cases later : key ∈ rest
    · simp [later]
    · by_cases here : key = first <;> simp [later, here]

theorem get?_insertAll (map : SortedMap κ α) {entries : List (κ × α)}
    (ascending : entries.Pairwise (fun before after => compare before.1 after.1 = .lt)) (key : κ) :
    (map.insertAll entries).get? key = (find key entries).or (map.get? key) := by
  induction entries generalizing map with
  | nil => simp [insertAll, find]
  | cons first rest ih =>
    obtain ⟨below, tail⟩ := List.pairwise_cons.mp ascending
    rw [insertAll, List.foldl_cons, ← insertAll, ih _ tail, get?_insert, find]
    by_cases here : key = first.1
    · have later : find key rest = none := by
        refine find_eq_none fun entry member => ?_
        rw [here, below entry member]
        decide
      rw [later]
      simp [here, Std.ReflCmp.compare_self]
    · have apart : ¬ compare key first.1 = .eq := fun same => here (Std.LawfulEqCmp.eq_of_compare same)
      simp [here, apart]

theorem get?_insertAll_entries (map other : SortedMap κ α) (key : κ) :
    (map.insertAll other.entries).get? key = (other.get? key).or (map.get? key) :=
  get?_insertAll map other.ascending key

theorem insertAll_entries (map : SortedMap κ α) : empty.insertAll map.entries = map := by
  refine ext_get? fun key => ?_
  rw [get?_insertAll_entries, get?_empty, Option.or_none]

section FoldIn

variable {β ε : Type} (join : κ → Option α → β → Except ε α)

/-- Takes in the entries one after the other, each joined with what its key holds, up to the first refusal. -/
def foldIn (map : SortedMap κ α) (entries : List (κ × β)) : Except ε (SortedMap κ α) :=
  entries.foldlM (fun map entry => (join entry.1 (map.get? entry.1) entry.2).map (map.insert entry.1)) map

variable {join}

theorem find_of_foldIn {map result : SortedMap κ α} {entries : List (κ × β)}
    (ascending : entries.Pairwise (fun before after => compare before.1 after.1 = .lt))
    (taken : map.foldIn join entries = .ok result) (key : κ) :
    match find key entries with
    | none => result.get? key = map.get? key
    | some value => ∃ joined, join key (map.get? key) value = .ok joined ∧ result.get? key = some joined := by
  induction entries generalizing map with
  | nil => cases taken; rfl
  | cons first rest ih =>
    obtain ⟨below, tail⟩ := List.pairwise_cons.mp ascending
    rw [foldIn, List.foldlM_cons] at taken
    cases joined : join first.1 (map.get? first.1) first.2 with
    | error => rw [joined] at taken; cases taken
    | ok value =>
      rw [joined] at taken
      have later := @ih (map.insert first.1 value) tail taken
      by_cases here : key = first.1
      · subst here
        have absent : find first.1 rest = none :=
          find_eq_none fun entry member => by simp [below entry member]
        rw [absent] at later
        rw [find, if_pos Std.ReflCmp.compare_self]
        exact ⟨value, joined, later.trans (get?_insert_self _ _ _)⟩
      · have unequal : ¬ compare key first.1 = .eq := fun same => here (Std.LawfulEqCmp.eq_of_compare same)
        rw [find, if_neg unequal]
        rw [get?_insert_of_ne _ here] at later
        exact later

theorem exists_foldIn_iff_find {map : SortedMap κ α} {entries : List (κ × β)}
    (ascending : entries.Pairwise (fun before after => compare before.1 after.1 = .lt)) :
    (∃ result, map.foldIn join entries = .ok result) ↔
      ∀ key value, find key entries = some value → ∃ joined, join key (map.get? key) value = .ok joined := by
  constructor
  · rintro ⟨result, taken⟩ key value found
    have spec := find_of_foldIn ascending taken key
    rw [found] at spec
    obtain ⟨joined, join, -⟩ := spec
    exact ⟨joined, join⟩
  · intro all
    induction entries generalizing map with
    | nil => exact ⟨map, rfl⟩
    | cons first rest ih =>
      obtain ⟨value, joined⟩ := all first.1 first.2 (by rw [find, if_pos Std.ReflCmp.compare_self])
      have later : ∃ result, (map.insert first.1 value).foldIn join rest = .ok result := by
        refine ih (List.pairwise_cons.mp ascending).2 fun key other found => ?_
        obtain ⟨apart, known⟩ := find_cons_of_lt ascending found
        rw [get?_insert_of_ne _ apart]
        exact all key other known
      obtain ⟨result, taken⟩ := later
      refine ⟨result, ?_⟩
      rw [foldIn, List.foldlM_cons, joined]
      exact taken

theorem get?_of_foldIn_none {map result : SortedMap κ α} {other : SortedMap κ β}
    (taken : map.foldIn join other.entries = .ok result) {key : κ} (absent : other.get? key = none) :
    result.get? key = map.get? key := by
  have spec := find_of_foldIn other.ascending taken key
  rw [get?] at absent
  rw [absent] at spec
  exact spec

theorem get?_of_foldIn_some {map result : SortedMap κ α} {other : SortedMap κ β}
    (taken : map.foldIn join other.entries = .ok result) {key : κ} {value : β} (present : other.get? key = some value) :
    ∃ joined, join key (map.get? key) value = .ok joined ∧ result.get? key = some joined := by
  have spec := find_of_foldIn other.ascending taken key
  rw [get?] at present
  rw [present] at spec
  exact spec

theorem exists_foldIn_iff (map : SortedMap κ α) (other : SortedMap κ β) :
    (∃ result, map.foldIn join other.entries = .ok result) ↔
      ∀ key value, other.get? key = some value → ∃ joined, join key (map.get? key) value = .ok joined :=
  exists_foldIn_iff_find other.ascending

omit [DecidableEq κ] in
theorem foldIn_eq_error_iff_find {map : SortedMap κ α} {entries : List (κ × β)}
    (ascending : entries.Pairwise (fun before after => compare before.1 after.1 = .lt)) {error : ε} :
    map.foldIn join entries = .error error ↔
      ∃ key value, find key entries = some value ∧ join key (map.get? key) value = .error error ∧
        ∀ before, compare before key = .lt → ∀ other, find before entries = some other →
          ∃ joined, join before (map.get? before) other = .ok joined := by
  induction entries generalizing map with
  | nil => simp [foldIn, find, pure, Except.pure]
  | cons first rest ih =>
    obtain ⟨below, tail⟩ := List.pairwise_cons.mp ascending
    simp only [find_cons_eq_some_iff ascending]
    rw [foldIn, List.foldlM_cons]
    cases joined : join first.1 (map.get? first.1) first.2 with
    | error refusal =>
      constructor
      · intro failed
        cases failed
        refine ⟨first.1, first.2, .inl ⟨rfl, rfl⟩, joined, ?_⟩
        rintro before less other (⟨rfl, -⟩ | ⟨more, -⟩)
        · simp [Std.ReflCmp.compare_self] at less
        · simp [Std.OrientedCmp.gt_iff_lt.mpr more] at less
      · rintro ⟨key, value, ⟨rfl, rfl⟩ | ⟨less, -⟩, failed, earlier⟩
        · rw [joined] at failed
          cases failed
          rfl
        · obtain ⟨sum, succeeded⟩ := earlier first.1 less first.2 (.inl ⟨rfl, rfl⟩)
          cases joined.symm.trans succeeded
    | ok value =>
      -- No later key is the first one, so the later entries are joined with what the map held before.
      have apart {key : κ} (less : compare first.1 key = .lt) : key ≠ first.1 := by
        rintro rfl
        simp [Std.ReflCmp.compare_self] at less
      refine (@ih (map.insert first.1 value) tail).trans ?_
      constructor
      · rintro ⟨key, other, found, failed, earlier⟩
        have less := below _ ((find_eq_some_iff tail).mp found)
        rw [get?_insert_of_ne _ (apart less)] at failed
        refine ⟨key, other, .inr ⟨less, found⟩, failed, ?_⟩
        rintro before sooner another (⟨rfl, rfl⟩ | ⟨after, listed⟩)
        · exact ⟨value, joined⟩
        · have succeeded := earlier before sooner another listed
          rwa [get?_insert_of_ne _ (apart after)] at succeeded
      · rintro ⟨key, other, ⟨rfl, rfl⟩ | ⟨less, found⟩, failed, earlier⟩
        · cases joined.symm.trans failed
        · refine ⟨key, other, found, by rwa [get?_insert_of_ne _ (apart less)], ?_⟩
          intro before sooner another listed
          have after := below _ ((find_eq_some_iff tail).mp listed)
          rw [get?_insert_of_ne _ (apart after)]
          exact earlier before sooner another (.inr ⟨after, listed⟩)

omit [DecidableEq κ] in
/-- The first entry that its key refuses decides, and those before it have no part in that. -/
theorem foldIn_eq_error_iff (map : SortedMap κ α) (other : SortedMap κ β) {error : ε} :
    map.foldIn join other.entries = .error error ↔
      ∃ key value, other.get? key = some value ∧ join key (map.get? key) value = .error error ∧
        ∀ before, compare before key = .lt → ∀ value, other.get? before = some value →
          ∃ joined, join before (map.get? before) value = .ok joined :=
  foldIn_eq_error_iff_find other.ascending

end FoldIn

end CallProfile.SortedMap
