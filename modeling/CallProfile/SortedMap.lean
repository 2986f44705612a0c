namespace CallProfile

structure SortedMap (κ α : Type) [Ord κ] where
  entries : List (κ × α)
  ascending : entries.Pairwise (fun before after => compare before.1 after.1 = .lt)

namespace SortedMap

variable {κ α β : Type} [Ord κ]

/-- Puts an entry at its place among ascending entries, over an entry of the same key. -/
def place (key : κ) (value : α) : List (κ × α) → List (κ × α)
  | [] => [(key, value)]
  | entry :: rest =>
    match compare key entry.1 with
    | .lt => (key, value) :: entry :: rest
    | .eq => (key, value) :: rest
    | .gt => entry :: place key value rest

def find (key : κ) : List (κ × α) → Option α
  | [] => none
  | entry :: rest => if compare key entry.1 = .eq then some entry.2 else find key rest

theorem mem_place {key : κ} {value : α} {entry : κ × α} {entries : List (κ × α)}
    (h : entry ∈ place key value entries) : entry = (key, value) ∨ entry ∈ entries := by
  induction entries with
  | nil => simpa [place] using h
  | cons first rest ih =>
    rw [place] at h
    split at h
    · simpa using h
    · rcases List.mem_cons.mp h with h | h
      · exact .inl h
      · exact .inr (List.mem_cons_of_mem _ h)
    · rcases List.mem_cons.mp h with h | h
      · exact .inr (h ▸ List.mem_cons_self)
      · exact (ih h).imp id (List.mem_cons_of_mem _)

theorem place_ascending [Std.TransOrd κ] (key : κ) (value : α) {entries : List (κ × α)}
    (h : entries.Pairwise (fun before after => compare before.1 after.1 = .lt)) :
    (place key value entries).Pairwise (fun before after => compare before.1 after.1 = .lt) := by
  induction entries with
  | nil => simp [place]
  | cons first rest ih =>
    obtain ⟨below, tail⟩ := List.pairwise_cons.mp h
    rw [place]
    split
    next less =>
      refine List.pairwise_cons.mpr ⟨fun other member => ?_, h⟩
      rcases List.mem_cons.mp member with rfl | member
      · exact less
      · exact Std.TransCmp.lt_trans less (below other member)
    next same =>
      exact List.pairwise_cons.mpr
        ⟨fun other member => Std.TransCmp.lt_of_eq_of_lt same (below other member), tail⟩
    next more =>
      refine List.pairwise_cons.mpr ⟨fun other member => ?_, ih tail⟩
      rcases mem_place member with rfl | member
      · exact Std.OrientedCmp.gt_iff_lt.mp more
      · exact below other member

def empty : SortedMap κ α := ⟨[], .nil⟩

instance : Inhabited (SortedMap κ α) := ⟨empty⟩

instance [BEq κ] [BEq α] : BEq (SortedMap κ α) := ⟨fun left right => left.entries == right.entries⟩

def get? (map : SortedMap κ α) (key : κ) : Option α := find key map.entries

def contains (map : SortedMap κ α) (key : κ) : Bool := (map.get? key).isSome

def isEmpty (map : SortedMap κ α) : Bool := map.entries.isEmpty

def keys (map : SortedMap κ α) : List κ := map.entries.map (·.1)

def erase (map : SortedMap κ α) (key : κ) : SortedMap κ α :=
  ⟨map.entries.filter fun entry => compare key entry.1 != .eq, map.ascending.filter _⟩

section Insert

variable [Std.TransOrd κ]

def insert (map : SortedMap κ α) (key : κ) (value : α) : SortedMap κ α :=
  ⟨place key value map.entries, place_ascending key value map.ascending⟩

def update (map : SortedMap κ α) (key : κ) (step : Option α → α) : SortedMap κ α :=
  map.insert key (step (map.get? key))

def insertAll (map : SortedMap κ α) (entries : List (κ × α)) : SortedMap κ α :=
  entries.foldl (fun result entry => result.insert entry.1 entry.2) map

def ofList (entries : List (κ × α)) : SortedMap κ α := empty.insertAll entries

end Insert

@[ext]
theorem ext_entries {left right : SortedMap κ α} (h : left.entries = right.entries) : left = right := by
  cases left; cases right; cases h; rfl

instance [DecidableEq κ] [DecidableEq α] : DecidableEq (SortedMap κ α) := fun left right =>
  decidable_of_iff (left.entries = right.entries) ⟨ext_entries, fun h => h ▸ rfl⟩

@[simp] theorem get?_empty (key : κ) : (empty : SortedMap κ α).get? key = none := rfl

theorem find_place_self [Std.ReflOrd κ] (key : κ) (value : α) (entries : List (κ × α)) :
    find key (place key value entries) = some value := by
  induction entries with
  | nil => simp [place, find, Std.ReflCmp.compare_self]
  | cons first rest ih =>
    rw [place]
    split
    next => simp [find, Std.ReflCmp.compare_self]
    next => simp [find, Std.ReflCmp.compare_self]
    next more => simp [find, more, ih]

theorem find_place_of_ne [Std.TransOrd κ] [Std.LawfulEqOrd κ] {key other : κ} (h : other ≠ key)
    (value : α) (entries : List (κ × α)) :
    find other (place key value entries) = find other entries := by
  have apart : compare other key ≠ .eq := fun same => h (Std.LawfulEqCmp.eq_of_compare same)
  induction entries with
  | nil => simp [place, find, apart]
  | cons first rest ih =>
    rw [place]
    split
    next => simp [find, apart]
    next same =>
      have : key = first.1 := Std.LawfulEqCmp.eq_of_compare same
      simp [find, ← this, apart]
    next => simp [find, ih]

@[simp] theorem get?_insert_self [Std.TransOrd κ] (map : SortedMap κ α) (key : κ) (value : α) :
    (map.insert key value).get? key = some value :=
  find_place_self key value map.entries

theorem get?_insert_of_ne [Std.TransOrd κ] [Std.LawfulEqOrd κ] (map : SortedMap κ α) {key other : κ}
    (h : other ≠ key) (value : α) : (map.insert key value).get? other = map.get? other :=
  find_place_of_ne h value map.entries

theorem find_filter_self (key : κ) (entries : List (κ × α)) :
    find key (entries.filter fun entry => compare key entry.1 != .eq) = none := by
  induction entries with
  | nil => rfl
  | cons first rest ih =>
    by_cases h : compare key first.1 = .eq
    · simpa [h] using ih
    · simpa [h, find] using ih

theorem find_filter_of_ne [Std.TransOrd κ] [Std.LawfulEqOrd κ] {key other : κ} (h : other ≠ key)
    (entries : List (κ × α)) :
    find other (entries.filter fun entry => compare key entry.1 != .eq) = find other entries := by
  have apart : compare other key ≠ .eq := fun same => h (Std.LawfulEqCmp.eq_of_compare same)
  induction entries with
  | nil => rfl
  | cons first rest ih =>
    by_cases same : compare key first.1 = .eq
    · have : key = first.1 := Std.LawfulEqCmp.eq_of_compare same
      simpa [find, ← this, apart] using ih
    · simp [same, find, ih]

@[simp] theorem get?_erase_self (map : SortedMap κ α) (key : κ) : (map.erase key).get? key = none :=
  find_filter_self key map.entries

theorem get?_erase_of_ne [Std.TransOrd κ] [Std.LawfulEqOrd κ] (map : SortedMap κ α) {key other : κ}
    (h : other ≠ key) : (map.erase key).get? other = map.get? other :=
  find_filter_of_ne h map.entries

theorem find_eq_none {key : κ} {entries : List (κ × α)} (h : ∀ entry ∈ entries, compare key entry.1 ≠ .eq) :
    find key entries = none := by
  induction entries with
  | nil => rfl
  | cons first rest ih =>
    have tail := ih fun entry member => h entry (List.mem_cons_of_mem _ member)
    simp [find, h first List.mem_cons_self, tail]

theorem find_eq_none_of_lt [Std.TransOrd κ] {key : κ} {first : κ × α} {rest : List (κ × α)}
    (h : (first :: rest).Pairwise (fun before after => compare before.1 after.1 = .lt))
    (less : compare key first.1 = .lt) : find key (first :: rest) = none := by
  refine find_eq_none fun entry member => ?_
  rcases List.mem_cons.mp member with rfl | member
  · simp [less]
  · simp [Std.TransCmp.lt_trans less ((List.pairwise_cons.mp h).1 entry member)]

theorem ext_find [Std.TransOrd κ] [Std.LawfulEqOrd κ] {left right : List (κ × α)}
    (ascending : left.Pairwise (fun before after => compare before.1 after.1 = .lt))
    (ascending' : right.Pairwise (fun before after => compare before.1 after.1 = .lt))
    (h : ∀ key, find key left = find key right) : left = right := by
  induction left generalizing right with
  | nil =>
    cases right with
    | nil => rfl
    | cons first rest => simpa [find, Std.ReflCmp.compare_self] using h first.1
  | cons first rest ih =>
    cases right with
    | nil => simpa [find, Std.ReflCmp.compare_self] using h first.1
    | cons first' rest' =>
      have here : find first.1 (first :: rest) = some first.2 := by simp [find, Std.ReflCmp.compare_self]
      have here' : find first'.1 (first' :: rest') = some first'.2 := by simp [find, Std.ReflCmp.compare_self]
      cases order : compare first.1 first'.1 with
      | lt => rw [h, find_eq_none_of_lt ascending' order] at here; simp at here
      | gt =>
        rw [← h, find_eq_none_of_lt ascending (Std.OrientedCmp.gt_iff_lt.mp order)] at here'
        simp at here'
      | eq =>
        have key : first.1 = first'.1 := Std.LawfulEqCmp.eq_of_compare order
        have value : first.2 = first'.2 := by
          rw [h, key, here'] at here
          exact (Option.some.inj here).symm
        obtain ⟨below, tail⟩ := List.pairwise_cons.mp ascending
        obtain ⟨below', tail'⟩ := List.pairwise_cons.mp ascending'
        have rests : rest = rest' := ih tail tail' fun other => by
          by_cases same : compare other first.1 = .eq
          · have : other = first.1 := Std.LawfulEqCmp.eq_of_compare same
            subst this
            rw [find_eq_none fun entry member => by simp [below entry member],
              find_eq_none fun entry member => by rw [key]; simp [below' entry member]]
          · have := h other
            simpa [find, same, ← key] using this
        rw [rests, Prod.ext key value]

theorem ext_get? [Std.TransOrd κ] [Std.LawfulEqOrd κ] {left right : SortedMap κ α}
    (h : ∀ key, left.get? key = right.get? key) : left = right :=
  ext_entries (ext_find left.ascending right.ascending h)

end SortedMap

end CallProfile
