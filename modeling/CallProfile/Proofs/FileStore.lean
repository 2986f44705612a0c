import CallProfile.FileStore
import CallProfile.Proofs.Failure
import CallProfile.Proofs.SortedMap

namespace CallProfile.FileStore

variable {store after : FileStore} {path : String} {place middle reached : List String} {content : ByteArray}

/-- The place to which one name on a path leads from a directory. -/
inductive Leads (store : FileStore) (place : List String) : String → List String → Prop where
  | here {name : String} (stays : name = "" ∨ name = ".") : Leads store place name place
  | up (above : store.entry? place.dropLast = some .directory) : Leads store place ".." place.dropLast
  | down {name : String} (ordinary : name ≠ "" ∧ name ≠ "." ∧ name ≠ "..") (short : name.utf8ByteSize ≤ nameLimit) :
    Leads store place name (place ++ [name])

theorem enter_eq_ok : store.enter place = .ok () ↔ store.entry? place = some .directory := by
  unfold enter
  cases store.entry? place with
  | none => simp
  | some entry => cases entry <;> simp

theorem walk_cons_eq_ok {name : String} {rest : List String} :
    store.walk place (name :: rest) = .ok reached ↔
      store.entry? place = some .directory ∧
        ∃ next, store.Leads place name next ∧ store.walk next rest = .ok reached := by
  rw [← enter_eq_ok, walk]
  constructor
  · intro walked
    obtain ⟨_, entered, walked⟩ := bind_eq_ok walked
    refine ⟨entered, ?_⟩
    by_cases stays : name = "" ∨ name = "."
    · rw [if_pos stays] at walked
      exact ⟨place, .here stays, walked⟩
    rw [if_neg stays] at walked
    rw [not_or] at stays
    by_cases up : name = ".."
    · rw [if_pos up] at walked
      obtain ⟨_, above, walked⟩ := bind_eq_ok walked
      exact ⟨place.dropLast, up ▸ .up (enter_eq_ok.mp above), walked⟩
    rw [if_neg up] at walked
    split at walked
    · cases walked
    next short => exact ⟨place ++ [name], .down ⟨stays.1, stays.2, up⟩ (Nat.le_of_not_lt short), walked⟩
  · rintro ⟨entered, next, leads, walked⟩
    rw [entered]
    cases leads with
    | here stays => simpa [Bind.bind, Except.bind, stays] using walked
    | up above => simpa [Bind.bind, Except.bind, enter_eq_ok.mpr above] using walked
    | down ordinary short => simpa [Bind.bind, Except.bind, ordinary, Nat.not_lt.mpr short] using walked

theorem walk_append_eq_ok {front back : List String} :
    store.walk place (front ++ back) = .ok reached ↔
      ∃ middle, store.walk place front = .ok middle ∧ store.walk middle back = .ok reached := by
  induction front generalizing place with
  | nil => simp [walk]
  | cons name front ih =>
    simp only [List.cons_append, walk_cons_eq_ok, ih]
    constructor
    · rintro ⟨entered, next, leads, middle, walked, onward⟩
      exact ⟨middle, ⟨entered, next, leads, walked⟩, onward⟩
    · rintro ⟨middle, ⟨entered, next, leads, walked⟩, onward⟩
      exact ⟨entered, next, leads, middle, walked, onward⟩

def place? (store : FileStore) (path : String) : Except FileError (List String) := do
  checkPath path
  store.walk (store.start path) (names path)

theorem place?_eq_ok : store.place? path = .ok place ↔
    checkPath path = .ok () ∧ store.walk (store.start path) (names path) = .ok place := by
  unfold place?
  cases checkPath path <;> simp [Bind.bind, Except.bind]

theorem read_eq_ok :
    store.read path = .ok content ↔ ∃ place, store.place? path = .ok place ∧ store.entry? place = some (.file content) := by
  simp only [place?_eq_ok]
  unfold read
  constructor
  · intro read
    obtain ⟨_, checked, read⟩ := bind_eq_ok read
    obtain ⟨place, walked, read⟩ := bind_eq_ok read
    refine ⟨place, ⟨checked, walked⟩, ?_⟩
    split at read
    · cases read
    · cases read
    next found =>
      cases read
      exact found
  · rintro ⟨place, ⟨checked, walked⟩, found⟩
    simp [checked, walked, found, Bind.bind, Except.bind]

theorem splitSlashes_ne_nil (name text : List Char) : splitSlashes name text ≠ [] := by
  induction text generalizing name with
  | nil => exact List.cons_ne_nil _ _
  | cons c text ih =>
    rw [splitSlashes]
    split
    · exact List.cons_ne_nil _ _
    · exact ih _

theorem withoutTrailing_eq_iff {front : List String} {last : String} :
    withoutTrailing (front ++ [last]) = front ++ [last] ↔ last ≠ "" := by
  simp only [withoutTrailing, List.reverse_append, List.reverse_singleton, List.singleton_append, List.dropWhile_cons,
    decide_eq_true_eq]
  by_cases blank : last = ""
  · rw [if_pos blank]
    apply iff_of_false
    · intro same
      have shorter := (List.dropWhile_sublist (fun name => decide (name = "")) (l := front.reverse)).length_le
      have := congrArg List.length same
      simp only [List.length_reverse, List.length_append, List.length_singleton] at this shorter
      omega
    · exact not_not_intro blank
  · simp [blank]

theorem isDirectory_of_last {front : List String} {last : String}
    (reaches : store.walk middle (front ++ [last]) = .ok place) (improper : last = "" ∨ last = "." ∨ last = "..") :
    store.entry? place = some .directory := by
  obtain ⟨parent, -, onward⟩ := walk_append_eq_ok.mp reaches
  obtain ⟨entered, next, leads, same⟩ := walk_cons_eq_ok.mp onward
  cases same
  cases leads with
  | here stays => exact entered
  | up above => exact above
  | down ordinary short => simp [ordinary] at improper

def withFile (store : FileStore) (place : List String) (content : ByteArray) : FileStore :=
  { store with entries := store.entries.insert place (.file content) }

/-- Whether a file can be written under a path. -/
def Writable (store : FileStore) (path : String) : Prop :=
  ∃ place, store.place? path = .ok place ∧ store.entry? place ≠ some .directory

theorem write_eq_ok :
    store.write path content = .ok after ↔
      ∃ place, store.place? path = .ok place ∧ store.entry? place ≠ some .directory ∧
        after = store.withFile place content := by
  obtain ⟨front, last, whole⟩ : ∃ front last, names path = front ++ [last] :=
    ⟨_, _, (List.dropLast_concat_getLast (splitSlashes_ne_nil [] path.toList)).symm⟩
  simp only [place?_eq_ok, whole]
  constructor
  · intro written
    obtain ⟨_, checked, written⟩ := bind_eq_ok written
    obtain ⟨parent, walked, written⟩ := bind_eq_ok written
    obtain ⟨_, entered, written⟩ := bind_eq_ok written
    dsimp only at written
    split at written
    · cases written
    next proper =>
      obtain ⟨place, onward, written⟩ := bind_eq_ok written
      obtain ⟨trimmed, -⟩ := not_or.mp proper
      rw [Decidable.not_not.mp trimmed, whole] at walked onward
      rw [List.dropLast_concat] at walked
      rw [List.getLastD_concat] at onward
      split at written
      · cases written
      next free =>
        exact ⟨place, ⟨checked, walk_append_eq_ok.mpr ⟨parent, walked, onward⟩⟩, free, (Except.ok.inj written).symm⟩
  · rintro ⟨place, ⟨checked, reaches⟩, free, rfl⟩
    have proper : ¬ (last = "" ∨ last = "." ∨ last = "..") := fun improper => free (isDirectory_of_last reaches improper)
    obtain ⟨parent, walked, onward⟩ := walk_append_eq_ok.mp reaches
    have entered := enter_eq_ok.mpr (walk_cons_eq_ok.mp onward).1
    rw [not_or] at proper
    have trimmed : withoutTrailing (front ++ [last]) = front ++ [last] := withoutTrailing_eq_iff.mpr proper.1
    unfold write
    simp only [whole, trimmed, checked, List.dropLast_concat, walked, entered, List.getLastD_concat, onward, proper,
      Bind.bind, Except.bind]
    rw [if_neg (by simp)]
    rfl

theorem entry?_withFile (free : store.entry? place ≠ some .directory) (other : List String) :
    entry? (store.withFile place content) other = if other = place then some (.file content) else store.entry? other := by
  unfold entry? withFile
  by_cases root : other = []
  · have apart : other ≠ place := by
      rintro rfl
      simp [root, entry?] at free
    simp [root, root ▸ apart]
  · simp [root, SortedMap.get?_insert]

theorem walk_withFile (free : store.entry? place ≠ some .directory) {start names : List String} :
    (store.withFile place content).walk start names = .ok reached ↔ store.walk start names = .ok reached := by
  have directory (other : List String) :
      entry? (store.withFile place content) other = some .directory ↔ store.entry? other = some .directory := by
    rw [entry?_withFile free]
    by_cases here : other = place
    · rw [if_pos here, here]
      exact iff_of_false (by simp) free
    · rw [if_neg here]
  have leads (middle : List String) (name : String) (next : List String) :
      (store.withFile place content).Leads middle name next ↔ store.Leads middle name next := by
    constructor
    all_goals
      intro leads
      cases leads with
      | here stays => exact .here stays
      | up above => exact .up (by simpa only [directory] using above)
      | down ordinary short => exact .down ordinary short
  induction names generalizing start with
  | nil => rfl
  | cons name names ih => simp only [walk_cons_eq_ok, directory, leads, ih]

theorem place?_withFile (free : store.entry? place ≠ some .directory) :
    (store.withFile place content).place? path = .ok reached ↔ store.place? path = .ok reached := by
  simp only [place?_eq_ok, walk_withFile free]
  rfl

/-- A file was written: it is read again under every path to it, and all the others are as they were. -/
structure Wrote (before : FileStore) (path : String) (content : ByteArray) (after : FileStore) : Prop where
  reads : ∀ other, before.place? other = before.place? path → after.read other = .ok content
  others : ∀ other found, before.place? other ≠ before.place? path →
    (after.read other = .ok found ↔ before.read other = .ok found)
  entries : ∀ place, before.place? path ≠ .ok place → after.entry? place = before.entry? place

theorem wrote_of_write (written : store.write path content = .ok after) : Wrote store path content after := by
  obtain ⟨place, leads, free, rfl⟩ := write_eq_ok.mp written
  refine ⟨?_, ?_, ?_⟩
  · intro other same
    apply read_eq_ok.mpr
    refine ⟨place, (place?_withFile free).mpr (same.trans leads), ?_⟩
    rw [entry?_withFile free, if_pos rfl]
  · intro other found apart
    simp only [read_eq_ok, place?_withFile free, entry?_withFile free]
    refine exists_congr fun reached => and_congr_right fun leadsOther => ?_
    rw [if_neg]
    rintro rfl
    exact apart (leadsOther.trans leads.symm)
  · intro other apart
    rw [entry?_withFile free, if_neg]
    rintro rfl
    exact apart leads

theorem exists_write_iff : (∃ after, store.write path content = .ok after) ↔ store.Writable path := by
  simp only [write_eq_ok, Writable]
  constructor
  · rintro ⟨after, place, leads, free, -⟩
    exact ⟨place, leads, free⟩
  · rintro ⟨place, leads, free⟩
    exact ⟨_, place, leads, free, rfl⟩

end CallProfile.FileStore
