import CallProfile.Proofs.Json.Number
import CallProfile.Proofs.Json.Text

namespace CallProfile.Json

namespace Document

variable {after : List Symbol}

def entriesText (level : Nat) : List (String × Document) → List Char
  | [] => []
  | (name, value) :: rest =>
    newline (level + 1) ++ quote name ++ ':' :: ' ' :: value.pretty (level + 1) ++
      prettyEntries (level + 1) rest ++ newline level

def itemsText (level : Nat) : List Document → List Char
  | [] => []
  | item :: rest =>
    newline (level + 1) ++ item.pretty (level + 1) ++ prettyItems (level + 1) rest ++ newline level

theorem written_record (level : Nat) (entries : List (String × Document)) :
    written ((record entries).pretty level) ++ after =
      .char '{' :: (written (entriesText level entries) ++ .char '}' :: after) := by
  cases entries with
  | nil => simp [pretty, entriesText]
  | cons first rest => simp [pretty, entriesText]

theorem written_list (level : Nat) (items : List Document) :
    written ((list items).pretty level) ++ after =
      .char '[' :: (written (itemsText level items) ++ .char ']' :: after) := by
  cases items with
  | nil => simp [pretty, itemsText]
  | cons first rest => simp [pretty, itemsText]

theorem written_prettyEntries_cons (level : Nat) (name : String) (value : Document) (rest : List (String × Document)) :
    written (prettyEntries level ((name, value) :: rest)) ++ after =
      .char ',' :: (written (newline level) ++ (written (quote name) ++ .char ':' :: .char ' ' ::
        (written (value.pretty level) ++ (written (prettyEntries level rest) ++ after)))) := by
  simp [prettyEntries]

theorem written_entriesText_cons (level : Nat) (name : String) (value : Document) (rest : List (String × Document)) :
    written (entriesText level ((name, value) :: rest)) ++ after =
      written (newline (level + 1)) ++ (written (quote name) ++ .char ':' :: .char ' ' ::
        (written (value.pretty (level + 1)) ++
          (written (prettyEntries (level + 1) rest) ++ (written (newline level) ++ after)))) := by
  simp [entriesText]

theorem written_prettyItems_cons (level : Nat) (item : Document) (rest : List Document) :
    written (prettyItems level (item :: rest)) ++ after =
      .char ',' :: (written (newline level) ++
        (written (item.pretty level) ++ (written (prettyItems level rest) ++ after))) := by
  simp [prettyItems]

theorem written_itemsText_cons (level : Nat) (item : Document) (rest : List Document) :
    written (itemsText level (item :: rest)) ++ after =
      written (newline (level + 1)) ++ (written (item.pretty (level + 1)) ++
        (written (prettyItems (level + 1) rest) ++ (written (newline level) ++ after))) := by
  simp [itemsText]

theorem length_le_prettyEntries (level : Nat) (entries : List (String × Document)) :
    entries.length ≤ (prettyEntries level entries).length := by
  induction entries with
  | nil => simp
  | cons first rest ih =>
    simp only [prettyEntries, List.length_cons, List.length_append]
    omega

theorem length_le_prettyItems (level : Nat) (items : List Document) :
    items.length ≤ (prettyItems level items).length := by
  induction items with
  | nil => simp
  | cons first rest ih =>
    simp only [prettyItems, List.length_cons, List.length_append]
    omega

end Document

namespace Reader

variable {α σ : Type} {gap after : List Symbol} {level : Nat}

/-- Behind white space, and where the text ends a number, the reader takes `text` for `value`. -/
def Undoes (body : Reader α) (text : List Char) (value : α) : Prop :=
  ∀ gap after, Blank gap → Stops after → Reads body (gap ++ (written text ++ after)) value after

theorem Undoes.behind_space {body : Reader α} {text : List Char} {value : α} (undoes : Undoes body text value)
    (stop : Stops after) : Reads body (.char ' ' :: (written text ++ after)) value after :=
  undoes [.char ' '] after (by simp [Blank, Symbol.isSpace]) stop

theorem stops_cons {c : Char} (notDigit : ¬ c.isDigit) (notPoint : c ≠ '.') (notExponent : c ≠ 'e' ∧ c ≠ 'E') :
    Stops (.char c :: after) where
  noDigit := noDigit_cons notDigit
  noPoint := by simpa using notPoint
  noExponent := by simpa using notExponent

theorem stops_newline (level : Nat) : Stops (written (Document.newline level) ++ after) :=
  stops_cons (by decide) (by decide) (by decide)

theorem blank_newline (level : Nat) : Blank (written (Document.newline level)) := by
  intro symbol member
  simp only [Document.newline, written, List.map_cons, List.map_replicate, List.mem_cons, List.mem_replicate] at member
  rcases member with rfl | ⟨-, rfl⟩ <;> rfl

theorem undoes_text (expected content : String) : Undoes (text expected) (quote content) content :=
  fun _ _ blank _ => reads_text blank expected content

theorem undoes_natural64 {number : Nat} (bound : number < UInt64.size) :
    Undoes natural64 (Decimal.digits number) number := fun _ _ blank stop => reads_natural64 blank stop bound

theorem undoes_natural32 {number : Nat} (bound : number < UInt32.size) :
    Undoes natural32 (Decimal.digits number) number := fun _ _ blank stop => reads_natural32 blank stop bound

/-- Entry by entry, the reader of entries brings one state to another. -/
inductive Enters (entry : String → σ → Reader σ) (level : Nat) : List (String × Document) → σ → σ → Prop
  | nil {state : σ} : Enters entry level [] state state
  | cons {name : String} {value : Document} {rest : List (String × Document)} {state next last : σ}
      (first : ∀ after, Stops after →
        Reads (entry name state) (.char ':' :: .char ' ' :: (written (value.pretty level) ++ after)) next after)
      (others : Enters entry level rest next last) : Enters entry level ((name, value) :: rest) state last

theorem reads_colon : Reads colon (.char ':' :: after) () after :=
  (reads_lookPastSpace_cons blank_nil (by decide)).bind reads_advance

theorem reads_once {body : Reader α} {text : List Char} {value : α} (undoes : Undoes body text value) (name : String)
    (stop : Stops after) :
    Reads (once name none body) (.char ':' :: .char ' ' :: (written text ++ after)) (some value) after :=
  reads_colon.bind ((undoes.behind_space stop).map some)

theorem reads_moreEntries_first (blank : Blank gap) (name : String) :
    Reads (moreEntries true) (gap ++ (written (quote name) ++ after)) true (written (quote name) ++ after) := by
  rw [written_quote]
  exact (reads_lookPastSpace_cons blank (by decide)).bind reads_pure

theorem reads_moreEntries_next (blank : Blank gap) (name : String) :
    Reads (moreEntries false) (.char ',' :: (gap ++ (written (quote name) ++ after))) true
      (written (quote name) ++ after) := by
  rw [written_quote]
  refine (reads_lookPastSpace_cons blank_nil (by decide)).bind ?_
  exact Reads.past ((reads_lookPastSpace_cons blank (by decide)).bind reads_pure)

theorem reads_moreEntries_end (blank : Blank gap) (first : Bool) :
    Reads (moreEntries first) (gap ++ .char '}' :: after) false (.char '}' :: after) :=
  (reads_lookPastSpace_cons blank (by decide)).bind reads_pure

theorem stops_prettyEntries (level outer : Nat) (entries : List (String × Document)) :
    Stops (written (Document.prettyEntries level entries) ++ (written (Document.newline outer) ++ after)) := by
  cases entries with
  | nil => exact stops_newline outer
  | cons first rest => exact stops_cons (by decide) (by decide) (by decide)

theorem Enters.reads_next {entry : String → σ → Reader σ} {entries : List (String × Document)} {state last : σ}
    (enters : Enters entry level entries state last) {steps : Nat} (enough : entries.length < steps) (outer : Nat) :
    Reads (entriesFrom entry steps false state)
      (written (Document.prettyEntries level entries) ++ (written (Document.newline outer) ++ .char '}' :: after)) last
      (.char '}' :: after) := by
  induction enters generalizing steps with
  | nil =>
    obtain ⟨steps, rfl⟩ := Nat.exists_eq_add_one.mpr (Nat.zero_lt_of_lt enough)
    exact (reads_moreEntries_end (blank_newline outer) false).bind reads_pure
  | @cons name value rest state next last first others ih =>
    obtain ⟨steps, rfl⟩ := Nat.exists_eq_add_one.mpr (Nat.zero_lt_of_lt enough)
    have fewer : rest.length < steps := by simpa using enough
    have body := (first _ (stops_prettyEntries level outer rest)).bind (ih fewer)
    rw [Document.written_prettyEntries_cons]
    exact (reads_moreEntries_next (blank_newline level) name).bind ((reads_key name).bind body)

theorem Enters.reads {entry : String → σ → Reader σ} {entries : List (String × Document)} {state last : σ}
    (enters : Enters entry (level + 1) entries state last) :
    Reads (Reader.entries entry state) (written (Document.entriesText level entries) ++ .char '}' :: after) last
      (.char '}' :: after) := by
  refine Reads.withSteps ?_
  cases enters with
  | nil => exact (reads_moreEntries_end blank_nil true).bind reads_pure
  | @cons name value rest _ next _ first others =>
    have enough := Document.length_le_prettyEntries (level + 1) rest
    rw [Document.written_entriesText_cons]
    refine (reads_moreEntries_first (blank_newline (level + 1)) name).bind ((reads_key name).bind ?_)
    refine (first _ (stops_prettyEntries (level + 1) level rest)).bind (others.reads_next ?_ level)
    simp only [List.length_append, List.length_map, List.length_cons]
    omega

theorem Reads.record {shape : Brackets α} {body : Nat → Reader α} {entries : List (String × Document)} {value : α}
    {room : Nat} (record? : shape.record = some body)
    (reads : ∀ after, Reads (body room) (written (Document.entriesText level entries) ++ .char '}' :: after) value
      (.char '}' :: after)) :
    Undoes (brackets shape (room + 1)) ((Document.record entries).pretty level) value := by
  intro gap after blank _
  have closes : Reads endOfRecord (.char '}' :: after) () after :=
    (reads_lookPastSpace_cons blank_nil (by decide)).bind reads_advance
  rw [Document.written_record]
  refine Reads.placed ((reads_lookPastSpace_cons blank (by decide)).bind ?_)
  simp only [record?]
  exact Reads.past ((reads after).closedBy closes)

theorem reads_moreItems_end (blank : Blank gap) (first : Bool) :
    Reads (moreItems first) (gap ++ .char ']' :: after) false (.char ']' :: after) :=
  (reads_lookPastSpace_cons blank (by decide)).bind reads_pure

theorem reads_moreItems_first (blank : Blank gap) (entries : List (String × Document)) :
    Reads (moreItems true) (gap ++ (written ((Document.record entries).pretty level) ++ after)) true
      (written ((Document.record entries).pretty level) ++ after) := by
  rw [Document.written_record]
  exact (reads_lookPastSpace_cons blank (by decide)).bind reads_pure

theorem reads_moreItems_next (blank : Blank gap) (entries : List (String × Document)) :
    Reads (moreItems false) (.char ',' :: (gap ++ (written ((Document.record entries).pretty level) ++ after))) true
      (written ((Document.record entries).pretty level) ++ after) := by
  rw [Document.written_record]
  refine (reads_lookPastSpace_cons blank_nil (by decide)).bind ?_
  exact Reads.past ((reads_lookPastSpace_cons blank (by decide)).bind reads_pure)

theorem stops_prettyItems (level outer : Nat) (items : List Document) :
    Stops (written (Document.prettyItems level items) ++ (written (Document.newline outer) ++ after)) := by
  cases items with
  | nil => exact stops_newline outer
  | cons first rest => exact stops_cons (by decide) (by decide) (by decide)

section Items

variable {entries : α → List (String × Document)} {values : List α}

theorem reads_itemsFrom {item : Reader α}
    (undoes : ∀ value ∈ values, Undoes item ((Document.record (entries value)).pretty level) value)
    {steps : Nat} (enough : values.length < steps) (outer : Nat) :
    Reads (itemsFrom item steps false)
      (written (Document.prettyItems level (values.map fun value => .record (entries value))) ++
        (written (Document.newline outer) ++ .char ']' :: after)) values (.char ']' :: after) := by
  induction values generalizing steps with
  | nil =>
    obtain ⟨steps, rfl⟩ := Nat.exists_eq_add_one.mpr (Nat.zero_lt_of_lt enough)
    exact (reads_moreItems_end (blank_newline outer) false).bind reads_pure
  | cons value values ih =>
    obtain ⟨steps, rfl⟩ := Nat.exists_eq_add_one.mpr (Nat.zero_lt_of_lt enough)
    have fewer : values.length < steps := by simpa using enough
    have tail := ih (fun value member => undoes value (List.mem_cons_of_mem _ member)) fewer
    have first := undoes value List.mem_cons_self []
    rw [List.map_cons, Document.written_prettyItems_cons]
    refine (reads_moreItems_next (blank_newline level) _).bind ?_
    exact (first _ blank_nil (stops_prettyItems level outer _)).bind (tail.map _)

theorem reads_items {item : Reader α}
    (undoes : ∀ value ∈ values, Undoes item ((Document.record (entries value)).pretty (level + 1)) value) :
    Reads (items item)
      (written (Document.itemsText level (values.map fun value => .record (entries value))) ++ .char ']' :: after) values
      (.char ']' :: after) := by
  refine Reads.withSteps ?_
  cases values with
  | nil => exact (reads_moreItems_end blank_nil true).bind reads_pure
  | cons value values =>
    have enough := Document.length_le_prettyItems (level + 1) (values.map fun value => .record (entries value))
    have first := undoes value List.mem_cons_self []
    have others (other : α) (member : other ∈ values) := undoes other (List.mem_cons_of_mem _ member)
    rw [List.map_cons, Document.written_itemsText_cons]
    refine (reads_moreItems_first (blank_newline (level + 1)) _).bind ?_
    refine (first _ blank_nil (stops_prettyItems (level + 1) level _)).bind ((reads_itemsFrom others ?_ level).map _)
    rw [List.length_map] at enough
    simp only [List.length_append, List.length_map, List.length_cons]
    omega

theorem undoes_list {item : Nat → Reader α} {room : Nat}
    (undoes : ∀ value ∈ values, Undoes (item room) ((Document.record (entries value)).pretty (level + 1)) value) :
    Undoes (list item (room + 1)) ((Document.list (values.map fun value => .record (entries value))).pretty level)
      values := by
  intro gap after blank _
  have closes : Reads endOfList (.char ']' :: after) () after :=
    (reads_lookPastSpace_cons blank_nil (by decide)).bind reads_advance
  rw [Document.written_list]
  refine Reads.placed ((reads_lookPastSpace_cons blank (by decide)).bind ?_)
  exact Reads.past ((reads_items undoes).closedBy closes)

end Items

end Reader

end CallProfile.Json
