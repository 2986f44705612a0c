import CallProfile.Json.Skip

namespace CallProfile.Json

abbrev written (text : List Char) : List Symbol := text.map .char

namespace Reader

variable {α β : Type}

/-- Wherever `before` is what is left of the text, the reader gives `value` and leaves `after`. -/
def Reads (body : Reader α) (before : List Symbol) (value : α) (after : List Symbol) : Prop :=
  ∀ cursor : Cursor, cursor.rest = before →
    ∃ next : Cursor, next.rest = after ∧ body cursor = .ok value next

/-- Whatever value the reader gives, it has the property. -/
def Gives (body : Reader α) (property : α → Prop) : Prop :=
  ∀ cursor value next, body cursor = .ok value next → property value

section Reads

variable {before mid after gap : List Symbol} {value : α} {symbol : Symbol}

theorem Reads.bind {first : Reader α} {next : α → Reader β} {result : β}
    (reads : Reads first before value mid) (thenReads : Reads (next value) mid result after) :
    Reads (first >>= next) before result after := by
  intro cursor rest
  obtain ⟨middle, restMiddle, taken⟩ := reads cursor rest
  obtain ⟨last, restLast, takenNext⟩ := thenReads middle restMiddle
  refine ⟨last, restLast, ?_⟩
  simp only [Bind.bind, EStateM.bind, taken, takenNext]

theorem reads_pure : Reads (pure value) before value before := fun cursor rest => ⟨cursor, rest, rfl⟩

theorem Reads.map {body : Reader α} (reads : Reads body before value after) (f : α → β) :
    Reads (do return f (← body)) before (f value) after :=
  reads.bind reads_pure

theorem reads_look : Reads look before before.head? before := fun cursor rest =>
  ⟨{ cursor with looked := true }, rest, by simp only [look, rest]⟩

theorem reads_advance : Reads advance (symbol :: after) () after := fun cursor rest =>
  ⟨cursor.next, by simp only [Cursor.next, rest], rfl⟩

theorem Reads.past {body : Reader α} (reads : Reads body before value after) :
    Reads (do advance; body) (symbol :: before) value after :=
  reads_advance.bind reads

theorem Reads.placed {body : Reader α} (reads : Reads body before value after) :
    Reads (placed body) before value after := by
  intro cursor rest
  obtain ⟨next, restNext, taken⟩ := reads cursor rest
  exact ⟨next, restNext, by simp only [Reader.placed, taken]⟩

theorem Reads.withSteps {body : Nat → Reader α} (reads : Reads (body (before.length + 1)) before value after) :
    Reads (withSteps body) before value after := by
  intro cursor rest
  obtain ⟨next, restNext, taken⟩ := reads cursor rest
  exact ⟨next, restNext, by simp only [Reader.withSteps, rest, taken]⟩

theorem Reads.closedBy {close : Reader Unit} {body : Reader α} (reads : Reads body before value mid)
    (closes : Reads close mid () after) : Reads (closedBy close body) before value after := by
  intro cursor rest
  obtain ⟨middle, restMiddle, taken⟩ := reads cursor rest
  obtain ⟨last, restLast, closed⟩ := closes middle restMiddle
  exact ⟨last, restLast, by simp only [Reader.closedBy, taken, closed]⟩

theorem reads_span {condition : Symbol → Bool} (run : ∀ symbol ∈ gap, condition symbol)
    (stop : ∀ symbol ∈ after.head?, ¬ condition symbol) : Reads (span condition) (gap ++ after) gap after := by
  have stopped : after.takeWhile condition = [] ∧ after.dropWhile condition = after := by
    cases after with
    | nil => exact ⟨rfl, rfl⟩
    | cons symbol rest => simp [stop symbol rfl]
  intro cursor rest
  refine ⟨(cursor.span condition).2, ?_, ?_⟩
  · simp [Cursor.span, rest, List.dropWhile_append_of_pos run, stopped.2]
  · simp [span, Cursor.span, rest, List.takeWhile_append_of_pos run, stopped.1]

def Blank (gap : List Symbol) : Prop := ∀ symbol ∈ gap, symbol.isSpace

theorem blank_nil : Blank [] := fun _ member => absurd member List.not_mem_nil

theorem reads_lookPastSpace (blank : Blank gap) (stop : ∀ symbol ∈ after.head?, ¬ symbol.isSpace) :
    Reads lookPastSpace (gap ++ after) after.head? after :=
  (reads_span blank stop).bind reads_look

theorem reads_lookPastSpace_cons (blank : Blank gap) (stop : ¬ symbol.isSpace) :
    Reads lookPastSpace (gap ++ symbol :: after) (some symbol) (symbol :: after) :=
  reads_lookPastSpace blank fun _ same => Option.some.inj same ▸ stop

theorem Reads.run {body : Reader α} (reads : Reads body before value after) (blank : Blank after)
    (source : Source) : run body source before = .ok value := by
  have atEnd : Reads lookPastSpace (after ++ []) none [] :=
    reads_lookPastSpace blank fun _ same => absurd same (Option.not_mem_none _)
  rw [List.append_nil] at atEnd
  obtain ⟨middle, restMiddle, taken⟩ := reads (.start source before) rfl
  obtain ⟨last, -, ended⟩ := atEnd middle restMiddle
  simp only [Reader.run, Bind.bind, EStateM.bind, taken, ended, Pure.pure, EStateM.pure]

end Reads

section Gives

variable {property : α → Prop}

theorem gives_any (body : Reader α) : Gives body fun _ => True := fun _ _ _ _ => trivial

theorem gives_pure {value : α} (h : property value) : Gives (pure value) property := by
  intro cursor given next same
  cases same
  exact h

theorem gives_throw (fault : Fault) : Gives (throw fault : Reader α) property := fun _ _ _ same => nomatch same

theorem gives_failHere (cause : Cause) : Gives (failHere cause) property := fun _ _ _ same => nomatch same

theorem gives_failAhead (cause : Cause) : Gives (failAhead cause) property := fun _ _ _ same => nomatch same

theorem Gives.bind {first : Reader β} {next : β → Reader α} {before : β → Prop} (gives : Gives first before)
    (thenGives : ∀ value, before value → Gives (next value) property) : Gives (first >>= next) property := by
  intro cursor given last same
  cases taken : first cursor with
  | error fault middle =>
    simp only [Bind.bind, EStateM.bind, taken] at same
    cases same
  | ok value middle =>
    simp only [Bind.bind, EStateM.bind, taken] at same
    exact thenGives value (gives cursor value middle taken) middle given last same

theorem Gives.after {first : Reader β} {next : β → Reader α} (gives : ∀ value, Gives (next value) property) :
    Gives (first >>= next) property :=
  (gives_any first).bind fun value _ => gives value

theorem Gives.map {body : Reader β} {before : β → Prop} (gives : Gives body before) {f : β → α}
    (h : ∀ value, before value → property (f value)) : Gives (do return f (← body)) property :=
  gives.bind fun value given => gives_pure (h value given)

theorem Gives.placed {body : Reader α} (gives : Gives body property) : Gives (placed body) property := by
  intro cursor given last same
  cases taken : body cursor with
  | error fault middle =>
    simp only [Reader.placed, taken] at same
    cases same
  | ok value middle =>
    simp only [Reader.placed, taken] at same
    cases same
    exact gives cursor given last taken

theorem Gives.withSteps {body : Nat → Reader α} (gives : ∀ steps, Gives (body steps) property) :
    Gives (withSteps body) property := fun cursor => gives (cursor.rest.length + 1) cursor

theorem Gives.closedBy {close : Reader Unit} {body : Reader α} (gives : Gives body property) :
    Gives (closedBy close body) property := by
  intro cursor given last same
  cases taken : body cursor with
  | error fault middle =>
    simp only [Reader.closedBy, taken] at same
    split at same <;> cases same
  | ok value middle =>
    simp only [Reader.closedBy, taken] at same
    split at same
    · cases same
      exact gives cursor given middle taken
    · cases same

theorem gives_mismatch (expected : String) : Gives (mismatch expected) property := by
  refine Gives.placed (Gives.after fun symbol => ?_)
  split
  · exact gives_throw _
  · exact gives_throw _
  · exact Gives.after fun _ => Gives.after fun _ => gives_throw _
  · exact Gives.after fun _ => Gives.after fun _ => gives_throw _
  · exact Gives.after fun _ => Gives.after fun _ => gives_throw _
  · exact Gives.after fun _ => Gives.after fun _ => gives_throw _
  · exact Gives.after fun _ => Gives.after fun _ => gives_throw _
  · split
    · exact Gives.after fun _ => gives_throw _
    · exact gives_failAhead _
  · exact gives_failAhead _

theorem Gives.nested {close : Reader Unit} {body : Nat → Reader α} (gives : ∀ room, Gives (body room) property)
    (room : Nat) : Gives (nested close room body) property := by
  cases room with
  | zero => exact gives_failAhead _
  | succ room => exact Gives.after fun _ => (gives room).closedBy

theorem gives_brackets {shape : Brackets α} (list : ∀ body ∈ shape.list, ∀ room, Gives (body room) property)
    (record : ∀ body ∈ shape.record, ∀ room, Gives (body room) property) (room : Nat) :
    Gives (brackets shape room) property := by
  refine Gives.placed (Gives.after fun symbol => ?_)
  split
  · exact gives_failAhead _
  split
  next body same => exact Gives.nested (list body same) room
  next body same => exact Gives.nested (record body same) room
  next => exact gives_mismatch _

theorem Gives.items {item : Reader α} (gives : Gives item property) :
    Gives (items item) fun values => ∀ value ∈ values, property value := by
  refine Gives.withSteps fun steps => ?_
  generalize true = first
  induction steps generalizing first with
  | zero => exact gives_failAhead _
  | succ steps ih =>
    refine Gives.after fun more => ?_
    cases more with
    | false => exact gives_pure fun value member => nomatch member
    | true =>
      refine gives.bind fun value here => (ih false).map fun values others other member => ?_
      rcases List.mem_cons.mp member with rfl | member
      · exact here
      · exact others other member

theorem gives_entries {entry : String → α → Reader α}
    (keeps : ∀ name state, property state → Gives (entry name state) property) {state : α} (start : property state) :
    Gives (entries entry state) property := by
  refine Gives.withSteps fun steps => ?_
  generalize true = first
  induction steps generalizing first state with
  | zero => exact gives_failAhead _
  | succ steps ih =>
    refine Gives.after fun more => ?_
    cases more with
    | false => exact gives_pure start
    | true => exact Gives.after fun name => (keeps name state start).bind fun next kept => ih kept false

theorem Gives.itemAt {item : Reader α} (gives : Gives item property) (index : Nat) (expected : String) :
    Gives (itemAt index expected item) property := by
  refine Gives.after fun more => ?_
  split
  · exact gives
  · exact gives_throw _

theorem gives_required (name : String) {field : Option α} (h : ∀ value ∈ field, property value) :
    Gives (required name field) property := by
  cases field with
  | none => exact gives_throw _
  | some value => exact gives_pure (h value rfl)

theorem Gives.once {body : Reader α} (gives : Gives body property) (name : String) (field : Option α) :
    Gives (once name field body) fun field => ∀ value ∈ field, property value := by
  cases field with
  | some value => exact gives_throw _
  | none => exact Gives.after fun _ => gives.map fun value here other same => Option.some.inj same ▸ here

theorem Gives.of_run {body : Reader α} (gives : Gives body property) {source : Source} {symbols : List Symbol}
    {value : α} (read : run body source symbols = .ok value) : property value := by
  unfold run at read
  dsimp only at read
  split at read
  next given last taken =>
    cases read
    refine Gives.bind gives (fun value here => Gives.after fun symbol => ?_) _ _ _ taken
    split
    · exact gives_pure here
    · exact gives_failAhead _
  next => cases read

end Gives

end Reader

end CallProfile.Json
