import CallProfile.Proofs.Session.Spells
import CallProfile.Proofs.Session.ThreadStacks

namespace CallProfile.Session

variable {σ α : Type}

namespace History

variable {past history : History σ α} {call : Begun σ α}

theorem begunCalls_suffix (earlier : past <:+ history) : past.begunCalls <:+ history.begunCalls := by
  induction history with
  | nil =>
    exact List.suffix_nil.mp earlier ▸ List.suffix_rfl
  | cons entry older ih =>
    rcases List.suffix_cons_iff.mp earlier with rfl | earlier
    · exact List.suffix_rfl
    · exact (ih earlier).trans (List.suffix_append _ _)

theorem closedCalls_suffix (earlier : past <:+ history) : past.closedCalls <:+ history.closedCalls := by
  induction history with
  | nil =>
    exact List.suffix_nil.mp earlier ▸ List.suffix_rfl
  | cons entry older ih =>
    rcases List.suffix_cons_iff.mp earlier with rfl | earlier
    · exact List.suffix_rfl
    · exact (ih earlier).trans (List.suffix_append _ _)

theorem endedIds_subset (earlier : past <:+ history) {id : CallId} (ended : id ∈ past.endedIds) :
    id ∈ history.endedIds := (earlier.sublist.filterMap Entry.endedId?).subset ended

theorem entry_of_begun (begun : call ∈ history.begunCalls) :
    ∃ entry, (entry :: call.past) <:+ history ∧ entry.begun? call.past = some call := by
  induction history with
  | nil => cases begun
  | cons entry older ih =>
    rcases List.mem_append.mp begun with here | earlier
    · have began : entry.begun? older = some call := Option.mem_toList.mp here
      have recent : call.past = older := Entry.past_of_begun began
      rw [← recent] at began ⊢
      exact ⟨entry, List.suffix_rfl, began⟩
    · obtain ⟨first, suffix, began⟩ := ih earlier
      exact ⟨first, suffix.trans (List.suffix_cons _ _), began⟩

theorem past_of_begun (begun : call ∈ history.begunCalls) : call.past <:+ history := by
  obtain ⟨entry, suffix, -⟩ := entry_of_begun begun
  exact (List.suffix_cons _ _).trans suffix

theorem entry_of_closed (closed : (call, past) ∈ history.closedCalls) :
    ∃ entry, (entry :: past) <:+ history ∧ entry.endedId? = some call.id := by
  induction history with
  | nil => cases closed
  | cons entry older ih =>
    rcases List.mem_append.mp closed with here | earlier
    · simp only [List.mem_map, Option.mem_toList, Option.bind_eq_some_iff, Prod.mk.injEq] at here
      obtain ⟨other, ⟨id, ended, found⟩, rfl, rfl⟩ := here
      have own : other.id = id := by simpa using List.find?_some found
      exact ⟨entry, List.suffix_rfl, by rw [own]; exact ended⟩
    · obtain ⟨last, suffix, ended⟩ := ih earlier
      exact ⟨last, suffix.trans (List.suffix_cons _ _), ended⟩

theorem past_of_closed (closed : (call, past) ∈ history.closedCalls) : past <:+ history := by
  obtain ⟨entry, suffix, -⟩ := entry_of_closed closed
  exact (List.suffix_cons _ _).trans suffix

end History

/-- Whether a call began directly inside another one, which was then the innermost call of their thread. -/
def Begun.isChildOf (call parent : Begun σ α) : Bool :=
  call.thread = parent.thread ∧ (call.past.openOn call.thread).head?.map (·.id) = some parent.id

/-- The session agreed with its history at every time, and each call that ended was the innermost one of its thread. -/
structure Run.Nested (run : Run σ α) : Prop where
  accounted : ∀ past, past <:+ run.history → ∃ session world, (Run.mk session world past).Accounted
  innermost : ∀ spell ∈ run.history.closedCalls, (spell.2.openOn spell.1.thread).head? = some spell.1

theorem nested_of_nil {run : Run σ α} (accounted : run.Accounted) (new : run.history = []) : run.Nested where
  accounted past earlier := by
    rw [new, List.suffix_nil] at earlier
    rw [earlier, ← new]
    exact ⟨run.session, run.world, accounted⟩
  innermost := by
    rw [new]
    nofun

theorem nested_next (act : α → σ → σ) {run : Run σ α}
    (kept : run.session.phase ≠ .finalized → run.Accounted ∧ run.Nested) (event : Event σ α) :
    (run.next act event).session.phase ≠ .finalized → (run.next act event).Accounted ∧ (run.next act event).Nested := by
  have counted := accounted_next act (fun going => (kept going).1) event
  suffices nested : (run.next act event).session.phase ≠ .finalized → (run.next act event).Accounted →
      (run.next act event).Nested from fun going => ⟨counted going, nested going (counted going)⟩
  clear counted
  refine Run.next_of_transition (motive := fun after => after.session.phase ≠ .finalized → after.Accounted →
    after.Nested) run event ?_
  intro outcome requests session world step going accounted
  have moments (nested : run.Nested) (past : History σ α) (earlier : past <:+ ⟨event, outcome, requests⟩ :: run.history) :
      ∃ session world, (Run.mk session world past).Accounted := by
    rcases List.suffix_cons_iff.mp earlier with rfl | earlier
    · exact ⟨session, world, accounted⟩
    · exact nested.accounted past earlier
  cases step with
  | refused reason => exact ⟨moments (kept going).2, (kept going).2.innermost⟩
  | passed action => exact ⟨moments (kept going).2, (kept going).2.innermost⟩
  | started collectors idle =>
    have nested := (kept (by simp [idle])).2
    exact ⟨moments nested, nested.innermost⟩
  | began asked running =>
    have nested := (kept (by simp [running])).2
    exact ⟨moments nested, nested.innermost⟩
  | finalized thread running =>
    exfalso
    apply going
    exact truncated_phase _ _ _ _
  | @ended _ thread frame around asked running top =>
    obtain ⟨before, nested⟩ := kept (by simp [running])
    refine ⟨moments nested, ?_⟩
    obtain ⟨call, rest, opened, outline, isOpen, own⟩ := before.openOn_of_top top
    have id : call.id = frame.id := congrArg Outline.id outline
    have found := before.find_begun (History.mem_begun_of_open isOpen)
    rw [id] at found
    intro spell member
    rw [History.closedCalls_ended _ event found] at member
    rcases List.mem_cons.mp member with rfl | member
    · rw [own, opened, List.head?_cons]
    · exact nested.innermost spell member

theorem nested_play (act : α → σ → σ) {start : Run σ α} (accounted : start.Accounted) (new : start.history = [])
    (events : List (Event σ α)) :
    (start.play act events).session.phase ≠ .finalized →
      (start.play act events).Accounted ∧ (start.play act events).Nested :=
  Run.play_induction (motive := fun run => run.session.phase ≠ .finalized → run.Accounted ∧ run.Nested) events
    (fun _ => ⟨accounted, nested_of_nil accounted new⟩) fun _ event _ kept => nested_next act kept event

namespace Run.Accounted

variable {run : Run σ α} {call other : Begun σ α}

/-- What began on a thread after its innermost open call has been closed. -/
theorem closed_of_newer (accounted : run.Accounted) (begun : call ∈ run.history.begunCalls)
    (innermost : (run.history.openOn call.thread).head? = some other) (newer : other.id.number < call.id.number) :
    ∃ past, (call, past) ∈ run.history.closedCalls := by
  rcases List.mem_append.mp (accounted.complete.mem_iff.mpr begun) with closed | isOpen
  · obtain ⟨spell, member, rfl⟩ := List.mem_map.mp closed
    exact ⟨spell.2, member⟩
  · exfalso
    obtain ⟨rest, opened⟩ := List.head?_eq_some_iff.mp innermost
    have member : call ∈ run.history.openOn call.thread := List.mem_filter.mpr ⟨isOpen, by simp⟩
    have descending := (accounted.begun_descending.filter (fun call => call.id ∉ run.history.endedIds)).filter
      (fun other => other.thread = call.thread)
    change (run.history.openOn call.thread).Pairwise _ at descending
    rw [opened] at member descending
    rcases List.mem_cons.mp member with rfl | within
    · exact Nat.lt_irrefl _ newer
    · have := (List.pairwise_cons.mp descending).1 call within
      omega

theorem begun_before_iff (accounted : run.Accounted) (begun : call ∈ run.history.begunCalls) :
    other ∈ call.past.begunCalls ↔ other ∈ run.history.begunCalls ∧ other.id.number < call.id.number := by
  obtain ⟨entry, suffix, began⟩ := History.entry_of_begun begun
  obtain ⟨newer, split⟩ := History.begunCalls_suffix suffix
  rw [History.begunCalls, began, Option.toList_some, List.singleton_append] at split
  have descending := accounted.begun_descending
  rw [← split] at descending ⊢
  obtain ⟨-, tail, across⟩ := List.pairwise_append.mp descending
  obtain ⟨below, -⟩ := List.pairwise_cons.mp tail
  constructor
  · intro member
    exact ⟨List.mem_append_right _ (List.mem_cons_of_mem _ member), below other member⟩
  · rintro ⟨member, less⟩
    rcases List.mem_append.mp member with later | member
    · have := across other later call List.mem_cons_self
      omega
    · rcases List.mem_cons.mp member with rfl | member
      · exact absurd less (Nat.lt_irrefl _)
      · exact member

theorem nodup_spells (accounted : run.Accounted) : (run.spells.map (·.1.id)).Nodup := by
  have apart : (run.history.begunCalls.map (·.id)).Nodup := List.pairwise_map.mpr accounted.begun_apart
  have same : (run.spells.map (·.1.id)).Perm (run.history.begunCalls.map (·.id)) := by
    rw [Run.spells, List.map_append, List.map_map, List.map_reverse]
    refine ((List.reverse_perm _).append_right _).trans ?_
    simpa [Function.comp_def] using accounted.complete.map (·.id)
  exact same.nodup_iff.mpr apart

theorem eq_of_spells (accounted : run.Accounted) {one two : Begun σ α × History σ α} (first : one ∈ run.spells)
    (second : two ∈ run.spells) (same : one.1.id = two.1.id) : one = two :=
  List.inj_on_of_nodup_map accounted.nodup_spells first second same

theorem begun_of_spells (accounted : run.Accounted) {spell : Begun σ α × History σ α} (member : spell ∈ run.spells) :
    spell.1 ∈ run.history.begunCalls := by
  refine accounted.complete.mem_iff.mp (List.mem_append.mpr ?_)
  rcases List.mem_append.mp member with closed | isOpen
  · exact .inl (List.mem_map_of_mem (List.mem_reverse.mp closed))
  · obtain ⟨call, within, rfl⟩ := List.mem_map.mp isOpen
    exact .inr within

theorem parent_of_child (accounted : run.Accounted) (begun : call ∈ run.history.begunCalls)
    (around : other ∈ run.history.begunCalls) (child : call.isChildOf other = true) :
    call.thread = other.thread ∧ (call.past.openOn call.thread).head? = some other ∧
      other.id ∉ call.past.endedIds ∧ other ∈ call.past.begunCalls := by
  obtain ⟨thread, innermost⟩ : _ ∧ _ := by simpa [Begun.isChildOf] using child
  obtain ⟨parent, head, same⟩ := innermost
  have isOpen : parent ∈ call.past.openCalls := (List.mem_filter.mp (List.mem_of_mem_head? head)).1
  have known : parent ∈ call.past.begunCalls := History.mem_begun_of_open isOpen
  have whole := (History.begunCalls_suffix (History.past_of_begun begun)).subset known
  have own : parent = other := accounted.eq_of_id whole around same
  subst own
  exact ⟨thread, head, by simpa using (List.mem_filter.mp isOpen).2, known⟩

end Run.Accounted

namespace Run.Nested

variable {run : Run σ α} {parent : Begun σ α}

theorem closed_before_next (nested : run.Nested) (accounted : run.Accounted)
    (around : parent ∈ run.history.begunCalls) {one two : Begun σ α} (first : one ∈ run.history.begunCalls)
    (second : two ∈ run.history.begunCalls) (child : one.isChildOf parent = true) (next : two.isChildOf parent = true)
    (earlier : one.id.number < two.id.number) : ∃ past, (one, past) ∈ two.past.closedCalls := by
  obtain ⟨thread, -, -, before⟩ := accounted.parent_of_child first around child
  obtain ⟨thread', head, -, -⟩ := accounted.parent_of_child second around next
  obtain ⟨session, world, moment⟩ := nested.accounted two.past (History.past_of_begun second)
  have begun : one ∈ two.past.begunCalls := (accounted.begun_before_iff second).mpr ⟨first, earlier⟩
  rw [thread', ← thread] at head
  exact moment.closed_of_newer begun head ((accounted.begun_before_iff first).mp before).2

theorem closed_within (nested : run.Nested) (accounted : run.Accounted) {outer inner : Begun σ α × History σ α}
    (around : outer ∈ run.spells) (within : inner ∈ run.spells) (child : inner.1.isChildOf outer.1 = true) :
    inner.2 <:+ outer.2 := by
  obtain ⟨parent, stop⟩ := outer
  obtain ⟨call, last⟩ := inner
  have begun := accounted.begun_of_spells within
  obtain ⟨thread, -, isOpen, before⟩ := accounted.parent_of_child begun (accounted.begun_of_spells around) child
  rcases List.mem_append.mp around with closed | stillOpen
  · have closed := List.mem_reverse.mp closed
    obtain ⟨first, opening, began⟩ := History.entry_of_begun begun
    obtain ⟨final, closing, ended⟩ := History.entry_of_closed closed
    rcases Nat.lt_trichotomy call.past.length stop.length with less | same | more
    · have opened : (first :: call.past) <:+ stop :=
        List.suffix_of_suffix_length_le opening (History.past_of_closed closed) less
      have known : call ∈ stop.begunCalls := by
        refine (History.begunCalls_suffix opened).subset ?_
        rw [History.begunCalls, began]
        exact List.mem_cons_self
      obtain ⟨session, world, moment⟩ := nested.accounted stop (History.past_of_closed closed)
      have innermost := nested.innermost _ closed
      rw [← thread] at innermost
      obtain ⟨past, inside⟩ := moment.closed_of_newer known innermost ((accounted.begun_before_iff begun).mp before).2
      have spell : (call, past) ∈ run.spells :=
        List.mem_append_left _ (List.mem_reverse.mpr
          ((History.closedCalls_suffix (History.past_of_closed closed)).subset inside))
      have unique : past = last := congrArg Prod.snd (accounted.eq_of_spells spell within rfl)
      exact unique ▸ History.past_of_closed inside
    · -- the same event would begin the call and end the one around it
      have equal : first :: call.past = final :: stop := by
        refine (List.suffix_of_suffix_length_le opening closing ?_).eq_of_length ?_ <;> simp [same]
      rw [(List.cons.inj equal).1] at began
      unfold Entry.endedId? at ended
      unfold Entry.begun? at began
      cases outcome : final.outcome <;> simp [outcome] at ended began
    · exfalso
      have first := List.suffix_of_suffix_length_le closing (History.past_of_begun begun) more
      refine isOpen (History.endedIds_subset first ?_)
      exact List.mem_filterMap.mpr ⟨final, List.mem_cons_self, ended⟩
  · obtain ⟨other, -, same⟩ := List.mem_map.mp stillOpen
    rw [← (Prod.mk.inj same).2]
    rcases List.mem_append.mp within with closed | isOpen
    · exact History.past_of_closed (List.mem_reverse.mp closed)
    · obtain ⟨again, -, same⟩ := List.mem_map.mp isOpen
      exact (Prod.mk.inj same).2 ▸ List.suffix_rfl

end Run.Nested

theorem past_of_spells {run : Run σ α} {spell : Begun σ α × History σ α} (member : spell ∈ run.spells) :
    spell.1.past <:+ spell.2 := by
  rcases List.mem_append.mp member with closed | isOpen
  · exact History.past_of_begun (begun_of_closed (List.mem_reverse.mp closed))
  · obtain ⟨call, within, rfl⟩ := List.mem_map.mp isOpen
    exact History.past_of_begun (History.mem_begun_of_open within)

theorem History.closedCalls_descend (history : History σ α) :
    history.closedCalls.Pairwise fun later earlier => earlier.2 <:+ later.2 := by
  induction history with
  | nil => exact .nil
  | cons entry past ih =>
    refine List.pairwise_append.mpr ⟨?_, ih, ?_⟩
    · cases (entry.endedId?.bind fun id => (begunCalls past).find? fun call => call.id = id) <;> simp
    · intro later here earlier member
      obtain ⟨call, -, rfl⟩ := List.mem_map.mp here
      exact History.past_of_closed member

theorem Run.spells_ascend (run : Run σ α) : run.spells.Pairwise fun one two => one.2 <:+ two.2 := by
  refine List.pairwise_append.mpr ⟨List.pairwise_reverse.mpr (History.closedCalls_descend _), ?_, ?_⟩
  · exact List.pairwise_map.mpr (List.pairwise_of_forall fun _ _ => List.suffix_rfl)
  · intro one closed two isOpen
    obtain ⟨call, -, rfl⟩ := List.mem_map.mp isOpen
    exact History.past_of_closed (List.mem_reverse.mp closed)

theorem Run.Accounted.stop_before {run : Run σ α} (accounted : run.Accounted) {spell : Begun σ α × History σ α}
    (member : spell ∈ run.spells) {call : Begun σ α} (begun : call ∈ run.history.begunCalls) {past : History σ α}
    (closed : (spell.1, past) ∈ call.past.closedCalls) :
    spell.2 <:+ call.past ∧ spell.2.length < call.past.length := by
  have inside := (History.closedCalls_suffix (History.past_of_begun begun)).subset closed
  have same := accounted.eq_of_spells (List.mem_append_left _ (List.mem_reverse.mpr inside)) member rfl
  obtain ⟨last, suffix, -⟩ := History.entry_of_closed closed
  rw [← congrArg Prod.snd same]
  exact ⟨(List.suffix_cons _ _).trans suffix, suffix.length_le⟩

theorem Run.Nested.children_in_turn {run : Run σ α} (nested : run.Nested) (accounted : run.Accounted)
    {parent : Begun σ α} (around : parent ∈ run.history.begunCalls) :
    (run.spells.filter fun spell => spell.1.isChildOf parent).Pairwise fun one two => one.2 <:+ two.1.past := by
  have apart : run.spells.Pairwise fun one two => one.1.id ≠ two.1.id := List.pairwise_map.mp accounted.nodup_spells
  have ordered := (run.spells_ascend.and apart).filter fun spell => spell.1.isChildOf parent
  refine List.Pairwise.imp_of_mem ?_ ordered
  rintro one two first second ⟨ascend, differ⟩
  obtain ⟨first, child⟩ := List.mem_filter.mp first
  obtain ⟨second, next⟩ := List.mem_filter.mp second
  have begun := accounted.begun_of_spells first
  have begun' := accounted.begun_of_spells second
  rcases Nat.lt_trichotomy one.1.id.number two.1.id.number with less | same | more
  · obtain ⟨past, closed⟩ := nested.closed_before_next accounted around begun begun' child next less
    exact (accounted.stop_before first begun' closed).1
  · exact absurd (congrArg CallId.mk same) differ
  · exfalso
    obtain ⟨past, closed⟩ := nested.closed_before_next accounted around begun' begun next child more
    have shorter := (accounted.stop_before second begun closed).2
    have longer := ((past_of_spells first).trans ascend).length_le
    omega

end CallProfile.Session
