import CallProfile.Proofs.Session.History

namespace CallProfile.Session

variable {σ α : Type}

/-- Something that a thread does; it names a call by how many it had begun before that call. -/
inductive Move where
  | begin (name : String) (device : Device)
  | finish (ordinal : Nat)

/-- The call stack of a thread that is alone. -/
structure PrivateStack where
  begun : Nat
  calls : List (Nat × Heading)
  records : List Heading
  answers : List Bool

namespace PrivateStack

def empty : PrivateStack := ⟨0, [], [], []⟩

def next (stack : PrivateStack) : Move → PrivateStack
  | .begin name device =>
    { stack with
      begun := stack.begun + 1
      calls := (stack.begun, ⟨name, device, .ofNat (stack.calls.length + 1)⟩) :: stack.calls
      answers := true :: stack.answers }
  | .finish ordinal =>
    match stack.calls with
    | [] => { stack with answers := false :: stack.answers }
    | top :: around =>
      if top.1 = ordinal then
        { stack with calls := around, records := top.2 :: stack.records, answers := true :: stack.answers }
      else { stack with answers := false :: stack.answers }

def play (moves : List Move) : PrivateStack := moves.foldl next empty

end PrivateStack

structure View where
  answers : List Bool
  records : List Heading
  stillOpen : List Heading

def PrivateStack.view (stack : PrivateStack) : View := ⟨stack.answers, stack.records, stack.calls.map (·.2)⟩

def Event.caller? : Event σ α → Option ThreadId
  | .beginCall thread _ _ | .enter thread _ _ | .endCall thread _ | .finalize thread => some thread
  | .finish guard | .drop guard => some guard.thread
  | .start _ | .outside _ => none

def Outcome.succeeded : Outcome → Bool
  | .refused _ => false
  | _ => true

def History.answers (history : History σ α) (thread : ThreadId) : List Bool :=
  (history.filter fun entry => entry.event.caller? = some thread).map (·.outcome.succeeded)

def Run.contributed (run : Run σ α) (thread : ThreadId) : List Heading :=
  ((run.history.closedCalls.zip run.session.ended).filter fun entry => entry.1.1.thread = thread).map
    (·.2.heading)

def Run.view (run : Run σ α) (thread : ThreadId) : View :=
  ⟨run.history.answers thread, run.contributed thread,
    (run.session.pending.on thread).map OpenCall.heading⟩

def History.own (history : History σ α) (thread : ThreadId) : List (Begun σ α) :=
  (history.begunCalls.filter fun call => call.thread = thread).reverse

/-- The event by which a thread makes a move; a call that it has not begun goes by an id that no call gets. -/
def Move.event (history : History σ α) (thread : ThreadId) : Move → Event σ α
  | .begin name device => .beginCall thread name device
  | .finish ordinal => .endCall thread (((history.own thread)[ordinal]?.map (·.id)).getD ⟨0⟩)

def Run.follow (act : α → σ → σ) (run : Run σ α) (schedule : List (ThreadId × Move)) : Run σ α :=
  schedule.foldl (fun run turn => run.next act (turn.2.event run.history turn.1)) run

def script (thread : ThreadId) (schedule : List (ThreadId × Move)) : List Move :=
  (schedule.filter fun turn => turn.1 = thread).map (·.2)

def Begun.ordinal (call : Begun σ α) : Nat := (call.past.own call.thread).length

theorem ordinal_of_own {history : History σ α} {thread : ThreadId} {ordinal : Nat} {call : Begun σ α}
    (found : (history.own thread)[ordinal]? = some call) : call.ordinal = ordinal := by
  induction history generalizing ordinal with
  | nil => simp [History.own, History.begunCalls] at found
  | cons entry past ih =>
    cases begun : entry.begun? past with
    | none =>
      have same : History.own (entry :: past) thread = History.own past thread := by
        simp [History.own, History.begunCalls, begun]
      exact ih (same ▸ found)
    | some new =>
      have recent : new.past = past := Entry.past_of_begun begun
      by_cases mine : new.thread = thread
      · have grown : History.own (entry :: past) thread = History.own past thread ++ [new] := by
          simp [History.own, History.begunCalls, begun, mine]
        rw [grown] at found
        by_cases old : ordinal < (History.own past thread).length
        · rw [List.getElem?_append_left old] at found
          exact ih found
        · rw [List.getElem?_append_right (Nat.le_of_not_lt old)] at found
          obtain ⟨last, rfl⟩ := List.getElem?_eq_some_iff.mp found
          simp only [List.length_singleton] at last
          have here : ordinal = (History.own past thread).length := by omega
          simp [Begun.ordinal, recent, mine, here]
      · have same : History.own (entry :: past) thread = History.own past thread := by
          simp [History.own, History.begunCalls, begun, mine]
        exact ih (same ▸ found)

theorem own_of_begun {history : History σ α} {call : Begun σ α} (begun : call ∈ history.begunCalls) :
    (history.own call.thread)[call.ordinal]? = some call := by
  have member : call ∈ history.own call.thread := by simp [History.own, begun]
  obtain ⟨ordinal, found⟩ := List.mem_iff_getElem?.mp member
  rw [ordinal_of_own found]
  exact found

theorem openOn_began {event : Event σ α} {id : CallId} (requests : List (Request σ)) {past : History σ α}
    {thread : ThreadId} {name : String} {device : Device} (asked : event.beginning? = some (thread, name, device))
    (unknown : id ∉ past.endedIds) (other : ThreadId) :
    History.openOn (⟨event, .began id, requests⟩ :: past) other =
      if thread = other then ⟨id, thread, name, device, past⟩ :: past.openOn other else past.openOn other := by
  rw [History.openOn, History.openCalls_began requests asked unknown, List.filter_cons]
  simp [History.openOn]

theorem openOn_ended (event : Event σ α) (id : CallId) (requests : List (Request σ)) (past : History σ α)
    (thread : ThreadId) :
    History.openOn (⟨event, .ended id, requests⟩ :: past) thread =
      (past.openOn thread).filter fun call => call.id ≠ id := by
  rw [History.openOn, History.openCalls_ended, History.openOn, List.filter_filter, List.filter_filter]
  simp only [Bool.and_comm]

namespace Run.Accounted

variable {run : Run σ α}

theorem openOn_apart (accounted : run.Accounted) (thread : ThreadId) :
    (run.history.openOn thread).Pairwise fun one other => one.id ≠ other.id :=
  (accounted.begun_apart.filter _).filter _

theorem openOn_top (accounted : run.Accounted) {thread : ThreadId} {call : Begun σ α} {around : List (Begun σ α)}
    (top : run.history.openOn thread = call :: around) :
    (run.history.openOn thread).filter (fun other => other.id ≠ call.id) = around := by
  have apart := top ▸ accounted.openOn_apart thread
  have kept : around.filter (fun other => other.id ≠ call.id) = around := by
    refine List.filter_eq_self.mpr fun other member => ?_
    simpa using ((List.pairwise_cons.mp apart).1 other member).symm
  rw [top, List.filter_cons, kept]
  simp

theorem openOn_other (accounted : run.Accounted) {call : Begun σ α} (isOpen : call ∈ run.history.openCalls)
    {thread : ThreadId} (foreign : call.thread ≠ thread) :
    (run.history.openOn thread).filter (fun other => other.id ≠ call.id) = run.history.openOn thread := by
  refine List.filter_eq_self.mpr fun other member => ?_
  obtain ⟨within, own⟩ := List.mem_filter.mp member
  simp only [ne_eq, decide_eq_true_eq] at own ⊢
  intro same
  have := accounted.eq_of_id (History.mem_begun_of_open within) (History.mem_begun_of_open isOpen) same
  exact foreign (this ▸ own)

theorem openOn_of_top (accounted : run.Accounted) {thread : ThreadId} {frame : OpenCall} {around : List OpenCall}
    (top : run.session.pending.on thread = frame :: around) :
    ∃ call rest, run.history.openOn thread = call :: rest ∧ call.outline = outlineOf frame ∧
      call ∈ run.history.openCalls ∧ call.thread = thread := by
  have outlines := accounted.outlines_on thread
  rw [top, List.map_cons] at outlines
  cases opened : run.history.openOn thread with
  | nil => simp [opened] at outlines
  | cons call rest =>
    rw [opened, List.map_cons] at outlines
    obtain ⟨within, own⟩ := List.mem_filter.mp (show call ∈ run.history.openOn thread from opened ▸ List.mem_cons_self)
    exact ⟨call, rest, rfl, (List.cons.inj outlines).1.symm, within, by simpa using own⟩

theorem openOn_of_none (accounted : run.Accounted) {thread : ThreadId}
    (none : run.session.pending.on thread = []) : run.history.openOn thread = [] := by
  have outlines := accounted.outlines_on thread
  rw [none] at outlines
  simpa using outlines.symm

theorem contributed_popped (accounted : run.Accounted) (event : Event σ α) (mover : ThreadId) {frame : OpenCall}
    (frames : List OpenCall) {call : Begun σ α} (isOpen : call ∈ run.history.openCalls)
    (same : call.outline = outlineOf frame) (requests : List (Request σ)) (world : σ) (thread : ThreadId) :
    (Run.mk (run.session.popped mover frame frames run.world) world
        (⟨event, .ended frame.id, requests⟩ :: run.history)).contributed thread =
      if call.thread = thread then frame.heading :: run.contributed thread else run.contributed thread := by
  have id : call.id = frame.id := congrArg Outline.id same
  have closed := History.closedCalls_ended requests event
    (id ▸ accounted.find_begun (History.mem_begun_of_open isOpen))
  rw [Run.contributed, closed, popped, List.zip_cons_cons, List.filter_cons]
  by_cases own : call.thread = thread
  · rw [if_pos (decide_eq_true own), if_pos own]
    rfl
  · rw [if_neg (by simpa using own), if_neg own]
    rfl

end Run.Accounted

/-- A thread has seen what it would have seen alone. -/
structure Mirrors (run : Run σ α) (thread : ThreadId) (stack : PrivateStack) : Prop where
  begun : (run.history.own thread).length = stack.begun
  calls : (run.history.openOn thread).map (fun call => (call.ordinal, call.heading)) = stack.calls
  records : run.contributed thread = stack.records
  answers : run.history.answers thread = stack.answers

theorem answers_cons (entry : Entry σ α) (past : History σ α) {mover : ThreadId}
    (caller : entry.event.caller? = some mover) (thread : ThreadId) :
    History.answers (entry :: past) thread =
      if mover = thread then entry.outcome.succeeded :: past.answers thread else past.answers thread := by
  simp only [History.answers, List.filter_cons, caller, Option.some.injEq, decide_eq_true_eq]
  split <;> rfl

namespace Mirrors

variable {run : Run σ α} {thread : ThreadId} {stack : PrivateStack}

theorem view (mirrors : Mirrors run thread stack) (accounted : run.Accounted) :
    run.view thread = stack.view := by
  rw [Run.view, PrivateStack.view, mirrors.answers, mirrors.records, accounted.headings_on, ← mirrors.calls, List.map_map]
  rfl

theorem refused (mirrors : Mirrors run thread stack) (mover : ThreadId) (id : CallId) (error : ProfileError) :
    Mirrors ⟨run.session, run.world, ⟨.endCall mover id, .refused error, []⟩ :: run.history⟩ thread
      (if mover = thread then { stack with answers := false :: stack.answers } else stack) := by
  have answers := answers_cons ⟨.endCall mover id, .refused error, []⟩ run.history rfl thread
  split
  next own =>
    rw [if_pos own, mirrors.answers] at answers
    exact ⟨mirrors.begun, mirrors.calls, mirrors.records, answers⟩
  next foreign =>
    rw [if_neg foreign, mirrors.answers] at answers
    exact ⟨mirrors.begun, mirrors.calls, mirrors.records, answers⟩

theorem began (mirrors : Mirrors run thread stack) (accounted : run.Accounted) (mover : ThreadId) (name : String)
    (device : Device) (requests : List (Request σ)) :
    Mirrors ⟨run.session.begun mover name device run.world, (run.session.opening mover device run.world).world,
        ⟨.beginCall mover name device, .began run.session.nextId, requests⟩ :: run.history⟩ thread
      (if mover = thread then stack.next (.begin name device) else stack) := by
  let entry : Entry σ α := ⟨.beginCall mover name device, .began run.session.nextId, requests⟩
  let call : Begun σ α := ⟨run.session.nextId, mover, name, device, run.history⟩
  have answers := answers_cons entry run.history rfl thread
  have asked : entry.event.beginning? = some (mover, name, device) := rfl
  have opened := openOn_began requests asked accounted.nextId_not_ended thread
  have begun : History.begunCalls (entry :: run.history) = call :: run.history.begunCalls :=
    History.begunCalls_began requests run.session.nextId asked
  by_cases own : mover = thread
  · subst own
    rw [if_pos rfl] at opened answers ⊢
    refine ⟨?_, ?_, mirrors.records, ?_⟩
    · have grown : History.own (entry :: run.history) mover = run.history.own mover ++ [call] := by
        simp [History.own, begun, call]
      change (History.own (entry :: run.history) mover).length = _
      rw [grown, List.length_append, mirrors.begun]
      rfl
    · have depth : call.depth = stack.calls.length + 1 := by
        rw [← mirrors.calls, List.length_map]
        rfl
      have ordinal : call.ordinal = stack.begun := mirrors.begun
      change (History.openOn (entry :: run.history) mover).map _ = _
      rw [opened, List.map_cons, mirrors.calls]
      change (call.ordinal, call.heading) :: _ = _
      rw [Begun.heading, depth, ordinal]
      rfl
    · change History.answers (entry :: run.history) mover = _
      rw [answers, mirrors.answers]
      rfl
  · rw [if_neg own] at opened answers ⊢
    refine ⟨?_, ?_, mirrors.records, ?_⟩
    · have same : History.own (entry :: run.history) thread = run.history.own thread := by
        simp [History.own, begun, call, own]
      change (History.own (entry :: run.history) thread).length = _
      rw [same, mirrors.begun]
    · change (History.openOn (entry :: run.history) thread).map _ = _
      rw [opened, mirrors.calls]
    · change History.answers (entry :: run.history) thread = _
      rw [answers, mirrors.answers]

theorem ended (mirrors : Mirrors run thread stack) (accounted : run.Accounted) {mover : ThreadId}
    {frame : OpenCall} (frames : List OpenCall) {call : Begun σ α} {around : List (Begun σ α)}
    (opened : run.history.openOn mover = call :: around)
    (same : call.outline = outlineOf frame) (requests : List (Request σ)) :
    Mirrors ⟨run.session.popped mover frame frames run.world, (run.session.closing mover frame run.world).world,
        ⟨.endCall mover frame.id, .ended frame.id, requests⟩ :: run.history⟩ thread
      (if mover = thread then stack.next (.finish call.ordinal) else stack) := by
  let entry : Entry σ α := ⟨.endCall mover frame.id, .ended frame.id, requests⟩
  have member : call ∈ run.history.openOn mover := opened ▸ List.mem_cons_self
  obtain ⟨isOpen, ownCall⟩ := List.mem_filter.mp member
  have caller : call.thread = mover := by simpa using ownCall
  have id : call.id = frame.id := congrArg Outline.id same
  have heading : call.heading = frame.heading := congrArg Outline.heading same
  have answers := answers_cons entry run.history rfl thread
  have left := openOn_ended entry.event frame.id requests run.history thread
  have records := accounted.contributed_popped entry.event mover frames isOpen same requests
    (run.session.closing mover frame run.world).world thread
  rw [caller] at records
  by_cases own : mover = thread
  · subst own
    rw [if_pos rfl] at answers ⊢
    have calls := mirrors.calls
    rw [opened, List.map_cons] at calls
    have moved : stack.next (.finish call.ordinal) =
        { stack with
          calls := around.map fun call => (call.ordinal, call.heading)
          records := call.heading :: stack.records
          answers := true :: stack.answers } := by
      rw [PrivateStack.next, ← calls]
      simp
    rw [moved]
    refine ⟨mirrors.begun, ?_, ?_, ?_⟩
    · change (History.openOn (entry :: run.history) mover).map _ = _
      rw [left, ← id, accounted.openOn_top opened]
    · rw [heading, ← mirrors.records]
      exact records.trans (if_pos rfl)
    · change History.answers (entry :: run.history) mover = _
      rw [answers, mirrors.answers]
      rfl
  · rw [if_neg own] at answers ⊢
    have foreign : call.thread ≠ thread := fun h => own (caller ▸ h)
    refine ⟨mirrors.begun, ?_, ?_, ?_⟩
    · change (History.openOn (entry :: run.history) thread).map _ = _
      rw [left, ← id, accounted.openOn_other isOpen foreign, mirrors.calls]
    · exact (records.trans (if_neg own)).trans mirrors.records
    · change History.answers (entry :: run.history) thread = _
      rw [answers, mirrors.answers]

theorem finish_refused (mirrors : Mirrors run thread stack) {ordinal : Nat}
    (blocked : ∀ call ∈ (run.history.openOn thread).head?, call.ordinal ≠ ordinal) :
    stack.next (.finish ordinal) = { stack with answers := false :: stack.answers } := by
  rw [PrivateStack.next, ← mirrors.calls]
  cases opened : run.history.openOn thread with
  | nil => rfl
  | cons call around =>
    have apart : call.ordinal ≠ ordinal := blocked call (by rw [opened]; rfl)
    simp [apart]

end Mirrors

theorem Run.Accounted.id_of_ordinal {run : Run σ α} (accounted : run.Accounted) {call : Begun σ α}
    (begun : call ∈ run.history.begunCalls) (ordinal : Nat) :
    call.id = (((run.history.own call.thread)[ordinal]?.map (·.id)).getD ⟨0⟩) ↔ call.ordinal = ordinal := by
  constructor
  · intro same
    cases found : (run.history.own call.thread)[ordinal]? with
    | none =>
      have := (accounted.number_of_begun begun).1
      simp only [found, Option.map_none, Option.getD_none] at same
      simp [same] at this
    | some other =>
      have known : other ∈ run.history.begunCalls := by
        have member := List.mem_of_getElem? found
        simp only [History.own, List.mem_reverse, List.mem_filter] at member
        exact member.1
      simp only [found, Option.map_some, Option.getD_some] at same
      rw [accounted.eq_of_id begun known same]
      exact ordinal_of_own found
  · intro same
    rw [← same, own_of_begun begun]
    rfl

theorem Run.Accounted.head_ne_of_unmatched {run : Run σ α} (accounted : run.Accounted) {mover : ThreadId} {ordinal : Nat}
    {id : CallId} (named : ((run.history.own mover)[ordinal]?.map (·.id)).getD ⟨0⟩ = id)
    (unmatched : ¬ ∃ frame frames, run.session.pending.on mover = frame :: frames ∧ frame.id = id) :
    ∀ call ∈ (run.history.openOn mover).head?, call.ordinal ≠ ordinal := by
  intro call first same
  cases top : run.session.pending.on mover with
  | nil => simp [accounted.openOn_of_none top] at first
  | cons frame frames =>
    obtain ⟨other, around, opened, outline, isOpen, own⟩ := accounted.openOn_of_top top
    rw [opened, List.head?_cons, Option.mem_some_iff] at first
    subst first
    have known := (accounted.id_of_ordinal (History.mem_begun_of_open isOpen) ordinal).mpr same
    rw [own, named] at known
    exact unmatched ⟨frame, frames, top, (congrArg Outline.id outline).symm.trans known⟩

theorem follow_next (act : α → σ → σ) {run : Run σ α} (running : run.session.phase = .running)
    (accounted : run.Accounted) {thread : ThreadId} {stack : PrivateStack} (mirrors : Mirrors run thread stack)
    (mover : ThreadId) (move : Move) :
    (run.next act (move.event run.history mover)).session.phase = .running ∧
      Mirrors (run.next act (move.event run.history mover)) thread
        (if mover = thread then stack.next move else stack) := by
  refine Run.next_of_transition (motive := fun after => after.session.phase = .running ∧
    Mirrors after thread (if mover = thread then stack.next move else stack)) run _ ?_
  intro outcome requests session world step
  cases move with
  | begin name device =>
    rw [Move.event] at step ⊢
    cases step with
    | refused reason => simp [refusal?, ensureRunning_of_running running, Event.ending?] at reason
    | began asked =>
      simp only [Event.beginning?, Option.some.injEq, Prod.mk.injEq] at asked
      obtain ⟨rfl, rfl, rfl⟩ := asked
      exact ⟨running, mirrors.began accounted _ _ _ _⟩
    | ended asked => simp [Event.ending?] at asked
  | finish ordinal =>
    rw [Move.event] at step ⊢
    generalize named : ((run.history.own mover)[ordinal]?.map (·.id)).getD ⟨0⟩ = id at step ⊢
    cases step with
    | began asked => simp [Event.beginning?] at asked
    | @refused _ error reason =>
      refine ⟨running, ?_⟩
      have unmatched : ¬ ∃ frame frames, run.session.pending.on mover = frame :: frames ∧ frame.id = id := by
        rw [← endRefusal?_eq_none_iff]
        simp only [refusal?, ensureRunning_of_running running, Event.ending?, Option.bind_some] at reason
        simp [reason]
      have blocked := accounted.head_ne_of_unmatched named unmatched
      have refused := mirrors.refused mover id error
      by_cases own : mover = thread
      · subst own
        rw [if_pos rfl] at refused ⊢
        rw [mirrors.finish_refused blocked]
        exact refused
      · rw [if_neg own] at refused ⊢
        exact refused
    | ended asked _ top =>
      simp only [Event.ending?, Option.some.injEq, Prod.mk.injEq] at asked
      obtain ⟨rfl, rfl⟩ := asked
      obtain ⟨call, around, opened, same, isOpen, own⟩ := accounted.openOn_of_top top
      refine ⟨running, ?_⟩
      have ordinals : call.ordinal = ordinal := by
        apply (accounted.id_of_ordinal (History.mem_begun_of_open isOpen) ordinal).mp
        rw [own, named]
        exact congrArg Outline.id same
      rw [← ordinals]
      exact mirrors.ended accounted _ opened same _

theorem follow_mirrors (act : α → σ → σ) {start : Run σ α} (running : start.session.phase = .running)
    (accounted : start.Accounted) {thread : ThreadId} {stack : PrivateStack} (mirrors : Mirrors start thread stack)
    (schedule : List (ThreadId × Move)) :
    (start.follow act schedule).Accounted ∧
      Mirrors (start.follow act schedule) thread ((script thread schedule).foldl PrivateStack.next stack) := by
  induction schedule generalizing start stack with
  | nil => exact ⟨accounted, mirrors⟩
  | cons turn rest ih =>
    obtain ⟨goesOn, seen⟩ := follow_next act running accounted mirrors turn.1 turn.2
    have counted := accounted_next act (fun _ => accounted) (turn.2.event start.history turn.1) (by simp [goesOn])
    have stepped := ih goesOn counted seen
    by_cases own : turn.1 = thread
    · simpa [Run.follow, script, own] using stepped
    · simpa [Run.follow, script, own] using stepped

/-- A running session treats the calls of each thread as a stack. -/
structure StackDiscipline (run : Run σ α) : Prop where
  numbered : run.history.begunCalls.reverse.map (·.id.number) = List.range' 1 run.history.begunCalls.length
  begins : ∀ thread name device world, ∃ call after worldAfter,
    run.session.beginCall thread name device world =
        .ok (⟨run.history.begunCalls.length + 1⟩, after, worldAfter) ∧
      after.pending.on thread = call :: run.session.pending.on thread ∧
      call.id = ⟨run.history.begunCalls.length + 1⟩ ∧
      call.heading = ⟨name, device, .ofNat (1 + (run.history.openOn thread).length)⟩ ∧
      ∀ other, other ≠ thread → after.pending.on other = run.session.pending.on other
  ends : ∀ thread id world, (run.history.openOn thread).head?.map (·.id) = some id →
    ∃ after worldAfter, run.session.endCall thread id world = .ok (after, worldAfter) ∧
      after.pending.on thread = (run.session.pending.on thread).tail ∧
      ∀ other, other ≠ thread → after.pending.on other = run.session.pending.on other
  unmatched : ∀ thread id world, (run.history.openOn thread).head?.map (·.id) ≠ some id →
    ∃ reason, run.session.endCall thread id world = .error (.unmatched id reason)

theorem Run.Accounted.head_openOn {run : Run σ α} (accounted : run.Accounted) (thread : ThreadId) :
    (run.history.openOn thread).head?.map (·.id) = (run.session.pending.on thread).head?.map (·.id) := by
  rw [← List.head?_map, ← List.head?_map, accounted.ids_on]

theorem endRefusal?_unmatched {session : Session σ} {thread : ThreadId} {id : CallId}
    (foreign : (session.pending.on thread).head?.map (·.id) ≠ some id) :
    ∃ reason, session.endRefusal? thread id = some (.unmatched id reason) := by
  unfold endRefusal?
  cases top : session.pending.on thread with
  | nil => exact ⟨_, rfl⟩
  | cons call around =>
    have apart : call.id ≠ id := by simpa [top] using foreign
    exact ⟨_, if_neg apart⟩

theorem Run.Accounted.stackDiscipline {run : Run σ α} (accounted : run.Accounted)
    (running : run.session.phase = .running) : StackDiscipline run := by
  have nextId : run.session.nextId = ⟨run.history.begunCalls.length + 1⟩ := congrArg CallId.mk accounted.nextId
  constructor
  · rw [List.map_reverse, accounted.ids, List.reverse_reverse]
  · intro thread name device world
    refine ⟨run.session.nextCall thread name device world, run.session.begun thread name device world,
      (run.session.opening thread device world).world, ?_, CallStacks.on_setOn_self _ _ _, nextId, ?_, ?_⟩
    · rw [beginCall_of_running running, nextId]
    · simp only [nextCall, OpenCall.heading, accounted.length_on, Nat.add_comm 1]
    · intro other apart
      exact CallStacks.on_setOn_of_ne _ apart _
  · intro thread id world innermost
    rw [accounted.head_openOn] at innermost
    cases top : run.session.pending.on thread with
    | nil => simp [top] at innermost
    | cons call around =>
      have own : call.id = id := by simpa [top] using innermost
      subst own
      exact ⟨run.session.popped thread call around world, (run.session.closing thread call world).world,
        endCall_of_top running top world, CallStacks.on_setOn_self _ _ _,
        fun other apart => CallStacks.on_setOn_of_ne _ apart _⟩
  · intro thread id world foreign
    rw [accounted.head_openOn] at foreign
    obtain ⟨reason, refused⟩ := endRefusal?_unmatched foreign
    exact ⟨reason, endCall_of_refusal running refused world⟩

/--
Calls are numbered in the order of their beginnings, each thread has a stack of its own, and what a thread sees
follows from its own moves, whatever the other threads and the collectors do.
-/
theorem threads_keep_stacks (act : α → σ → σ) (config : SessionConfig) (world : σ) :
    (∀ events, ((Run.fresh config world).play act events).session.phase = .running →
        StackDiscipline ((Run.fresh config world).play act events)) ∧
      ∀ collectors schedule thread,
        (((Run.fresh config world).next act (.start collectors)).follow act schedule).view thread =
          (PrivateStack.play (script thread schedule)).view := by
  constructor
  · intro events running
    exact (accounted_play act (accounted_fresh config world) events (by simp [running])).stackDiscipline running
  · intro collectors schedule thread
    have accounted := accounted_next act (fun _ => accounted_fresh config world) (.start collectors) (by nofun)
    have mirrors : Mirrors ((Run.fresh config world).next act (.start collectors)) thread .empty :=
      ⟨rfl, rfl, rfl, rfl⟩
    obtain ⟨counted, seen⟩ := follow_mirrors act rfl accounted mirrors schedule
    exact seen.view counted

theorem threads_keep_stacks_crossed :
    ((Run.fresh (.named "run") () : Run Unit Empty).play (fun action _ => action.elim)
        [.start [], .beginCall ⟨0⟩ "outer" (.cpu 0)]).session.phase = .running ∧
      StackDiscipline ((Run.fresh (.named "run") () : Run Unit Empty).play (fun action _ => action.elim)
        [.start [], .beginCall ⟨0⟩ "outer" (.cpu 0)]) ∧
      (((Run.fresh (.named "run") () : Run Unit Empty).next (fun action _ => action.elim) (.start [])).follow
          (fun action _ => action.elim)
          [(⟨0⟩, .begin "outer" (.cpu 0)), (⟨1⟩, .finish 0), (⟨1⟩, .begin "other" (.gpu 0)),
            (⟨0⟩, .begin "inner" (.cpu 0)), (⟨0⟩, .finish 0), (⟨0⟩, .finish 1)]).view ⟨0⟩ =
        ⟨[true, false, true, true], [⟨"inner", .cpu 0, 2⟩], [⟨"outer", .cpu 0, 1⟩]⟩ :=
  ⟨rfl, (threads_keep_stacks _ _ _).1 _ rfl, ((threads_keep_stacks _ _ _).2 _ _ _).trans rfl⟩

end CallProfile.Session
