import CallProfile.Proofs.Session.Requests

namespace CallProfile.Session

/-- Something that happens; `α` is what the world does by itself. -/
inductive Event (σ α : Type) where
  | start (collectors : List (Collector σ))
  | beginCall (thread : ThreadId) (name : String) (device : Device)
  | endCall (thread : ThreadId) (id : CallId)
  | enter (thread : ThreadId) (name : String) (device : Device)
  | finish (guard : CallGuard)
  | drop (guard : CallGuard)
  | finalize (thread : ThreadId)
  | outside (action : α)

inductive Outcome where
  | started
  | began (id : CallId)
  | ended (id : CallId)
  | reported (report : Report)
  | passed
  | refused (error : ProfileError)

section Operations

variable {σ : Type}

def opening (session : Session σ) (thread : ThreadId) (device : Device) (world : σ) : Opening σ :=
  openWith thread session.nextId device .empty world session.collectors

def nextCall (session : Session σ) (thread : ThreadId) (name : String) (device : Device) (world : σ) : OpenCall :=
  ⟨session.nextId, name, device, .ofNat ((session.pending.on thread).length + 1), thread,
    (session.opening thread device world).began, (session.opening thread device world).errors⟩

def begun (session : Session σ) (thread : ThreadId) (name : String) (device : Device) (world : σ) : Session σ :=
  { session with
    collectors := (session.opening thread device world).collectors
    nextId := ⟨session.nextId.number + 1⟩
    pending := session.pending.setOn thread
      (session.nextCall thread name device world :: session.pending.on thread) }

def closing (session : Session σ) (thread : ThreadId) (call : OpenCall) (world : σ) : Closing σ :=
  closeWith thread call call.errors world session.collectors call.began

def recordOf (session : Session σ) (thread : ThreadId) (call : OpenCall) (world : σ) : CallRecord :=
  ⟨call.name, call.device, call.depth, (session.closing thread call world).metrics⟩

/-- The session in which a call has ended, `around` being the calls that stay open on its thread. -/
def popped (session : Session σ) (thread : ThreadId) (call : OpenCall) (around : List OpenCall) (world : σ) :
    Session σ :=
  { session with
    collectors := (session.closing thread call world).collectors
    pending := session.pending.setOn thread around
    ended := session.recordOf thread call world :: session.ended }

def truncated (session : Session σ) (found : List OpenCall) (thread : ThreadId) (world : σ) : Session σ × σ :=
  truncate thread { session with phase := .finalized, pending := .empty } world (newestFirst found)

theorem ensureRunning_eq_ok_iff (session : Session σ) : session.ensureRunning = .ok () ↔ session.phase = .running := by
  unfold ensureRunning
  cases session.phase <;> simp

theorem ensureRunning_of_running {session : Session σ} (running : session.phase = .running) :
    session.ensureRunning = .ok () := (ensureRunning_eq_ok_iff session).mpr running

theorem beginCall_of_running {session : Session σ} (running : session.phase = .running) (thread : ThreadId)
    (name : String) (device : Device) (world : σ) :
    session.beginCall thread name device world =
      .ok (session.nextId, session.begun thread name device world, (session.opening thread device world).world) := by
  simp only [beginCall, ensureRunning_of_running running]
  rfl

theorem endCall_of_top {session : Session σ} (running : session.phase = .running) {thread : ThreadId}
    {call : OpenCall} {around : List OpenCall} (top : session.pending.on thread = call :: around) (world : σ) :
    session.endCall thread call.id world =
      .ok (session.popped thread call around world, (session.closing thread call world).world) := by
  simp only [endCall, ensureRunning_of_running running, top, Bind.bind, Except.bind, if_true]
  rfl

theorem finalizeFrom_of_running {session : Session σ} (running : session.phase = .running) (found : List OpenCall)
    (thread : ThreadId) (world : σ) :
    session.finalizeFrom found thread world =
      .ok (.ofCalls (session.truncated found thread world).1.ended.reverse,
        { (session.truncated found thread world).1 with ended := [] },
        (session.truncated found thread world).2) := by
  simp only [finalizeFrom, ensureRunning_of_running running]
  rfl

end Operations

section Perform

variable {σ α : Type}

def settle (session : Session σ) (world : σ) :
    Except ProfileError (Outcome × Session σ × σ) → Outcome × Session σ × σ
  | .ok after => after
  | .error error => (.refused error, session, world)

/-- Lets an event happen; `act` says what the world does by itself. -/
def perform (act : α → σ → σ) (session : Session σ) (world : σ) : Event σ α → Outcome × Session σ × σ
  | .start collectors =>
    settle session world ((session.start collectors).map fun after => (.started, after, world))
  | .beginCall thread name device =>
    settle session world ((session.beginCall thread name device world).map fun (id, after) => (.began id, after))
  | .endCall thread id => settle session world ((session.endCall thread id world).map (.ended id, ·))
  | .enter thread name device =>
    settle session world
      ((CallGuard.enter session thread name device world).map fun (guard, after) => (.began guard.id, after))
  | .finish guard => settle session world ((guard.finish session world).map (.ended guard.id, ·))
  | .drop guard =>
    ((settle session world ((guard.finish session world).map (.ended guard.id, ·))).1, guard.drop session world)
  | .finalize thread =>
    settle session world ((session.finalize thread world).map fun (report, after) => (.reported report, after))
  | .outside action => (.passed, session, act action world)

def Event.beginning? : Event σ α → Option (ThreadId × String × Device)
  | .beginCall thread name device | .enter thread name device => some (thread, name, device)
  | _ => none

def Event.ending? : Event σ α → Option (ThreadId × CallId)
  | .endCall thread id => some (thread, id)
  | .finish guard | .drop guard => some (guard.thread, guard.id)
  | _ => none

def endRefusal? (session : Session σ) (thread : ThreadId) (id : CallId) : Option ProfileError :=
  match session.pending.on thread with
  | [] => some (.unmatched id noOpenCallMessage)
  | call :: _ => if call.id = id then none else some (.unmatched id (innerCallMessage call))

def refusal? (session : Session σ) : Event σ α → Option ProfileError
  | .outside _ => none
  | .start _ =>
    match session.phase with
    | .idle => none
    | .running => some .alreadyStarted
    | .finalized => some .alreadyFinalized
  | event =>
    match session.ensureRunning with
    | .error error => some error
    | .ok _ => event.ending?.bind fun (thread, id) => session.endRefusal? thread id

def endRequests (session : Session σ) (thread : ThreadId) (world : σ) : List (Request σ) :=
  match session.pending.on thread with
  | [] => []
  | call :: _ => closeRequests thread call world session.collectors call.began

/-- What the session asks of its collectors when an event happens. -/
def requests (session : Session σ) (world : σ) (event : Event σ α) : List (Request σ) :=
  match session.refusal? event with
  | some _ => []
  | none =>
    match event with
    | .start _ | .outside _ => []
    | .beginCall thread _ device | .enter thread _ device =>
      openRequests thread session.nextId device world session.collectors
    | .endCall thread _ => session.endRequests thread world
    | .finish guard | .drop guard => session.endRequests guard.thread world
    | .finalize thread =>
      truncateRequests thread { session with phase := .finalized, pending := .empty } world
        (newestFirst session.pending.all)

/-- Everything that an event can do: its outcome, the requests, and the session and the world after it. -/
inductive Transition (act : α → σ → σ) (session : Session σ) (world : σ) :
    Event σ α → Outcome → List (Request σ) → Session σ → σ → Prop
  | refused {event : Event σ α} {error : ProfileError} (reason : session.refusal? event = some error) :
    Transition act session world event (.refused error) [] session world
  | started (collectors : List (Collector σ)) (idle : session.phase = .idle) :
    Transition act session world (.start collectors) .started []
      { session with phase := .running, collectors } world
  | began {event : Event σ α} {thread : ThreadId} {name : String} {device : Device}
      (asked : event.beginning? = some (thread, name, device)) (running : session.phase = .running) :
    Transition act session world event (.began session.nextId)
      (openRequests thread session.nextId device world session.collectors)
      (session.begun thread name device world) (session.opening thread device world).world
  | ended {event : Event σ α} {thread : ThreadId} {call : OpenCall} {around : List OpenCall}
      (asked : event.ending? = some (thread, call.id)) (running : session.phase = .running)
      (top : session.pending.on thread = call :: around) :
    Transition act session world event (.ended call.id)
      (closeRequests thread call world session.collectors call.began)
      (session.popped thread call around world) (session.closing thread call world).world
  | finalized (thread : ThreadId) (running : session.phase = .running) :
    Transition act session world (.finalize thread)
      (.reported (.ofCalls (session.truncated session.pending.all thread world).1.ended.reverse))
      (truncateRequests thread { session with phase := .finalized, pending := .empty } world
        (newestFirst session.pending.all))
      { (session.truncated session.pending.all thread world).1 with ended := [] }
      (session.truncated session.pending.all thread world).2
  | passed (action : α) : Transition act session world (.outside action) .passed [] session (act action world)

theorem perform_of_beginning (act : α → σ → σ) (session : Session σ) (world : σ) {event : Event σ α}
    {thread : ThreadId} {name : String} {device : Device} (asked : event.beginning? = some (thread, name, device)) :
    perform act session world event = settle session world
      ((session.beginCall thread name device world).map fun (id, after) => (.began id, after)) := by
  cases event <;> simp only [Event.beginning?, reduceCtorEq, Option.some.injEq, Prod.mk.injEq] at asked
  all_goals obtain ⟨rfl, rfl, rfl⟩ := asked
  · rfl
  · simp only [perform, CallGuard.enter]
    cases session.beginCall _ _ _ world <;> rfl

theorem perform_of_ending (act : α → σ → σ) (session : Session σ) (world : σ) {event : Event σ α}
    {thread : ThreadId} {id : CallId} (asked : event.ending? = some (thread, id)) :
    perform act session world event =
      settle session world ((session.endCall thread id world).map (.ended id, ·)) := by
  cases event <;> simp only [Event.ending?, reduceCtorEq, Option.some.injEq, Prod.mk.injEq] at asked
  all_goals obtain ⟨rfl, rfl⟩ := asked
  · rfl
  · rfl
  · simp only [perform, CallGuard.drop, CallGuard.finish]
    cases session.endCall _ _ world <;> rfl

theorem perform_began (act : α → σ → σ) {session : Session σ} (running : session.phase = .running) (world : σ)
    {event : Event σ α} {thread : ThreadId} {name : String} {device : Device}
    (asked : event.beginning? = some (thread, name, device)) :
    perform act session world event =
      (.began session.nextId, session.begun thread name device world, (session.opening thread device world).world) := by
  rw [perform_of_beginning act session world asked, beginCall_of_running running]
  rfl

theorem perform_ended (act : α → σ → σ) {session : Session σ} (running : session.phase = .running) (world : σ)
    {event : Event σ α} {thread : ThreadId} {call : OpenCall} {around : List OpenCall}
    (asked : event.ending? = some (thread, call.id)) (top : session.pending.on thread = call :: around) :
    perform act session world event =
      (.ended call.id, session.popped thread call around world, (session.closing thread call world).world) := by
  rw [perform_of_ending act session world asked, endCall_of_top running top]
  rfl

theorem endCall_of_refusal {session : Session σ} (running : session.phase = .running) {thread : ThreadId}
    {id : CallId} {error : ProfileError} (reason : session.endRefusal? thread id = some error) (world : σ) :
    session.endCall thread id world = .error error := by
  simp only [endCall, ensureRunning_of_running running, Bind.bind, Except.bind]
  unfold endRefusal? at reason
  cases top : session.pending.on thread with
  | nil => simpa [top, throw, throwThe, MonadExceptOf.throw] using reason
  | cons call around =>
    by_cases own : call.id = id
    · simp [top, own] at reason
    · simpa [top, own, throw, throwThe, MonadExceptOf.throw] using reason

theorem endRefusal?_eq_none_iff {session : Session σ} {thread : ThreadId} {id : CallId} :
    session.endRefusal? thread id = none ↔
      ∃ call around, session.pending.on thread = call :: around ∧ call.id = id := by
  unfold endRefusal?
  cases session.pending.on thread with
  | nil => simp
  | cons call around => by_cases own : call.id = id <;> simp [own]

def Performs (act : α → σ → σ) (session : Session σ) (world : σ) (event : Event σ α) : Prop :=
  Transition act session world event (perform act session world event).1 (session.requests world event)
    (perform act session world event).2.1 (perform act session world event).2.2

theorem performs_of_beginning (act : α → σ → σ) (session : Session σ) (world : σ) {event : Event σ α}
    {thread : ThreadId} {name : String} {device : Device} (asked : event.beginning? = some (thread, name, device))
    (refused : ∀ error, session.ensureRunning = .error error → session.refusal? event = some error)
    (opened : session.ensureRunning = .ok () →
      session.requests world event = openRequests thread session.nextId device world session.collectors) :
    Performs act session world event := by
  unfold Performs
  rw [perform_of_beginning act session world asked]
  cases running : session.ensureRunning with
  | error error =>
    simp only [beginCall, running, requests, refused error running]
    exact .refused (refused error running)
  | ok _ =>
    have runs := (ensureRunning_eq_ok_iff session).mp running
    rw [beginCall_of_running runs, opened running]
    exact .began asked runs

theorem performs_of_ending (act : α → σ → σ) (session : Session σ) (world : σ) {event : Event σ α}
    {thread : ThreadId} {id : CallId} (asked : event.ending? = some (thread, id))
    (refused : ∀ error, session.ensureRunning = .error error → session.refusal? event = some error)
    (unmatched : session.ensureRunning = .ok () → session.refusal? event = session.endRefusal? thread id)
    (closed : session.refusal? event = none → session.requests world event = session.endRequests thread world) :
    Performs act session world event := by
  unfold Performs
  rw [perform_of_ending act session world asked]
  cases running : session.ensureRunning with
  | error error =>
    simp only [endCall, running, requests, refused error running]
    exact .refused (refused error running)
  | ok _ =>
    have runs := (ensureRunning_eq_ok_iff session).mp running
    have matched := unmatched running
    cases reason : session.endRefusal? thread id with
    | some error =>
      rw [reason] at matched
      rw [endCall_of_refusal runs reason]
      simp only [requests, matched]
      exact .refused matched
    | none =>
      rw [reason] at matched
      obtain ⟨call, around, top, rfl⟩ := endRefusal?_eq_none_iff.mp reason
      rw [endCall_of_top runs top, closed matched]
      simp only [endRequests, top]
      exact .ended asked runs top

theorem performs (act : α → σ → σ) (session : Session σ) (world : σ) (event : Event σ α) :
    Performs act session world event := by
  have opened {event : Event σ α} {thread : ThreadId} {name : String} {device : Device}
      (shape : event = .beginCall thread name device ∨ event = .enter thread name device)
      (running : session.ensureRunning = .ok ()) :
      session.requests world event = openRequests thread session.nextId device world session.collectors := by
    rcases shape with rfl | rfl <;> simp only [requests, refusal?, running, Event.ending?, Option.bind_none]
  cases event with
  | start collectors =>
    unfold Performs
    cases phase : session.phase <;> simp only [perform, Session.start, requests, refusal?, phase]
    · exact .started collectors phase
    · exact .refused (by simp only [refusal?, phase])
    · exact .refused (by simp only [refusal?, phase])
  | beginCall thread name device =>
    exact performs_of_beginning act session world rfl (fun error h => by simp only [refusal?, h])
      (opened (.inl rfl))
  | enter thread name device =>
    exact performs_of_beginning act session world rfl (fun error h => by simp only [refusal?, h])
      (opened (.inr rfl))
  | endCall thread id =>
    exact performs_of_ending act session world rfl (fun error h => by simp only [refusal?, h])
      (fun h => by simp only [refusal?, h]; rfl) (fun h => by simp only [requests, h])
  | finish guard =>
    exact performs_of_ending act session world rfl (fun error h => by simp only [refusal?, h])
      (fun h => by simp only [refusal?, h]; rfl) (fun h => by simp only [requests, h])
  | drop guard =>
    exact performs_of_ending act session world rfl (fun error h => by simp only [refusal?, h])
      (fun h => by simp only [refusal?, h]; rfl) (fun h => by simp only [requests, h])
  | finalize thread =>
    unfold Performs
    cases running : session.ensureRunning with
    | error error =>
      have refused : session.refusal? (.finalize thread : Event σ α) = some error := by
        simp only [refusal?, running]
      simp only [perform, finalize, finalizeFrom, running, requests, refused]
      exact .refused refused
    | ok _ =>
      have runs := (ensureRunning_eq_ok_iff session).mp running
      simp only [perform, finalize, finalizeFrom_of_running runs, requests, refusal?, running, Event.ending?,
        Option.bind_none]
      exact .finalized thread runs
  | outside action => exact .passed action

end Perform

end CallProfile.Session
