import CallProfile.Proofs.Session.Contributions
import CallProfile.Proofs.Session.Events

namespace CallProfile.Session

variable {σ α β γ : Type}

structure Bench (σ : Type) where
  session : Session σ
  world : σ
  asked : List (Request σ)

/-- Steps at a bench, which stays as they leave it even if they fail. -/
abbrev Work (σ β : Type) := ExceptT ProfileError (StateM (Bench σ)) β

namespace Work

def on (work : Work σ β) (bench : Bench σ) : Except ProfileError β × Bench σ := work.run.run bench

section Steps

def change (f : Session σ → Session σ) : Work σ Unit := modify fun bench => { bench with session := f bench.session }

def ensureRunning : Work σ Unit := do
  match (← get).session.phase with
  | .running => return ()
  | .idle => throw .notRunning
  | .finalized => throw .alreadyFinalized

def takeId : Work σ CallId := do
  let id := (← get).session.nextId
  change fun session => { session with nextId := ⟨id.number + 1⟩ }
  return id

def ask (thread : ThreadId) (demand : Collector σ → Demand) (position : Nat) : Work σ (Option (Request σ)) := do
  let bench ← get
  match bench.session.collectors[position]? with
  | none => return none
  | some collector =>
    let request : Request σ := ⟨collector, thread, demand collector, bench.world⟩
    change fun session => { session with collectors := session.collectors.set position request.after }
    modify fun bench => { bench with world := request.worldAfter, asked := bench.asked ++ [request] }
    return some request

/-- Tells the next collectors from a position on that a call begins: which take it in, and what goes wrong. -/
def openFrom (thread : ThreadId) (id : CallId) (device : Device) (errors : MetricMap) (position : Nat) :
    Nat → Work σ (List Bool × MetricMap)
  | 0 => return ([], errors)
  | left + 1 => do
    match ← ask thread (fun _ => .begin id device) position with
    | none => return ([], errors)
    | some request =>
      let (began, errors) ← openFrom thread id device (request.addTo errors) (position + 1) left
      return (request.answer.isOk :: began, errors)

/-- Takes the metrics of a call from the collectors from a position on that took it in. -/
def closeFrom (thread : ThreadId) (call : OpenCall) (metrics : MetricMap) (position : Nat) :
    List Bool → Work σ MetricMap
  | [] => return metrics
  | false :: began => closeFrom thread call metrics (position + 1) began
  | true :: began => do
    match ← ask thread (closingDemand thread call) position with
    | none => return metrics
    | some request => closeFrom thread call (request.addTo metrics) (position + 1) began

def push (thread : ThreadId) (call : UInt32 → OpenCall) : Work σ Unit :=
  change fun session =>
    let around := session.pending.on thread
    { session with pending := session.pending.setOn thread (call (.ofNat (around.length + 1)) :: around) }

def pop (thread : ThreadId) (id : CallId) : Work σ OpenCall := do
  match (← get).session.pending.on thread with
  | [] => throw (.unmatched id noOpenCallMessage)
  | call :: around =>
    if call.id = id then
      change fun session => { session with pending := session.pending.setOn thread around }
      return call
    else throw (.unmatched id (innerCallMessage call))

def drain : Work σ (List OpenCall) := do
  let calls := (← get).session.pending.all
  change fun session => { session with pending := .empty }
  return newestFirst calls

def record (thread : ThreadId) (truncated : Bool) (call : OpenCall) : Work σ Unit := do
  let metrics ← closeFrom thread call call.errors 0 call.began
  let record : CallRecord :=
    ⟨call.name, call.device, call.depth, if truncated then markTruncated metrics else metrics⟩
  change fun session => { session with ended := record :: session.ended }

def takeRecords : Work σ (List CallRecord) := do
  let records := (← get).session.ended
  change fun session => { session with ended := [] }
  return records

end Steps

section Operations

def start (collectors : List (Collector σ)) : Work σ Unit := do
  match (← get).session.phase with
  | .idle =>
    change fun session => { session with collectors }
    change fun session => { session with phase := .running }
  | .running => throw .alreadyStarted
  | .finalized => throw .alreadyFinalized

def beginCall (thread : ThreadId) (name : String) (device : Device) : Work σ CallId := do
  ensureRunning
  let id ← takeId
  let (began, errors) ← openFrom thread id device .empty 0 (← get).session.collectors.length
  push thread fun depth => ⟨id, name, device, depth, thread, began, errors⟩
  return id

def endCall (thread : ThreadId) (id : CallId) : Work σ Unit := do
  ensureRunning
  let call ← pop thread id
  record thread false call

def finalize (thread : ThreadId) : Work σ Report := do
  ensureRunning
  change fun session => { session with phase := .finalized }
  let calls ← drain
  forM calls (record thread true)
  return .ofCalls (← takeRecords).reverse

def event (act : α → σ → σ) : Event σ α → Work σ Outcome
  | .start collectors => do
    start collectors
    return .started
  | .beginCall thread name device | .enter thread name device => return .began (← beginCall thread name device)
  | .endCall thread id => do
    endCall thread id
    return .ended id
  | .finish guard | .drop guard => do
    endCall guard.thread guard.id
    return .ended guard.id
  | .finalize thread => return .reported (← finalize thread)
  | .outside action => do
    modify fun bench => { bench with world := act action bench.world }
    return .passed

end Operations

section On

variable {bench after : Bench σ}

theorem on_pure (value : β) : (pure value : Work σ β).on bench = (.ok value, bench) := rfl

theorem on_change (f : Session σ → Session σ) :
    (change f).on bench = (.ok (), { bench with session := f bench.session }) := rfl

theorem on_bind_ok {work : Work σ β} {value : β} (done : work.on bench = (.ok value, after)) (further : β → Work σ γ) :
    (work >>= further).on bench = (further value).on after := by
  change (match work.on bench with | (result, after) => (ExceptT.bindCont further result).run after) = _
  rw [done]
  rfl

theorem on_bind_error {work : Work σ β} {error : ProfileError} (failed : work.on bench = (.error error, after))
    (further : β → Work σ γ) : (work >>= further).on bench = (.error error, after) := by
  change (match work.on bench with | (result, after) => (ExceptT.bindCont further result).run after) = _
  rw [failed]
  rfl

theorem on_get_bind (further : Bench σ → Work σ β) : (get >>= further).on bench = (further bench).on bench := rfl

theorem ensureRunning_on (bench : Bench σ) : ensureRunning.on bench = (bench.session.ensureRunning, bench) := by
  obtain ⟨⟨config, phase, collectors, nextId, pending, ended⟩, world, asked⟩ := bench
  cases phase <;> rfl

theorem ask_on (thread : ThreadId) (demand : Collector σ → Demand) {before rest : List (Collector σ)}
    {collector : Collector σ} (split : bench.session.collectors = before ++ collector :: rest) :
    let request : Request σ := ⟨collector, thread, demand collector, bench.world⟩
    (ask thread demand before.length).on bench =
      (.ok (some request),
        ⟨{ bench.session with collectors := before ++ request.after :: rest }, request.worldAfter,
          bench.asked ++ [request]⟩) := by
  obtain ⟨⟨config, phase, collectors, nextId, pending, ended⟩, world, asked⟩ := bench
  subst split
  intro request
  have found : (before ++ collector :: rest)[before.length]? = some collector := by simp
  have changed : (before ++ collector :: rest).set before.length request.after = before ++ request.after :: rest := by
    simp
  rw [← changed]
  unfold ask
  simp only [on_get_bind, found]
  rfl

theorem ask_nobody (thread : ThreadId) (demand : Collector σ → Demand) {position : Nat}
    (missing : bench.session.collectors[position]? = none) :
    (ask thread demand position).on bench = (.ok none, bench) := by
  unfold ask
  simp only [on_get_bind, missing]
  rfl

theorem openFrom_on (bench : Bench σ) (thread : ThreadId) (id : CallId) (device : Device) (errors : MetricMap)
    (before rest : List (Collector σ)) (split : bench.session.collectors = before ++ rest) :
    let opening := openWith thread id device errors bench.world rest
    (openFrom thread id device errors before.length rest.length).on bench =
      (.ok (opening.began, opening.errors),
        ⟨{ bench.session with collectors := before ++ opening.collectors }, opening.world,
          bench.asked ++ openRequests thread id device bench.world rest⟩) := by
  induction rest generalizing bench errors before with
  | nil =>
    obtain ⟨⟨config, phase, collectors, nextId, pending, ended⟩, world, asked⟩ := bench
    subst split
    simp only [openWith, openRequests, List.append_nil]
    rfl
  | cons collector rest ih =>
    let request : Request σ := ⟨collector, thread, .begin id device, bench.world⟩
    have asked := ask_on thread (fun _ => .begin id device) split
    have further := ih ⟨{ bench.session with collectors := before ++ request.after :: rest }, request.worldAfter,
      bench.asked ++ [request]⟩ (request.addTo errors) (before ++ [request.after]) (by simp)
    rw [List.length_append, List.length_singleton] at further
    intro opening
    simp only [List.length_cons, openFrom]
    rw [on_bind_ok asked]
    simp only
    rw [on_bind_ok further]
    simp only [opening, openWith_cons, openRequests, List.append_assoc, List.cons_append, List.nil_append]
    rfl

theorem closeFrom_nobody (thread : ThreadId) (call : OpenCall) (metrics : MetricMap) {position : Nat}
    (began : List Bool) (beyond : bench.session.collectors.length ≤ position) :
    (closeFrom thread call metrics position began).on bench = (.ok metrics, bench) := by
  induction began generalizing position with
  | nil => rfl
  | cons taken began ih =>
    cases taken with
    | false => exact ih (Nat.le_succ_of_le beyond)
    | true =>
      have nobody := ask_nobody thread (closingDemand thread call) (List.getElem?_eq_none beyond)
      rw [closeFrom, on_bind_ok nobody]
      rfl

theorem closeFrom_on (bench : Bench σ) (thread : ThreadId) (call : OpenCall) (metrics : MetricMap)
    (before rest : List (Collector σ)) (began : List Bool) (split : bench.session.collectors = before ++ rest) :
    let closing := closeWith thread call metrics bench.world rest began
    (closeFrom thread call metrics before.length began).on bench =
      (.ok closing.metrics,
        ⟨{ bench.session with collectors := before ++ closing.collectors }, closing.world,
          bench.asked ++ closeRequests thread call bench.world rest began⟩) := by
  induction rest generalizing bench metrics before began with
  | nil =>
    have beyond : bench.session.collectors.length ≤ before.length := by simp [split]
    have nobody := closeFrom_nobody thread call metrics began beyond
    simp only [closeWith, closeRequests, List.append_nil, nobody, ← split]
  | cons collector rest ih =>
    rcases began with _ | ⟨_ | _, began⟩
    · simp only [closeWith, closeRequests, List.append_nil, ← split, closeFrom, on_pure]
    · have further := ih bench metrics (before ++ [collector]) began (by simp [split])
      rw [List.length_append, List.length_singleton] at further
      simp only [closeFrom, further, closeWith, closeRequests, List.append_assoc, List.cons_append, List.nil_append]
    · let request : Request σ := ⟨collector, thread, closingDemand thread call collector, bench.world⟩
      have asked := ask_on thread (closingDemand thread call) split
      have further := ih ⟨{ bench.session with collectors := before ++ request.after :: rest }, request.worldAfter,
        bench.asked ++ [request]⟩ (request.addTo metrics) (before ++ [request.after]) began (by simp)
      rw [List.length_append, List.length_singleton] at further
      intro closing
      rw [closeFrom, on_bind_ok asked]
      simp only
      rw [further]
      simp only [closing, closeWith_taken, closeRequests, List.append_assoc, List.cons_append, List.nil_append]
      rfl

theorem record_on (thread : ThreadId) (truncated : Bool) (call : OpenCall) (bench : Bench σ) :
    let closed := bench.session.close thread call truncated bench.world
    (record thread truncated call).on bench =
      (.ok (), ⟨{ closed.2.1 with ended := closed.1 :: closed.2.1.ended }, closed.2.2,
        bench.asked ++ closeRequests thread call bench.world bench.session.collectors call.began⟩) := by
  intro closed
  have taken := closeFrom_on bench thread call call.errors [] bench.session.collectors call.began rfl
  rw [record]
  exact on_bind_ok taken _

theorem records_on (thread : ThreadId) (calls : List OpenCall) (bench : Bench σ) :
    (forM calls (record thread true)).on bench =
      (.ok (), ⟨(truncate thread bench.session bench.world calls).1, (truncate thread bench.session bench.world calls).2,
        bench.asked ++ truncateRequests thread bench.session bench.world calls⟩) := by
  induction calls generalizing bench with
  | nil => simp only [truncate, truncateRequests, List.append_nil]; rfl
  | cons call rest ih =>
    rw [List.forM_cons, on_bind_ok (record_on thread true call bench), ih]
    simp only [truncate, truncateRequests, List.append_assoc]

theorem pop_on (thread : ThreadId) {call : OpenCall} {around : List OpenCall}
    (top : bench.session.pending.on thread = call :: around) :
    (pop thread call.id).on bench =
      (.ok call, { bench with session.pending := bench.session.pending.setOn thread around }) := by
  rw [pop, on_get_bind]
  simp only [top, if_true]
  rfl

theorem pop_refused {thread : ThreadId} {id : CallId} {error : ProfileError}
    (refused : bench.session.endRefusal? thread id = some error) :
    (pop thread id).on bench = (.error error, bench) := by
  unfold endRefusal? at refused
  rw [pop, on_get_bind]
  cases top : bench.session.pending.on thread with
  | nil =>
    rw [top] at refused
    exact congrArg (·, bench) (congrArg Except.error (Option.some.inj refused))
  | cons call around =>
    rw [top] at refused
    by_cases own : call.id = id
    · simp [own] at refused
    · simp only [own, if_false, Option.some.injEq] at refused
      simp only [own, if_false]
      exact congrArg (·, bench) (congrArg Except.error refused)

theorem takeId_on (bench : Bench σ) :
    takeId.on bench =
      (.ok bench.session.nextId, { bench with session.nextId := ⟨bench.session.nextId.number + 1⟩ }) := rfl

theorem beginCall_on (running : bench.session.phase = .running) (thread : ThreadId) (name : String) (device : Device) :
    (beginCall thread name device).on bench =
      (.ok bench.session.nextId,
        ⟨bench.session.begun thread name device bench.world, (bench.session.opening thread device bench.world).world,
          bench.asked ++ openRequests thread bench.session.nextId device bench.world bench.session.collectors⟩) := by
  have runs : ensureRunning.on bench = (.ok (), bench) := by rw [ensureRunning_on, ensureRunning_of_running running]
  have opened := openFrom_on { bench with session.nextId := ⟨bench.session.nextId.number + 1⟩ } thread
    bench.session.nextId device .empty [] bench.session.collectors rfl
  rw [beginCall, on_bind_ok runs, on_bind_ok (takeId_on bench), on_get_bind]
  exact on_bind_ok opened _

theorem endCall_on (running : bench.session.phase = .running) (thread : ThreadId) {call : OpenCall}
    {around : List OpenCall} (top : bench.session.pending.on thread = call :: around) :
    (endCall thread call.id).on bench =
      (.ok (), ⟨bench.session.popped thread call around bench.world, (bench.session.closing thread call bench.world).world,
        bench.asked ++ closeRequests thread call bench.world bench.session.collectors call.began⟩) := by
  have runs : ensureRunning.on bench = (.ok (), bench) := by rw [ensureRunning_on, ensureRunning_of_running running]
  rw [endCall, on_bind_ok runs, on_bind_ok (pop_on thread top), record_on]
  rfl

theorem finalize_on (running : bench.session.phase = .running) (thread : ThreadId) :
    let truncated := bench.session.truncated bench.session.pending.all thread bench.world
    (finalize thread).on bench =
      (.ok (.ofCalls truncated.1.ended.reverse),
        ⟨{ truncated.1 with ended := [] }, truncated.2,
          bench.asked ++ truncateRequests thread { bench.session with phase := .finalized, pending := .empty }
            bench.world (newestFirst bench.session.pending.all)⟩) := by
  have runs : ensureRunning.on bench = (.ok (), bench) := by rw [ensureRunning_on, ensureRunning_of_running running]
  have drained : (drain : Work σ _).on { bench with session.phase := .finalized } =
      (.ok (newestFirst bench.session.pending.all),
        { bench with session.phase := .finalized, session.pending := .empty }) := rfl
  have closed := records_on thread (newestFirst bench.session.pending.all)
    { bench with session.phase := .finalized, session.pending := .empty }
  rw [finalize, on_bind_ok runs, on_bind_ok (on_change _), on_bind_ok drained, on_bind_ok closed]
  rfl

theorem stopped_on {error : ProfileError} (stopped : bench.session.ensureRunning = .error error)
    (further : Unit → Work σ β) : (ensureRunning >>= further).on bench = (.error error, bench) :=
  on_bind_error (by rw [ensureRunning_on, stopped]) further

theorem start_refused {collectors : List (Collector σ)} {error : ProfileError}
    (reason : bench.session.refusal? (.start collectors : Event σ α) = some error) :
    (start collectors).on bench = (.error error, bench) := by
  rw [start, on_get_bind]
  cases phase : bench.session.phase <;> simp only [refusal?, phase, reduceCtorEq, Option.some.injEq] at reason
  all_goals
    subst reason
    rfl

theorem endCall_refused {thread : ThreadId} {id : CallId} {error : ProfileError}
    (reason : bench.session.refusal? (.endCall thread id : Event σ α) = some error) :
    (endCall thread id).on bench = (.error error, bench) := by
  simp only [refusal?, Event.ending?, Option.bind_some] at reason
  cases running : bench.session.ensureRunning with
  | error other =>
    simp only [running, Option.some.injEq] at reason
    subst reason
    exact stopped_on running _
  | ok _ =>
    simp only [running] at reason
    have runs : ensureRunning.on bench = (.ok (), bench) := by rw [ensureRunning_on, running]
    rw [endCall, on_bind_ok runs, on_bind_error (pop_refused reason)]

theorem event_refused (act : α → σ → σ) {event : Event σ α} {error : ProfileError}
    (reason : bench.session.refusal? event = some error) : (Work.event act event).on bench = (.error error, bench) := by
  have stopped (thread : ThreadId) (reason : bench.session.refusal? (.finalize thread : Event σ α) = some error) :
      bench.session.ensureRunning = .error error := by
    cases running : bench.session.ensureRunning with
    | error other =>
      simp only [refusal?, running, Option.some.injEq] at reason
      rw [reason]
    | ok _ => simp [refusal?, running, Event.ending?] at reason
  cases event with
  | start collectors => exact on_bind_error (start_refused reason) _
  | beginCall thread name device => exact on_bind_error (stopped_on (stopped thread reason) _) _
  | enter thread name device => exact on_bind_error (stopped_on (stopped thread reason) _) _
  | endCall thread id => exact on_bind_error (endCall_refused (α := α) reason) _
  | finish guard => exact on_bind_error (endCall_refused (α := α) reason) _
  | drop guard => exact on_bind_error (endCall_refused (α := α) reason) _
  | finalize thread => exact on_bind_error (stopped_on (stopped thread reason) _) _
  | outside action => cases reason

end On
end Work

/-- Lets an event happen step by step. -/
def carryOut (act : α → σ → σ) (event : Event σ α) (bench : Bench σ) : Outcome × Bench σ :=
  match (Work.event act event).on bench with
  | (.ok outcome, after) => (outcome, after)
  | (.error error, after) => (.refused error, after)

/-- An event that happens step by step does what it does when it is performed as a whole. -/
theorem carryOut_eq_perform (act : α → σ → σ) (event : Event σ α) (bench : Bench σ) :
    carryOut act event bench =
      let performed := perform act bench.session bench.world event
      (performed.1, ⟨performed.2.1, performed.2.2, bench.asked ++ bench.session.requests bench.world event⟩) := by
  have done {outcome : Outcome} {after : Bench σ} (worked : (Work.event act event).on bench = (.ok outcome, after)) :
      carryOut act event bench = (outcome, after) := by rw [carryOut, worked]
  have step := performs act bench.session bench.world event
  unfold Performs at step
  generalize perform act bench.session bench.world event = performed at step ⊢
  obtain ⟨outcome, session, world⟩ := performed
  simp only at step ⊢
  generalize bench.session.requests bench.world event = requests at step ⊢
  cases step with
  | refused reason => rw [carryOut, Work.event_refused act reason, List.append_nil]
  | started collectors idle =>
    have started : (Work.start collectors).on bench =
        (.ok (), { bench with session.phase := .running, session.collectors := collectors }) := by
      rw [Work.start, Work.on_get_bind]
      simp only [idle]
      rfl
    rw [List.append_nil]
    exact done (Work.on_bind_ok started _)
  | @began _ thread name device asked running =>
    have worked := Work.beginCall_on running thread name device
    cases event <;> simp only [Event.beginning?, reduceCtorEq, Option.some.injEq, Prod.mk.injEq] at asked
    all_goals
      obtain ⟨rfl, rfl, rfl⟩ := asked
      exact done (Work.on_bind_ok worked _)
  | @ended _ thread call around asked running top =>
    have worked := Work.endCall_on running thread top
    cases event <;> simp only [Event.ending?, reduceCtorEq, Option.some.injEq, Prod.mk.injEq] at asked
    all_goals
      obtain ⟨rfl, same⟩ := asked
      rw [← same] at worked ⊢
      exact done (Work.on_bind_ok worked _)
  | finalized thread running => exact done (Work.on_bind_ok (Work.finalize_on running thread) _)
  | passed action =>
    rw [List.append_nil]
    exact done rfl

end CallProfile.Session
