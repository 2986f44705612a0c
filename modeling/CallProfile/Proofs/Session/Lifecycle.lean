import CallProfile.Proofs.Session.History
import CallProfile.Proofs.Session.Stepwise

namespace CallProfile

def ProfileError.OfLifecycle : ProfileError → Prop
  | .notRunning | .alreadyStarted | .alreadyFinalized | .unmatched _ _ => True
  | _ => False

namespace Session

variable {σ α : Type}

def Outcome.isStart : Outcome → Bool
  | .started => true
  | _ => false

def Outcome.isReport : Outcome → Bool
  | .reported _ => true
  | _ => false

def Run.bench (run : Run σ α) : Bench σ := ⟨run.session, run.world, run.history.reverse.flatMap (·.requests)⟩

/-- A session has been started once unless it is idle, and a report has been made once if it is finalized. -/
structure Run.Aged (run : Run σ α) : Prop where
  starts : run.history.countP (·.outcome.isStart) = if run.session.phase = .idle then 0 else 1
  reports : run.history.countP (·.outcome.isReport) = if run.session.phase = .finalized then 1 else 0

/-- What an event can come to at a bench. -/
structure Orderly (event : Event σ α) (before : Bench σ) (outcome : Outcome) (after : Bench σ) : Prop where
  started : outcome = .started → before.session.phase = .idle ∧ after.session.phase = .running
  reported : ∀ report, outcome = .reported report →
    before.session.phase = .running ∧ after.session.phase = .finalized
  settled : after.session.phase = before.session.phase ∨ outcome.isStart ∨ outcome.isReport
  began : ∀ id, outcome = .began id → before.session.phase = .running
  ended : ∀ id, outcome = .ended id → before.session.phase = .running
  begins : before.session.phase = .running → event.beginning?.isSome → outcome = .began before.session.nextId
  finalizes : before.session.phase = .running → ∀ thread, event = .finalize thread → outcome.isReport
  refused_iff : ∀ error, outcome = .refused error ↔ before.session.refusal? event = some error
  refused : ∀ error, outcome = .refused error → error.OfLifecycle ∧ after = before

theorem refusal?_of_beginning {session : Session σ} (running : session.phase = .running) {event : Event σ α}
    (begins : event.beginning?.isSome) : session.refusal? event = none := by
  cases event <;> simp only [Event.beginning?, Option.isSome_none, Bool.false_eq_true] at begins
  all_goals simp only [refusal?, ensureRunning_of_running running, Event.ending?, Option.bind_none]

theorem refusal?_of_ending {session : Session σ} (running : session.phase = .running) {event : Event σ α}
    {thread : ThreadId} {id : CallId} (ends : event.ending? = some (thread, id)) :
    session.refusal? event = session.endRefusal? thread id := by
  cases event <;> simp only [Event.ending?, reduceCtorEq, Option.some.injEq, Prod.mk.injEq] at ends
  all_goals
    obtain ⟨rfl, rfl⟩ := ends
    simp only [refusal?, ensureRunning_of_running running, Event.ending?, Option.bind_some]

theorem outcome_refused_iff {act : α → σ → σ} {session after : Session σ} {world worldAfter : σ} {event : Event σ α}
    {outcome : Outcome} {requests : List (Request σ)}
    (step : Transition act session world event outcome requests after worldAfter) (error : ProfileError) :
    outcome = .refused error ↔ session.refusal? event = some error := by
  cases step with
  | refused reason => simp only [reason, Outcome.refused.injEq, Option.some.injEq]
  | started collectors idle => simp only [refusal?, idle, reduceCtorEq]
  | began asked running => simp only [refusal?_of_beginning running (Option.isSome_of_eq_some asked), reduceCtorEq]
  | ended asked running top =>
    have matched := endRefusal?_eq_none_iff.mpr ⟨_, _, top, rfl⟩
    simp only [refusal?_of_ending running asked, matched, reduceCtorEq]
  | finalized thread running =>
    simp only [refusal?, ensureRunning_of_running running, Event.ending?, Option.bind_none, reduceCtorEq]
  | passed action => simp only [refusal?, reduceCtorEq]

theorem perform_refused (act : α → σ → σ) {session : Session σ} {event : Event σ α} {error : ProfileError}
    (reason : session.refusal? event = some error) (world : σ) :
    perform act session world event = (.refused error, session, world) := by
  have step := performs act session world event
  unfold Performs at step
  have refused := (outcome_refused_iff step error).mpr reason
  generalize perform act session world event = performed at step refused ⊢
  generalize session.requests world event = requests at step
  obtain ⟨outcome, after, worldAfter⟩ := performed
  simp only at step refused
  subst refused
  cases step
  rfl

theorem ofLifecycle_of_refusal {session : Session σ} {event : Event σ α} {error : ProfileError}
    (reason : session.refusal? event = some error) : error.OfLifecycle := by
  unfold refusal? at reason
  split at reason
  · cases reason
  · split at reason <;> cases reason <;> trivial
  · split at reason
    next stopped =>
      unfold ensureRunning at stopped
      split at stopped <;> cases stopped <;> cases reason <;> trivial
    next =>
      obtain ⟨⟨thread, id⟩, -, unmatched⟩ := Option.bind_eq_some_iff.mp reason
      simp only [endRefusal?] at unmatched
      split at unmatched
      · cases unmatched
        trivial
      · split at unmatched <;> cases unmatched
        trivial

theorem beginning?_of_ending {event : Event σ α} {asked : ThreadId × CallId} (ends : event.ending? = some asked) :
    event.beginning? = none := by
  cases event <;> first | rfl | cases ends

theorem Orderly.of_refusal {before : Bench σ} {event : Event σ α} {reason : ProfileError}
    (refusal : before.session.refusal? event = some reason) : Orderly event before (.refused reason) before where
  started := by simp
  reported := by simp
  settled := .inl rfl
  began := by simp
  ended := by simp
  begins := by
    intro running begins
    rw [refusal?_of_beginning running begins] at refusal
    cases refusal
  finalizes := by
    rintro running thread rfl
    simp [refusal?, ensureRunning_of_running running, Event.ending?] at refusal
  refused_iff error := by simp [refusal]
  refused := by
    intro error same
    cases same
    exact ⟨ofLifecycle_of_refusal refusal, rfl⟩

theorem orderly_of_transition {act : α → σ → σ} {before : Bench σ} {after : Session σ} {worldAfter : σ}
    {event : Event σ α} {outcome : Outcome} {requests : List (Request σ)}
    (step : Transition act before.session before.world event outcome requests after worldAfter) :
    Orderly event before outcome ⟨after, worldAfter, before.asked ++ requests⟩ := by
  have refusals := outcome_refused_iff step
  cases step with
  | refused reason =>
    rw [List.append_nil]
    exact .of_refusal reason
  | started collectors idle =>
    constructor
    case refused_iff => exact refusals
    case started => exact fun _ => ⟨idle, rfl⟩
    all_goals simp [Event.beginning?, Outcome.isStart]
  | began asked running =>
    constructor
    case refused_iff => exact refusals
    case settled => exact .inl rfl
    case finalizes =>
      rintro - thread rfl
      cases asked
    all_goals simp [running]
  | ended asked running top =>
    constructor
    case refused_iff => exact refusals
    case settled => exact .inl rfl
    case begins =>
      intro _ begins
      rw [beginning?_of_ending asked] at begins
      cases begins
    case finalizes =>
      rintro - thread rfl
      cases asked
    all_goals simp [running]
  | finalized thread running =>
    constructor
    case refused_iff => exact refusals
    case reported => exact fun _ _ => ⟨running, truncated_phase _ _ _ _⟩
    all_goals simp [Event.beginning?, Outcome.isReport]
  | passed action =>
    constructor
    case refused_iff => exact refusals
    all_goals simp [Event.beginning?]

theorem aged_next (act : α → σ → σ) {run : Run σ α} (aged : run.Aged) (event : Event σ α) :
    (run.next act event).Aged := by
  refine Run.next_of_transition run event ?_
  intro outcome requests session world step
  obtain ⟨starts, reports⟩ := aged
  constructor <;> simp only [List.countP_cons, starts, reports]
  · cases step <;> simp_all [Outcome.isStart, truncated_phase, begun, popped]
  · cases step <;> simp_all [Outcome.isReport, truncated_phase, begun, popped]

theorem aged_play (act : α → σ → σ) (config : SessionConfig) (world : σ) (events : List (Event σ α)) :
    ((Run.fresh config world).play act events).Aged :=
  Run.play_induction events ⟨rfl, rfl⟩ fun _ event _ aged => aged_next act aged event

theorem carryOut_bench (act : α → σ → σ) (run : Run σ α) (event : Event σ α) :
    carryOut act event run.bench = ((perform act run.session run.world event).1, (run.next act event).bench) := by
  rw [carryOut_eq_perform]
  simp [Run.bench, Run.next]

/--
Whatever happens to a session step by step, it goes from idle to running to finalized, each change once at most,
it lets calls begin and be finalized whenever it runs, and what it refuses has changed and asked nothing.
-/
theorem sessions_live_once (act : α → σ → σ) (config : SessionConfig) (world : σ) (events : List (Event σ α)) :
    let run : Run σ α := (Run.fresh config world).play act events
    run.Aged ∧
      ∀ event, (carryOut act event run.bench).2 = (run.next act event).bench ∧
        Orderly event run.bench (carryOut act event run.bench).1 (carryOut act event run.bench).2 := by
  intro run
  refine ⟨aged_play act config world events, fun event => ⟨by rw [carryOut_bench], ?_⟩⟩
  rw [carryOut_eq_perform]
  exact orderly_of_transition (performs act run.bench.session run.bench.world event)

end Session

end CallProfile
