import CallProfile.Proofs.Session.Requests

namespace CallProfile

variable {σ τ : Type}

inductive Move (σ : Type) where
  | ask (thread : ThreadId) (demand : Demand)
  | outside (change : σ → σ)

def Move.map (lift : (σ → σ) → τ → τ) : Move σ → Move τ
  | ask thread demand => ask thread demand
  | outside change => outside (lift change)

/-- A collector in use, with all that it was asked so far, the last thing first. -/
structure Service (σ : Type) where
  collector : Collector σ
  world : σ
  asked : List (Request σ)

namespace Service

def opened (collector : Collector σ) (world : σ) : Service σ := ⟨collector, world, []⟩

def request (service : Service σ) (thread : ThreadId) (demand : Demand) : Request σ :=
  ⟨service.collector, thread, demand, service.world⟩

def next (service : Service σ) : Move σ → Service σ
  | .ask thread demand =>
    let request := service.request thread demand
    ⟨request.after, request.worldAfter, request :: service.asked⟩
  | .outside change => { service with world := change service.world }

def play (service : Service σ) (moves : List (Move σ)) : Service σ := moves.foldl next service

theorem play_induction {motive : Service σ → Prop} {service : Service σ} (moves : List (Move σ))
    (first : motive service) (step : ∀ service, ∀ move ∈ moves, motive service → motive (service.next move)) :
    motive (service.play moves) := by
  induction moves generalizing service with
  | nil => exact first
  | cons move rest ih =>
    refine ih (step service move List.mem_cons_self first) fun service move member => ?_
    exact step service move (List.mem_cons_of_mem _ member)

theorem play_alike (Alike : Collector σ → σ → Collector τ → τ → Prop) (lift : (σ → σ) → τ → τ)
    (asks : ∀ collector world collector' world', Alike collector world collector' world' → ∀ thread demand,
      let request := Request.mk collector thread demand world
      let request' := Request.mk collector' thread demand world'
      request.answer = request'.answer ∧
        Alike request.after request.worldAfter request'.after request'.worldAfter)
    (changes : ∀ collector world collector' world', Alike collector world collector' world' → ∀ change,
      Alike collector (change world) collector' (lift change world'))
    {service : Service σ} {service' : Service τ}
    (alike : Alike service.collector service.world service'.collector service'.world)
    (answers : service.asked.map Request.answer = service'.asked.map Request.answer) (moves : List (Move σ)) :
    let after := service.play moves
    let after' := service'.play (moves.map (.map lift))
    Alike after.collector after.world after'.collector after'.world ∧
      after.asked.map Request.answer = after'.asked.map Request.answer := by
  induction moves generalizing service service' with
  | nil => exact ⟨alike, answers⟩
  | cons move rest ih =>
    cases move with
    | ask thread demand =>
      obtain ⟨answer, further⟩ := asks _ _ _ _ alike thread demand
      refine ih further ?_
      simp only [next, List.map_cons, answers]
      exact congrArg (· :: _) answer
    | outside change => exact ih (changes _ _ _ _ alike change) answers

end Service

def Request.takesIn (request : Request σ) (id : CallId) : Bool :=
  match request.demand with
  | .begin other _ => decide (id = other) && request.answer.isOk
  | .finish _ | .discard _ => false

/-- Whether a call has begun with success and has not ended since, told from what was asked. -/
def stillOpen : List (Request σ) → CallId → Bool
  | [], _ => false
  | request :: past, id =>
    match request.demand with
    | .begin other _ => decide (id = other) && request.answer.isOk || stillOpen past id
    | .finish other | .discard other => decide (id ≠ other) && stillOpen past id

end CallProfile
