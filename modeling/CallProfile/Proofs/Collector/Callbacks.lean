import CallProfile.Proofs.Failure
import CallProfile.Proofs.Collector.Service
import CallProfile.Proofs.Session.Leftovers

namespace CallProfile

variable {σ τ : Type}

inductive Invocation where
  | began (id : CallId)
  | ended (id : CallId)
deriving DecidableEq

namespace Callbacks

def logged (callbacks : Callbacks σ) : Callbacks (σ × List Invocation) where
  name := callbacks.name
  onBegin thread id device world :=
    let (result, after) := callbacks.onBegin thread id device world.1
    (result, after, .began id :: world.2)
  onEnd thread id world :=
    let (result, after) := callbacks.onEnd thread id world.1
    (result, after, .ended id :: world.2)

def forwarding (name : String) : Callbacks (Collector σ × σ) where
  name := name
  onBegin thread id device world :=
    let (result, inner, after) := world.1.beginCall thread id device world.2
    (result.mapError ProfileError.message, inner, after)
  onEnd thread id world :=
    let (result, inner, after) := world.1.endCall thread id world.2
    (result.mapError ProfileError.message, inner, after)

def Logging (callbacks : Callbacks σ) (collector : Collector σ) (world : σ) (logged : Collector (σ × List Invocation))
    (beside : σ × List Invocation) : Prop :=
  ∃ calls, collector = .user callbacks calls ∧ logged = .user callbacks.logged calls ∧ beside.1 = world

theorem Logging.asks {callbacks : Callbacks σ} {collector : Collector σ} {world : σ}
    {logged : Collector (σ × List Invocation)} {beside : σ × List Invocation}
    (alike : callbacks.Logging collector world logged beside) (thread : ThreadId) (demand : Demand) :
    let request := Request.mk collector thread demand world
    let request' := Request.mk logged thread demand beside
    request.answer = request'.answer ∧
      callbacks.Logging request.after request.worldAfter request'.after request'.worldAfter := by
  obtain ⟨calls, rfl, rfl, rfl⟩ := alike
  cases demand with
  | begin id device =>
    simp only [Request.answer, Request.after, Request.worldAfter, Request.respond, Collector.beginCall,
      Callbacks.logged]
    cases (Collector.blame callbacks.name (callbacks.onBegin thread id device beside.1).1).bind
        fun _ => calls.start callbacks.name id () with
    | error error => exact ⟨rfl, calls, rfl, rfl, rfl⟩
    | ok calls => exact ⟨rfl, calls, rfl, rfl, rfl⟩
  | finish id =>
    simp only [Request.answer, Request.after, Request.worldAfter, Request.respond, Collector.endCall,
      Callbacks.logged]
    cases calls.close id with
    | error error => exact ⟨rfl, calls, rfl, rfl, rfl⟩
    | ok closed => exact ⟨rfl, closed.2, rfl, rfl, rfl⟩
  | discard id =>
    simp only [Request.answer, Request.after, Request.worldAfter, Request.respond, Collector.discardCall,
      Collector.endCall, Callbacks.logged]
    cases calls.close id with
    | error error => exact ⟨rfl, calls, rfl, rfl, rfl⟩
    | ok closed => exact ⟨rfl, closed.2, rfl, rfl, rfl⟩

theorem Logging.play (callbacks : Callbacks σ) (world : σ) (moves : List (Move σ)) :
    let plain := (Service.opened (.ofCallbacks callbacks) world).play moves
    let logged := (Service.opened (.ofCallbacks callbacks.logged) (world, [])).play (moves.map (.map (Prod.map · id)))
    callbacks.Logging plain.collector plain.world logged.collector logged.world ∧
      plain.asked.map Request.answer = logged.asked.map Request.answer := by
  refine Service.play_alike callbacks.Logging _ (fun _ _ _ _ alike => alike.asks) ?_ ⟨.empty, rfl, rfl, rfl⟩ rfl moves
  rintro _ _ _ _ ⟨calls, rfl, rfl, rfl⟩ change
  exact ⟨calls, rfl, rfl, rfl⟩

/-- An adapter is a collector whose callbacks hand everything on to the one inside. -/
def Forwarding (name : String) (adapter : Collector σ) (world : σ) (collector : Collector (Collector σ × σ))
    (beside : Collector σ × σ) : Prop :=
  ∃ inner calls, adapter = .adapter inner calls ∧ inner.name = name ∧ collector = .user (forwarding name) calls ∧
    beside = (inner, world)

theorem Forwarding.asks {name : String} {adapter : Collector σ} {world : σ} {collector : Collector (Collector σ × σ)}
    {beside : Collector σ × σ} (alike : Forwarding name adapter world collector beside) (thread : ThreadId)
    (demand : Demand) :
    let request := Request.mk adapter thread demand world
    let request' := Request.mk collector thread demand beside
    request.answer = request'.answer ∧
      Forwarding name request.after request.worldAfter request'.after request'.worldAfter := by
  obtain ⟨inner, calls, rfl, rfl, rfl, rfl⟩ := alike
  have closing (id : CallId) : (inner.endCall thread id world).2.1.name = inner.name := by
    rw [← Collector.name_cleared, Collector.cleared_endCall, Collector.name_cleared]
  cases demand with
  | begin id device =>
    have name := Collector.name_beginCall inner thread id device world
    simp only [Request.answer, Request.after, Request.worldAfter, Request.respond, Collector.beginCall,
      Callbacks.forwarding, name]
    cases (Collector.blame inner.name ((inner.beginCall thread id device world).1.mapError ProfileError.message)).bind
        fun _ => calls.start inner.name id () with
    | error error => exact ⟨rfl, _, calls, rfl, name, rfl, rfl⟩
    | ok calls => exact ⟨rfl, _, calls, rfl, name, rfl, rfl⟩
  | finish id =>
    simp only [Request.answer, Request.after, Request.worldAfter, Request.respond, Collector.endCall,
      Callbacks.forwarding]
    cases calls.close id with
    | error error => exact ⟨rfl, inner, calls, rfl, rfl, rfl, rfl⟩
    | ok closed =>
      simp only [closing]
      exact ⟨trivial, _, closed.2, rfl, closing id, rfl, rfl⟩
  | discard id =>
    simp only [Request.answer, Request.after, Request.worldAfter, Request.respond, Collector.discardCall,
      Collector.endCall, Callbacks.forwarding]
    cases calls.close id with
    | error error => exact ⟨rfl, inner, calls, rfl, rfl, rfl, rfl⟩
    | ok closed =>
      simp only [closing]
      exact ⟨trivial, _, closed.2, rfl, closing id, rfl, rfl⟩

theorem Forwarding.play (inner : Collector σ) (world : σ) (moves : List (Move σ)) :
    let adapter := (Service.opened (.wrapping inner) world).play moves
    let user := (Service.opened (.ofCallbacks (.forwarding inner.name)) (inner, world)).play
      (moves.map (.map (Prod.map id ·)))
    Forwarding inner.name adapter.collector adapter.world user.collector user.world ∧
      adapter.asked.map Request.answer = user.asked.map Request.answer := by
  refine Service.play_alike (Forwarding inner.name) _ (fun _ _ _ _ alike => alike.asks) ?_
    ⟨inner, .empty, rfl, rfl, rfl, rfl⟩ rfl moves
  rintro _ _ _ _ ⟨own, calls, rfl, name, rfl, rfl⟩ change
  exact ⟨own, calls, rfl, name, rfl, rfl⟩

end Callbacks

theorem OpenCalls.eq_insert_of_start {ν : Type} {calls rest : OpenCalls ν} {collector : String} {id : CallId} {note : ν}
    (started : calls.start collector id note = .ok rest) : id ∉ calls.keys ∧ rest = calls.insert id note := by
  unfold start at started
  rw [← SortedMap.contains_iff_mem_keys]
  split at started
  next => cases started
  next absent =>
    cases started
    exact ⟨absent, rfl⟩

namespace Request

def told (past : List (Request σ)) (request : Request σ) : List Invocation :=
  match request.demand with
  | .begin id _ => [.began id]
  | .finish id | .discard id => if stillOpen past id then [.ended id] else []

/-- The request has the callbacks told what they are to be told, and no call is taken in that is open. -/
structure InTurn (past : List (Request (σ × List Invocation))) (request : Request (σ × List Invocation)) : Prop where
  told : request.worldAfter.2 = request.told past ++ request.world.2
  closed : ∀ id, request.takesIn id → stillOpen past id = false

theorem respond_begin (callbacks : Callbacks σ) (calls : OpenCalls Unit) (thread : ThreadId) (id : CallId)
    (device : Device) (world : σ × List Invocation) :
    (Request.mk (.user callbacks.logged calls) thread (.begin id device) world).respond =
      let taking := (Collector.blame callbacks.name (callbacks.onBegin thread id device world.1).1).bind
        fun _ => calls.start callbacks.name id ()
      (taking.map fun _ => (), .user callbacks.logged (taking.toOption.getD calls),
        (callbacks.onBegin thread id device world.1).2, .began id :: world.2) := by
  simp only [Request.respond, Collector.beginCall, Callbacks.logged]
  cases (Collector.blame callbacks.name (callbacks.onBegin thread id device world.1).1).bind
    fun _ => calls.start callbacks.name id () <;> rfl

theorem respond_close (callbacks : Callbacks σ) (calls : OpenCalls Unit) (thread : ThreadId) {id : CallId}
    {demand : Demand} (closing : demand = .finish id ∨ demand = .discard id) (world : σ × List Invocation) :
    (Request.mk (.user callbacks.logged calls) thread demand world).respond.2 =
      match calls.close id with
      | .error _ => (.user callbacks.logged calls, world)
      | .ok (_, rest) =>
        (.user callbacks.logged rest, (callbacks.onEnd thread id world.1).2, .ended id :: world.2) := by
  rcases closing with rfl | rfl <;> simp only [Request.respond, Collector.endCall, Collector.discardCall] <;>
    cases calls.close id <;> rfl

section User

variable (callbacks : Callbacks σ) {calls : OpenCalls Unit} {past : List (Request (σ × List Invocation))}
  (known : ∀ id, id ∈ calls.keys ↔ stillOpen past id)
include known

theorem told_of_close (id : CallId) :
    match calls.close id with
    | .error _ => stillOpen past id = false ∧ ∀ other, other ∈ calls.keys ↔ other ≠ id ∧ stillOpen past other
    | .ok (_, rest) => stillOpen past id = true ∧ ∀ other, other ∈ rest.keys ↔ other ≠ id ∧ stillOpen past other := by
  cases closed : calls.close id with
  | error error =>
    refine ⟨?_, fun other => ?_⟩
    · rw [← Bool.not_eq_true, ← known]
      exact OpenCalls.closed_of_close closed
    · rw [← known]
      exact Collector.mem_keys_of_unclosed closed other
  | ok taken =>
    refine ⟨?_, fun other => ?_⟩
    · rw [← known, SortedMap.mem_keys_iff]
      unfold OpenCalls.close at closed
      cases found : calls.get? id with
      | none => simp [found] at closed
      | some note => rfl
    · rw [← known]
      exact Collector.mem_keys_of_closed closed other

theorem inTurn_of_begin (thread : ThreadId) (id : CallId) (device : Device) (world : σ × List Invocation) :
    let request := Request.mk (.user callbacks.logged calls) thread (.begin id device) world
    request.InTurn past ∧ ∃ after, request.after = .user callbacks.logged after ∧
      ∀ other, other ∈ after.keys ↔ stillOpen (request :: past) other := by
  intro request
  have responds := respond_begin callbacks calls thread id device world
  cases taking : (Collector.blame callbacks.name (callbacks.onBegin thread id device world.1).1).bind
      fun _ => calls.start callbacks.name id () with
  | error error =>
    rw [taking] at responds
    have answer : request.answer = .error error := congrArg (·.1) responds
    refine ⟨⟨?_, ?_⟩, calls, congrArg (·.2.1) responds, fun other => ?_⟩
    · exact congrArg (·.2.2.2) responds
    · intro other taken
      simp [takesIn, request, answer, Except.isOk, Except.toBool] at taken
    · simp [stillOpen, request, answer, Except.isOk, Except.toBool, known]
  | ok rest =>
    rw [taking] at responds
    have answer : request.answer = .ok () := congrArg (·.1) responds
    -- The callback has been called by now; only a call that was closed gets this far.
    obtain ⟨_, -, started⟩ := bind_eq_ok taking
    obtain ⟨closed, rfl⟩ := OpenCalls.eq_insert_of_start started
    refine ⟨⟨?_, ?_⟩, calls.insert id (), congrArg (·.2.1) responds, fun other => ?_⟩
    · exact congrArg (·.2.2.2) responds
    · intro other taken
      have same : other = id := by simpa [takesIn, request, answer, Except.isOk, Except.toBool] using taken
      rw [same, ← Bool.not_eq_true, ← known]
      exact closed
    · rw [SortedMap.mem_keys_insert, known]
      simp [stillOpen, request, answer, Except.isOk, Except.toBool]

theorem inTurn_of_close (thread : ThreadId) (id : CallId) {demand : Demand}
    (closing : demand = .finish id ∨ demand = .discard id) (world : σ × List Invocation) :
    let request := Request.mk (.user callbacks.logged calls) thread demand world
    request.InTurn past ∧ ∃ after, request.after = .user callbacks.logged after ∧
      ∀ other, other ∈ after.keys ↔ stillOpen (request :: past) other := by
  intro request
  have responds := respond_close callbacks calls thread closing world
  have closes := told_of_close known id
  have told : request.told past = if stillOpen past id then [.ended id] else [] := by
    rcases closing with rfl | rfl <;> rfl
  have closed : ∀ other, request.takesIn other → stillOpen past other = false := by
    rcases closing with rfl | rfl <;> nofun
  have kept (other : CallId) : stillOpen (request :: past) other = (decide (other ≠ id) && stillOpen past other) := by
    rcases closing with rfl | rfl <;> rfl
  cases taken : calls.close id with
  | error error =>
    rw [taken] at responds closes
    refine ⟨⟨?_, closed⟩, calls, congrArg Prod.fst responds, fun other => ?_⟩
    · rw [told, closes.1]
      exact congrArg (·.2.2) responds
    · rw [closes.2, kept]
      simp
  | ok rest =>
    rw [taken] at responds closes
    refine ⟨⟨?_, closed⟩, rest.2, congrArg Prod.fst responds, fun other => ?_⟩
    · rw [told, closes.1]
      exact congrArg (·.2.2) responds
    · rw [closes.2, kept]
      simp

theorem inTurn_of_user (thread : ThreadId) (demand : Demand) (world : σ × List Invocation) :
    let request := Request.mk (.user callbacks.logged calls) thread demand world
    request.InTurn past ∧ ∃ after, request.after = .user callbacks.logged after ∧
      ∀ id, id ∈ after.keys ↔ stillOpen (request :: past) id := by
  cases demand with
  | begin id device => exact inTurn_of_begin callbacks known thread id device world
  | finish id => exact inTurn_of_close callbacks known thread id (.inl rfl) world
  | discard id => exact inTurn_of_close callbacks known thread id (.inr rfl) world

end User

end Request

def invocations : List (Request σ) → List Invocation
  | [] => []
  | request :: past => request.told past ++ invocations past

section Balance

variable {asked : List (Request σ)} {request : Request σ} {other : CallId}

theorem stillOpen_begin {id : CallId} {device : Device} (demand : request.demand = .begin other device)
    (closed : request.takesIn id → stillOpen asked id = false) :
    (request.told asked).count (.ended id) = 0 ∧
      (stillOpen (request :: asked) id).toNat = (stillOpen asked id).toNat + (request.takesIn id).toNat := by
  have opens : stillOpen (request :: asked) id = (request.takesIn id || stillOpen asked id) := by
    simp only [stillOpen, Request.takesIn, demand]
  refine ⟨by simp [Request.told, demand], ?_⟩
  rw [opens]
  cases taken : request.takesIn id with
  | false => rfl
  | true =>
    rw [closed taken]
    rfl

theorem stillOpen_close (demand : request.demand = .finish other ∨ request.demand = .discard other)
    (asked : List (Request σ)) (id : CallId) :
    (request.told asked).count (.ended id) + (stillOpen (request :: asked) id).toNat = (stillOpen asked id).toNat ∧
      request.takesIn id = false := by
  have told : request.told asked = if stillOpen asked other then [.ended other] else [] := by
    rcases demand with demand | demand <;> simp only [Request.told, demand]
  have closes : stillOpen (request :: asked) id = (decide (id ≠ other) && stillOpen asked id) := by
    rcases demand with demand | demand <;> simp only [stillOpen, demand]
  refine ⟨?_, by rcases demand with demand | demand <;> simp only [Request.takesIn, demand]⟩
  rw [told, closes]
  by_cases own : id = other
  · subst own
    cases stillOpen asked id <;> simp
  · cases stillOpen asked other <;> simp [own, Ne.symm own]

theorem count_ended (closed : ∀ request past, request :: past <:+ asked → ∀ id, request.takesIn id →
      stillOpen past id = false) (id : CallId) :
    (invocations asked).count (.ended id) + (stillOpen asked id).toNat = asked.countP (·.takesIn id) := by
  -- Each request takes in a call that was closed, or ends one that was open, or does neither.
  induction asked with
  | nil => rfl
  | cons request past ih =>
    have balanced := ih fun other older suffix => closed other older (suffix.trans (List.suffix_cons _ _))
    have counted : (request :: past).countP (·.takesIn id) =
        past.countP (·.takesIn id) + (request.takesIn id).toNat := by
      rw [List.countP_cons]
      cases request.takesIn id <;> rfl
    rw [invocations, List.count_append, counted]
    cases demand : request.demand with
    | begin other device =>
      obtain ⟨told, opens⟩ := stillOpen_begin demand (closed request past (List.suffix_refl _) id)
      omega
    | finish other =>
      obtain ⟨told, taken⟩ := stillOpen_close (.inl demand) past id
      rw [taken, Bool.toNat_false]
      omega
    | discard other =>
      obtain ⟨told, taken⟩ := stillOpen_close (.inr demand) past id
      rw [taken, Bool.toNat_false]
      omega

end Balance

namespace Service

def logging (callbacks : Callbacks σ) (world : σ) (moves : List (Move σ)) : Service (σ × List Invocation) :=
  (opened (.ofCallbacks callbacks.logged) (world, [])).play (moves.map (.map (Prod.map · id)))

/-- The collector has the calls open that are open, and its callbacks were told what they are to be told. -/
structure InTurn (callbacks : Callbacks σ) (service : Service (σ × List Invocation)) : Prop where
  calls : ∃ calls, service.collector = .user callbacks.logged calls ∧
    ∀ id, id ∈ calls.keys ↔ stillOpen service.asked id
  log : service.world.2 = invocations service.asked
  closed : ∀ request past, request :: past <:+ service.asked → ∀ id, request.takesIn id → stillOpen past id = false

theorem inTurn_opened (callbacks : Callbacks σ) (world : σ) :
    InTurn callbacks (opened (.ofCallbacks callbacks.logged) (world, [])) where
  calls := ⟨.empty, rfl, fun id => by simp [opened, stillOpen, SortedMap.empty, SortedMap.keys]⟩
  log := rfl
  closed := fun request past older => by cases List.suffix_nil.mp older

theorem InTurn.next {callbacks : Callbacks σ} {service : Service (σ × List Invocation)}
    (inTurn : InTurn callbacks service) (move : Move σ) :
    InTurn callbacks (service.next (move.map (Prod.map · id))) := by
  cases move with
  | outside change => exact ⟨inTurn.calls, inTurn.log, inTurn.closed⟩
  | ask thread demand =>
    obtain ⟨calls, kind, known⟩ := inTurn.calls
    obtain ⟨told, after, left, keys⟩ := Request.inTurn_of_user callbacks known thread demand service.world
    rw [← kind] at told left keys
    refine ⟨⟨after, left, keys⟩, ?_, ?_⟩
    · exact told.told.trans (congrArg (_ ++ ·) inTurn.log)
    · intro request past recent
      rcases List.suffix_cons_iff.mp recent with same | older
      · cases same
        exact told.closed
      · exact inTurn.closed request past older

theorem inTurn_logging (callbacks : Callbacks σ) (world : σ) (moves : List (Move σ)) :
    InTurn callbacks (logging callbacks world moves) := by
  refine play_induction _ (inTurn_opened callbacks world) fun service move member inTurn => ?_
  obtain ⟨own, -, rfl⟩ := List.mem_map.mp member
  exact inTurn.next own

end Service

def beginsClosed : List (Request σ) → Bool
  | [] => true
  | request :: past =>
    (match request.demand with
      | .begin id _ => !stillOpen past id
      | .finish _ | .discard _ => true) && beginsClosed past

theorem closed_of_begin {asked past : List (Request σ)} {request : Request σ} (orderly : beginsClosed asked)
    (recent : request :: past <:+ asked) {id : CallId} {device : Device} (demand : request.demand = .begin id device) :
    stillOpen past id = false := by
  induction asked with
  | nil => cases List.suffix_nil.mp recent
  | cons newest older ih =>
    rw [beginsClosed, Bool.and_eq_true] at orderly
    rcases List.suffix_cons_iff.mp recent with same | recent
    · cases same
      simpa [demand] using orderly.1
    · exact ih orderly.2 recent

namespace Request

variable {past : List (Request σ)} {request : Request σ} {id : CallId}

theorem demand_of_began (told : .began id ∈ request.told past) : ∃ device, request.demand = .begin id device := by
  unfold Request.told at told
  cases demand : request.demand with
  | begin other device =>
    rw [demand] at told
    cases List.mem_singleton.mp told
    exact ⟨device, rfl⟩
  | finish other | discard other =>
    simp only [demand] at told
    split at told <;> simp at told

theorem stillOpen_of_ended (told : .ended id ∈ request.told past) : stillOpen past id := by
  unfold Request.told at told
  cases demand : request.demand with
  | begin other device => simp [demand] at told
  | finish other | discard other =>
    simp only [demand] at told
    split at told
    next isOpen =>
      cases List.mem_singleton.mp told
      exact isOpen
    next => cases told

theorem refused_of_began (closed : request.takesIn id → stillOpen past id = false)
    (told : .began id ∈ request.told past) (isOpen : stillOpen past id) : request.answer.isOk = false := by
  obtain ⟨device, demand⟩ := request.demand_of_began told
  simpa [takesIn, demand, isOpen] using closed

end Request

/-- What the callbacks have been told, set against the calls that were open when they were told. -/
structure Service.WellTold (service : Service (σ × List Invocation)) : Prop where
  log : service.world.2 = invocations service.asked
  ended : ∀ request past, request :: past <:+ service.asked → ∀ id, .ended id ∈ request.told past → stillOpen past id
  once : ∀ id, service.world.2.count (.ended id) + (stillOpen service.asked id).toNat =
    service.asked.countP (·.takesIn id)
  refused : ∀ request past, request :: past <:+ service.asked → ∀ id, .began id ∈ request.told past →
    stillOpen past id → request.answer.isOk = false
  begun : beginsClosed service.asked → ∀ request past, request :: past <:+ service.asked →
    ∀ id, .began id ∈ request.told past → stillOpen past id = false

theorem Service.InTurn.wellTold {callbacks : Callbacks σ} {service : Service (σ × List Invocation)}
    (inTurn : service.InTurn callbacks) : service.WellTold where
  log := inTurn.log
  ended := fun _ _ _ _ told => Request.stillOpen_of_ended told
  once := fun id => by
    rw [inTurn.log]
    exact count_ended inTurn.closed id
  refused := fun request past recent id told => Request.refused_of_began (inTurn.closed request past recent id) told
  begun := fun orderly request past recent id told => by
    obtain ⟨device, demand⟩ := request.demand_of_began told
    exact closed_of_begin orderly recent demand

/--
The callback for ends is told of open calls only, once for each time that a call was taken in. The callback for
beginnings may be told of an open call, which is then refused, but not where no open call is begun again. It makes
no difference whether the callbacks write down how they are called, or whether they belong to an adapter.
-/
theorem callbacks_are_told_in_turn :
    (∀ (callbacks : Callbacks σ) (world : σ) (moves : List (Move σ)),
      let logging := Service.logging callbacks world moves
      let plain := (Service.opened (.ofCallbacks callbacks) world).play moves
      logging.WellTold ∧ logging.world.1 = plain.world ∧
        logging.asked.map Request.answer = plain.asked.map Request.answer) ∧
    ∀ (inner : Collector σ) (world : σ) (moves : List (Move σ)),
      let adapter := (Service.opened (.wrapping inner) world).play moves
      let user := (Service.opened (.ofCallbacks (.forwarding inner.name)) (inner, world)).play
        (moves.map (.map (Prod.map id ·)))
      Callbacks.Forwarding inner.name adapter.collector adapter.world user.collector user.world ∧
        adapter.asked.map Request.answer = user.asked.map Request.answer := by
  constructor
  · intro callbacks world moves logging plain
    obtain ⟨⟨calls, -, -, sameWorld⟩, answers⟩ := Callbacks.Logging.play callbacks world moves
    exact ⟨(Service.inTurn_logging callbacks world moves).wellTold, sameWorld, answers.symm⟩
  · intro inner world moves
    exact Callbacks.Forwarding.play inner world moves

def choosy : Callbacks Unit where
  name := "choosy"
  onBegin _ id _ world := (if id = ⟨2⟩ then .error "not this one" else .ok (), world)
  onEnd _ _ world := (.ok .empty, world)

def shuffled : List (Move Unit) :=
  [.ask ⟨0⟩ (.begin ⟨1⟩ (.cpu 0)), .ask ⟨1⟩ (.begin ⟨2⟩ (.cpu 0)), .ask ⟨1⟩ (.finish ⟨2⟩), .ask ⟨1⟩ (.discard ⟨1⟩),
    .ask ⟨0⟩ (.finish ⟨1⟩), .ask ⟨0⟩ (.begin ⟨1⟩ (.cpu 0))]

theorem callbacks_are_told_in_turn_shuffled :
    let service := Service.logging choosy () shuffled
    beginsClosed service.asked = true ∧
      (∀ request past, request :: past <:+ service.asked → ∀ id, .began id ∈ request.told past →
        stillOpen past id = false) ∧
      service.world.2 = [.began ⟨1⟩, .ended ⟨1⟩, .began ⟨2⟩, .began ⟨1⟩] := by
  obtain ⟨told, -⟩ := callbacks_are_told_in_turn.1 choosy () shuffled
  exact ⟨rfl, told.begun rfl, rfl⟩

theorem callback_told_of_open_call :
    let opening : Move Unit := .ask ⟨0⟩ (.begin ⟨1⟩ (.cpu 0))
    stillOpen (Service.logging choosy () [opening]).asked ⟨1⟩ = true ∧
      (Service.logging choosy () [opening]).world.2 = [.began ⟨1⟩] ∧
      (Service.logging choosy () [opening, opening]).world.2 = [.began ⟨1⟩, .began ⟨1⟩] := ⟨rfl, rfl, rfl⟩

end CallProfile
