import CallProfile.Proofs.Report.Retold
import CallProfile.Proofs.Session.Contributions
import CallProfile.Proofs.Session.History
import CallProfile.Proofs.Session.Lifecycle

namespace CallProfile

variable {σ α : Type}

namespace Collector

variable {inner after : Collector σ} {calls : OpenCalls Unit} {thread : ThreadId} {id : CallId} {world worldAfter : σ}

theorem adapter_beginCall_ok {device : Device} (unknown : id ∉ calls.keys)
    (taken : inner.beginCall thread id device world = (.ok (), after, worldAfter)) :
    (adapter inner calls).beginCall thread id device world =
      (.ok (), .adapter after (calls.insert id ()), worldAfter) := by
  simp only [beginCall, taken, blame_ok, Except.bind, OpenCalls.start_of_closed calls _ unknown]

theorem adapter_beginCall_error {device : Device} {error : ProfileError}
    (refused : inner.beginCall thread id device world = (.error error, after, worldAfter)) :
    (adapter inner calls).beginCall thread id device world =
      (.error (.collector inner.name error.message), .adapter after calls, worldAfter) := by
  have name := name_beginCall inner thread id device world
  rw [refused] at name
  simp only [beginCall, refused, blame_error, Except.bind, name]

theorem adapter_endCall_ok {values : MetricMap} (isOpen : id ∈ calls.keys)
    (ended : inner.endCall thread id world = (.ok values, after, worldAfter)) :
    (adapter inner calls).endCall thread id world = (.ok values, .adapter after (calls.erase id), worldAfter) := by
  obtain ⟨note, -, closed⟩ := OpenCalls.close_of_open isOpen
  simp only [endCall, closed, ended, blame_ok]

theorem adapter_endCall_error {error : ProfileError} (isOpen : id ∈ calls.keys)
    (failed : inner.endCall thread id world = (.error error, after, worldAfter)) :
    (adapter inner calls).endCall thread id world =
      (.error (.collector inner.name error.message), .adapter after (calls.erase id), worldAfter) := by
  have name : (inner.endCall thread id world).2.1.name = inner.name := by
    rw [← name_cleared, cleared_endCall, name_cleared]
  rw [failed] at name
  obtain ⟨note, -, closed⟩ := OpenCalls.close_of_open isOpen
  simp only [endCall, closed, failed, blame_error, name]

end Collector

namespace Request

variable {request : Request σ} {calls : OpenCalls Unit} {id : CallId}

def adapted (request : Request σ) (calls : OpenCalls Unit) : Request σ :=
  { request with collector := .adapter request.collector calls }

theorem retold_marker (request : Request σ) (calls : OpenCalls Unit) (error : ProfileError) :
    MetricMap.Retold request.collector.name (request.marker error.message)
      ((request.adapted calls).marker (ProfileError.collector request.collector.name error.message).message) :=
  MetricMap.Retold.marker request.collector.name error.message

theorem adapted_begin {device : Device} (asked : request.demand = .begin id device) (unknown : id ∉ calls.keys) :
    (request.adapted calls).answer.isOk = request.answer.isOk ∧
      (request.adapted calls).after =
        .adapter request.after (if request.answer.isOk then calls.insert id () else calls) ∧
      (request.adapted calls).worldAfter = request.worldAfter ∧
      MetricMap.Retold request.collector.name request.report (request.adapted calls).report := by
  have words := request.retold_marker calls
  rcases answered : request.collector.beginCall request.thread id device request.world with ⟨error | done, after, world⟩
  · have told : (Collector.adapter request.collector calls).beginCall request.thread id device request.world = _ :=
      Collector.adapter_beginCall_error answered
    simp only [answer, Request.after, Request.worldAfter, respond, report, asked, adapted, answered, told]
    exact ⟨rfl, rfl, trivial, words error⟩
  · have told := Collector.adapter_beginCall_ok unknown answered
    simp only [answer, Request.after, Request.worldAfter, respond, report, asked, adapted, answered, told]
    exact ⟨trivial, rfl, trivial, .refl _ _⟩

theorem adapted_finish (asked : request.demand = .finish id) (isOpen : id ∈ calls.keys) :
    (request.adapted calls).after = .adapter request.after (calls.erase id) ∧
      (request.adapted calls).worldAfter = request.worldAfter ∧
      MetricMap.Retold request.collector.name request.report (request.adapted calls).report := by
  have words := request.retold_marker calls
  rcases answered : request.collector.endCall request.thread id request.world with ⟨error | values, after, world⟩
  · have told := Collector.adapter_endCall_error isOpen answered
    simp only [Request.after, Request.worldAfter, respond, report, asked, adapted, answered, told]
    exact ⟨trivial, trivial, words error⟩
  · have told := Collector.adapter_endCall_ok isOpen answered
    simp only [Request.after, Request.worldAfter, respond, report, asked, adapted, answered, told]
    exact ⟨trivial, trivial, .refl _ _⟩

end Request

namespace Session

/-- The collectors with the one at a position in an adapter, which has its own account of the open calls. -/
def adaptedAt (position : Nat) (calls : OpenCalls Unit) (collectors : List (Collector σ)) : List (Collector σ) :=
  collectors.modify position (.adapter · calls)

section Positions

variable (position : Nat) (calls : OpenCalls Unit) (collector : Collector σ) (rest : List (Collector σ))

theorem adaptedAt_nil : adaptedAt position calls ([] : List (Collector σ)) = [] := List.modify_nil _ _

theorem adaptedAt_zero : adaptedAt 0 calls (collector :: rest) = .adapter collector calls :: rest := rfl

theorem adaptedAt_succ :
    adaptedAt (position + 1) calls (collector :: rest) = collector :: adaptedAt position calls rest := rfl

end Positions

section Opening

variable {name : String} (thread : ThreadId) (id : CallId) (device : Device)

theorem openWith_retold {errors told : MetricMap} (same : MetricMap.Retold name errors told) (world : σ)
    (collectors : List (Collector σ)) :
    ∃ further, openWith thread id device told world collectors =
        { openWith thread id device errors world collectors with errors := further } ∧
      MetricMap.Retold name (openWith thread id device errors world collectors).errors further := by
  induction collectors generalizing errors told world with
  | nil => exact ⟨told, rfl, same⟩
  | cons collector rest ih =>
    let request : Request σ := ⟨collector, thread, .begin id device, world⟩
    obtain ⟨further, agreed, retold⟩ := ih (same.insertAll (.refl name request.report)) request.worldAfter
    refine ⟨further, ?_, ?_⟩
    · rw [openWith_cons, openWith_cons]
      simp only [Request.addTo, request] at agreed ⊢
      rw [agreed]
    · rw [openWith_cons]
      exact retold

theorem openWith_adaptedAt {position : Nat} {calls : OpenCalls Unit} (unknown : id ∉ calls.keys)
    {errors told : MetricMap} (same : MetricMap.Retold name errors told) (world : σ) (collectors : List (Collector σ))
    (named : ∀ collector, collectors[position]? = some collector → collector.name = name) :
    let opening := openWith thread id device errors world collectors
    ∃ further, openWith thread id device told world (adaptedAt position calls collectors) =
        ⟨adaptedAt position (if opening.began[position]? = some true then calls.insert id () else calls)
          opening.collectors, opening.began, further, opening.world⟩ ∧
      MetricMap.Retold name opening.errors further := by
  induction collectors generalizing errors told world position with
  | nil =>
    simp only [adaptedAt_nil, openWith]
    exact ⟨told, rfl, same⟩
  | cons collector rest ih =>
    let request : Request σ := ⟨collector, thread, .begin id device, world⟩
    cases position with
    | zero =>
      have here : collector.name = name := named collector rfl
      obtain ⟨answer, left, beyond, words⟩ := request.adapted_begin rfl unknown
      obtain ⟨further, agreed, retold⟩ := openWith_retold thread id device (same.insertAll (here ▸ words))
        request.worldAfter rest
      have agreed : openWith thread id device ((request.adapted calls).addTo told) (request.adapted calls).worldAfter
          rest = { openWith thread id device (request.addTo errors) request.worldAfter rest with errors := further } := by
        rw [beyond]
        exact agreed
      refine ⟨further, ?_, ?_⟩
      · rw [adaptedAt_zero, openWith_cons, openWith_cons]
        simp only [Request.adapted, request] at agreed left answer ⊢
        simp only [agreed, left, answer, List.getElem?_cons_zero, Option.some.injEq, adaptedAt_zero]
      · rw [openWith_cons]
        exact retold
    | succ position =>
      obtain ⟨further, agreed, retold⟩ :=
        ih (same.insertAll (.refl name request.report)) request.worldAfter fun other found => named other found
      refine ⟨further, ?_, ?_⟩
      · rw [adaptedAt_succ, openWith_cons, openWith_cons]
        simp only [Request.addTo, request] at agreed ⊢
        simp only [agreed, List.getElem?_cons_succ, adaptedAt_succ]
        rfl
      · rw [openWith_cons]
        exact retold

end Opening

theorem closeWith_nobody (thread : ThreadId) (call : OpenCall) (metrics : MetricMap) (world : σ)
    (collectors : List (Collector σ)) :
    closeWith thread call metrics world collectors [] = ⟨collectors, metrics, world⟩ := by
  cases collectors <;> rfl

section Closing

variable {name : String} (thread : ThreadId) {call other : OpenCall} (sameId : other.id = call.id)
  (sameThread : other.thread = call.thread)

include sameId sameThread

theorem closingDemand_of_same (collector : Collector σ) :
    closingDemand thread other collector = closingDemand thread call collector := by
  rw [closingDemand, closingDemand, sameId, sameThread]

theorem closeWith_retold {metrics told : MetricMap} (same : MetricMap.Retold name metrics told) (world : σ)
    (collectors : List (Collector σ)) (began : List Bool) :
    ∃ further, closeWith thread other told world collectors began =
        { closeWith thread call metrics world collectors began with metrics := further } ∧
      MetricMap.Retold name (closeWith thread call metrics world collectors began).metrics further := by
  induction collectors generalizing metrics told world began with
  | nil => exact ⟨told, rfl, same⟩
  | cons collector rest ih =>
    rcases began with _ | ⟨_ | _, began⟩
    · exact ⟨told, rfl, same⟩
    · obtain ⟨further, agreed, retold⟩ := ih same world began
      refine ⟨further, ?_, retold⟩
      simp only [closeWith, agreed]
    · let request : Request σ := ⟨collector, thread, closingDemand thread call collector, world⟩
      obtain ⟨further, agreed, retold⟩ := ih (same.insertAll (.refl name request.report)) request.worldAfter began
      refine ⟨further, ?_, ?_⟩
      · rw [closeWith_taken, closeWith_taken, closingDemand_of_same thread sameId sameThread]
        simp only [Request.addTo, request] at agreed ⊢
        rw [agreed]
      · rw [closeWith_taken]
        exact retold

theorem closeWith_adapter {collector : Collector σ} {calls : OpenCalls Unit} {metrics told : MetricMap}
    (same : MetricMap.Retold collector.name metrics told) (world : σ) (rest : List (Collector σ)) (began : List Bool)
    (isOpen : call.id ∈ calls.keys) (finishes : closingDemand thread call collector = .finish call.id) :
    let closing := closeWith thread call metrics world (collector :: rest) (true :: began)
    ∃ further, closeWith thread other told world (.adapter collector calls :: rest) (true :: began) =
        ⟨adaptedAt 0 (calls.erase call.id) closing.collectors, further, closing.world⟩ ∧
      MetricMap.Retold collector.name closing.metrics further := by
  let request : Request σ := ⟨collector, thread, closingDemand thread call collector, world⟩
  obtain ⟨left, beyond, words⟩ := request.adapted_finish finishes isOpen
  obtain ⟨further, agreed, retold⟩ := closeWith_retold thread sameId sameThread (same.insertAll words)
    request.worldAfter rest began
  -- An adapter is bound to no thread, so it is always asked to end the call.
  have free : closingDemand thread call (.adapter collector calls) = closingDemand thread call collector := by
    rw [finishes, closingDemand, if_neg]
    exact fun skips => Bool.false_ne_true skips.2
  have agreed : closeWith thread other ((request.adapted calls).addTo told) (request.adapted calls).worldAfter rest
      began = { closeWith thread call (request.addTo metrics) request.worldAfter rest began with
        metrics := further } := by
    rw [beyond]
    exact agreed
  refine ⟨further, ?_, ?_⟩
  · rw [closeWith_taken, closeWith_taken, closingDemand_of_same thread sameId sameThread, free]
    simp only [Request.adapted, request] at agreed left ⊢
    simp only [agreed, left, adaptedAt_zero]
  · rw [closeWith_taken]
    exact retold

theorem closeWith_adaptedAt {position : Nat} {calls : OpenCalls Unit} {metrics told : MetricMap}
    (same : MetricMap.Retold name metrics told) (world : σ) (collectors : List (Collector σ)) (began : List Bool)
    (isOpen : began[position]? = some true → call.id ∈ calls.keys)
    (usual : ∀ collector, collectors[position]? = some collector → collector.name = name ∧
      (began[position]? = some true → closingDemand thread call collector = .finish call.id)) :
    let closing := closeWith thread call metrics world collectors began
    ∃ further, closeWith thread other told world (adaptedAt position calls collectors) began =
        ⟨adaptedAt position (if began[position]? = some true then calls.erase call.id else calls) closing.collectors,
          further, closing.world⟩ ∧
      MetricMap.Retold name closing.metrics further := by
  induction collectors generalizing metrics told world position began with
  | nil =>
    simp only [adaptedAt_nil, closeWith]
    exact ⟨told, rfl, same⟩
  | cons collector rest ih =>
    cases began with
    | nil =>
      simp only [closeWith_nobody, List.getElem?_nil, reduceCtorEq, if_false]
      exact ⟨told, rfl, same⟩
    | cons taken began =>
      cases position with
      | zero =>
        obtain ⟨rfl, finishes⟩ := usual collector rfl
        simp only [List.getElem?_cons_zero, Option.some.injEq, adaptedAt_zero] at isOpen finishes ⊢
        cases taken with
        | false =>
          obtain ⟨further, agreed, retold⟩ := closeWith_retold thread sameId sameThread same world rest began
          refine ⟨further, ?_, retold⟩
          simp only [closeWith, agreed, Bool.false_eq_true, if_false, adaptedAt_zero]
        | true =>
          simp only [if_true]
          exact closeWith_adapter thread sameId sameThread same world rest began (isOpen rfl) (finishes rfl)
      | succ position =>
        simp only [List.getElem?_cons_succ, adaptedAt_succ] at isOpen usual ⊢
        cases taken with
        | false =>
          obtain ⟨further, agreed, retold⟩ := ih same world began isOpen usual
          refine ⟨further, ?_, retold⟩
          simp only [closeWith, agreed, adaptedAt_succ]
        | true =>
          let request : Request σ := ⟨collector, thread, closingDemand thread call collector, world⟩
          obtain ⟨further, agreed, retold⟩ :=
            ih (same.insertAll (.refl name request.report)) request.worldAfter began isOpen usual
          refine ⟨further, ?_, ?_⟩
          · rw [closeWith_taken, closeWith_taken, closingDemand_of_same thread sameId sameThread]
            simp only [Request.addTo, request] at agreed ⊢
            simp only [agreed, adaptedAt_succ]
          · rw [closeWith_taken]
            exact retold

end Closing

/-- The adapter at a position has those of the calls open that it took in. -/
def Tracks (position : Nat) (calls : OpenCalls Unit) (frames : List OpenCall) : Prop :=
  ∀ id, id ∈ calls.keys ↔ ∃ call ∈ frames, call.id = id ∧ call.began[position]? = some true

theorem Tracks.open {position : Nat} {calls : OpenCalls Unit} {frames : List OpenCall}
    (tracks : Tracks position calls frames) (call : OpenCall) :
    Tracks position (if call.began[position]? = some true then calls.insert call.id () else calls)
      (call :: frames) := by
  intro id
  rw [List.exists_mem_cons_iff, ← tracks id]
  split
  next taken => rw [SortedMap.mem_keys_insert, eq_comm, and_iff_left taken]
  next untaken => simp only [untaken, and_false, false_or]

theorem Tracks.close {position : Nat} {calls : OpenCalls Unit} {frames : List OpenCall}
    (tracks : Tracks position calls frames) (descending : CallStacks.Descending frames) {call : OpenCall}
    (member : call ∈ frames) :
    Tracks position (if call.began[position]? = some true then calls.erase call.id else calls)
      (frames.filter fun frame => frame.id ≠ call.id) := by
  intro id
  have others : (∃ frame ∈ frames.filter (fun frame => frame.id ≠ call.id), frame.id = id ∧
      frame.began[position]? = some true) ↔ id ≠ call.id ∧ id ∈ calls.keys := by
    rw [tracks id]
    constructor
    · rintro ⟨frame, kept, rfl, taken⟩
      obtain ⟨within, apart⟩ := List.mem_filter.mp kept
      exact ⟨by simpa using apart, frame, within, rfl, taken⟩
    · rintro ⟨apart, frame, within, rfl, taken⟩
      exact ⟨frame, List.mem_filter.mpr ⟨within, by simpa using apart⟩, rfl, taken⟩
  rw [others]
  split
  next taken => exact SortedMap.mem_keys_erase
  next untaken =>
    refine (and_iff_right_of_imp ?_).symm
    rintro isOpen rfl
    obtain ⟨frame, within, same, taken⟩ := (tracks call.id).mp isOpen
    exact untaken (descending.eq_of_id within member same ▸ taken)

theorem Tracks.close_head {position : Nat} {calls : OpenCalls Unit} {call : OpenCall} {rest : List OpenCall}
    (tracks : Tracks position calls (call :: rest)) (descending : CallStacks.Descending (call :: rest)) :
    Tracks position (if call.began[position]? = some true then calls.erase call.id else calls) rest := by
  have left : (call :: rest).filter (fun frame => frame.id ≠ call.id) = rest := by
    rw [List.filter_cons, if_neg (by simp)]
    refine List.filter_eq_self.mpr fun frame within => ?_
    simpa using ((List.pairwise_cons.mp descending.apart).1 frame within).symm
  exact left ▸ tracks.close descending List.mem_cons_self

end Session

def OpenCall.Retold (name : String) (plain told : OpenCall) : Prop :=
  ∃ errors, told = { plain with errors } ∧ MetricMap.Retold name plain.errors errors

namespace Session

/-- Two sessions that run alike, one of them with the collector `own` in an adapter. -/
structure Alike (own : Collector σ) (position : Nat) (plain told : Session σ) : Prop where
  phase : plain.phase = .running ∧ told.phase = .running
  nextId : told.nextId = plain.nextId
  ended : List.Forall₂ (CallRecord.Retold own.name) plain.ended told.ended
  kept : ∀ collector, plain.collectors[position]? = some collector → collector.cleared = own.cleared
  calls : ∃ frames others calls, plain.pending.Stacked frames ∧ told.pending.Stacked others ∧
    List.Forall₂ (OpenCall.Retold own.name) frames others ∧
    (∀ frame ∈ frames, frame.id.number < plain.nextId.number) ∧
    told.collectors = adaptedAt position calls plain.collectors ∧ Tracks position calls frames

theorem on_retold {name : String} {frames others : List OpenCall}
    (same : List.Forall₂ (OpenCall.Retold name) frames others) {pending told : CallStacks}
    (stacked : pending.Stacked frames) (stacked' : told.Stacked others) (thread : ThreadId) :
    List.Forall₂ (OpenCall.Retold name) (pending.on thread) (told.on thread) := by
  rw [stacked.on_eq, stacked'.on_eq]
  refine List.rel_filter ?_ same
  rintro frame _ ⟨errors, rfl, -⟩
  exact Iff.rfl

theorem ids_retold {name : String} {frames others : List OpenCall}
    (same : List.Forall₂ (OpenCall.Retold name) frames others) : others.map (·.id) = frames.map (·.id) := by
  induction same with
  | nil => rfl
  | cons top _ ih =>
    obtain ⟨errors, rfl, -⟩ := top
    rw [List.map_cons, List.map_cons, ih]

theorem kept_of_cleared {own : Collector σ} {position : Nat} {before after : List (Collector σ)}
    (same : after.map Collector.cleared = before.map Collector.cleared)
    (kept : ∀ collector, before[position]? = some collector → collector.cleared = own.cleared) :
    ∀ collector, after[position]? = some collector → collector.cleared = own.cleared := by
  intro collector found
  have here := congrArg (·[position]?) same
  simp only [List.getElem?_map, found, Option.map_some] at here
  obtain ⟨old, there, cleared⟩ := Option.map_eq_some_iff.mp here.symm
  rw [← cleared, kept old there]

theorem named_of_kept {own : Collector σ} {position : Nat} {collectors : List (Collector σ)}
    (kept : ∀ collector, collectors[position]? = some collector → collector.cleared = own.cleared) :
    ∀ collector, collectors[position]? = some collector → collector.name = own.name := by
  intro collector found
  rw [← Collector.name_cleared, kept collector found, Collector.name_cleared]

theorem opening_retold {own : Collector σ} {position : Nat} {plain told : Session σ} {calls : OpenCalls Unit}
    (kept : ∀ collector, plain.collectors[position]? = some collector → collector.cleared = own.cleared)
    (collectors : told.collectors = adaptedAt position calls plain.collectors) (nextId : told.nextId = plain.nextId)
    (unknown : plain.nextId ∉ calls.keys) (thread : ThreadId) (device : Device) (world : σ) :
    let opening := plain.opening thread device world
    ∃ further, told.opening thread device world =
        ⟨adaptedAt position (if opening.began[position]? = some true then calls.insert plain.nextId () else calls)
          opening.collectors, opening.began, further, opening.world⟩ ∧
      MetricMap.Retold own.name opening.errors further := by
  obtain ⟨further, agreed, retold⟩ := openWith_adaptedAt thread plain.nextId device unknown (.refl own.name .empty)
    world plain.collectors (named_of_kept kept)
  refine ⟨further, ?_, retold⟩
  rw [Session.opening, collectors, nextId]
  exact agreed

theorem closing_retold {own : Collector σ} {position : Nat} {plain told : Session σ} {calls : OpenCalls Unit}
    {frames : List OpenCall}
    (kept : ∀ collector, plain.collectors[position]? = some collector → collector.cleared = own.cleared)
    (collectors : told.collectors = adaptedAt position calls plain.collectors) (tracks : Tracks position calls frames)
    {call : OpenCall} (member : call ∈ frames) {errors : MetricMap}
    (words : MetricMap.Retold own.name call.errors errors) {thread : ThreadId}
    (usual : own.threadBound = true → call.began[position]? = some true → call.thread = thread) (world : σ) :
    ∃ further, told.closing thread { call with errors } world =
        ⟨adaptedAt position (if call.began[position]? = some true then calls.erase call.id else calls)
          (plain.closing thread call world).collectors, further, (plain.closing thread call world).world⟩ ∧
      MetricMap.Retold own.name (plain.closing thread call world).metrics further := by
  have isOpen (taken : call.began[position]? = some true) : call.id ∈ calls.keys :=
    (tracks call.id).mpr ⟨call, member, rfl, taken⟩
  have finishes : ∀ collector, plain.collectors[position]? = some collector → collector.name = own.name ∧
      (call.began[position]? = some true → closingDemand thread call collector = .finish call.id) := by
    intro collector found
    refine ⟨named_of_kept kept collector found, fun taken => ?_⟩
    rw [closingDemand, if_neg]
    rintro ⟨foreign, bound⟩
    rw [← Collector.threadBound_cleared, kept collector found, Collector.threadBound_cleared] at bound
    exact foreign (usual bound taken)
  have sameId : ({ call with errors } : OpenCall).id = call.id := rfl
  have sameThread : ({ call with errors } : OpenCall).thread = call.thread := rfl
  obtain ⟨further, agreed, retold⟩ := closeWith_adaptedAt thread sameId sameThread words world plain.collectors
    call.began isOpen finishes
  refine ⟨further, ?_, retold⟩
  rw [closing, collectors]
  exact agreed

namespace Alike

variable {own : Collector σ} {position : Nat} {plain told : Session σ}

theorem refusal?_eq (alike : Alike own position plain told) (event : Event σ α) :
    told.refusal? event = plain.refusal? event := by
  obtain ⟨frames, others, calls, stacked, stacked', same, -⟩ := alike.calls
  have tops (thread : ThreadId) (id : CallId) : told.endRefusal? thread id = plain.endRefusal? thread id := by
    have onThread := on_retold same stacked stacked' thread
    unfold endRefusal?
    generalize plain.pending.on thread = mine at onThread ⊢
    generalize told.pending.on thread = theirs at onThread ⊢
    cases onThread with
    | nil => rfl
    | cons top _ =>
      obtain ⟨errors, rfl, -⟩ := top
      rfl
  cases event <;>
    simp only [refusal?, alike.phase.1, alike.phase.2, ensureRunning_of_running alike.phase.1,
      ensureRunning_of_running alike.phase.2, Event.ending?, Option.bind_some, tops]

theorem begun (alike : Alike own position plain told) (thread : ThreadId) (name : String) (device : Device) (world : σ) :
    (told.opening thread device world).world = (plain.opening thread device world).world ∧
      Alike own position (plain.begun thread name device world) (told.begun thread name device world) := by
  obtain ⟨phase, nextId, ended, kept, frames, others, calls, stacked, stacked', same, below, collectors, tracks⟩ := alike
  have unknown : plain.nextId ∉ calls.keys := by
    intro isOpen
    obtain ⟨frame, within, own, -⟩ := (tracks plain.nextId).mp isOpen
    have := below frame within
    rw [own] at this
    exact Nat.lt_irrefl _ this
  obtain ⟨further, opened, retold⟩ := opening_retold kept collectors nextId unknown thread device world
  have depth : (told.pending.on thread).length = (plain.pending.on thread).length :=
    (on_retold same stacked stacked' thread).length_eq.symm
  have head : told.nextCall thread name device world =
      { plain.nextCall thread name device world with errors := further } := by
    simp only [nextCall, opened, depth, nextId]
  have older : ∀ frame ∈ others, frame.id.number < told.nextId.number := by
    intro frame within
    have known : frame.id ∈ frames.map (·.id) := ids_retold same ▸ List.mem_map_of_mem within
    obtain ⟨other, here, id⟩ := List.mem_map.mp known
    rw [← id, nextId]
    exact below other here
  have cleared : (plain.opening thread device world).collectors.map Collector.cleared =
      plain.collectors.map Collector.cleared := cleared_openWith world plain.collectors
  refine ⟨by rw [opened], phase, ?_, ended, kept_of_cleared cleared kept, ?_⟩
  · simp only [Session.begun, nextId]
  · refine ⟨plain.nextCall thread name device world :: frames, told.nextCall thread name device world :: others, _,
      stacked.push (plain.nextCall thread name device world) below,
      stacked'.push (told.nextCall thread name device world) older, .cons ⟨further, head, retold⟩ same, ?_, ?_,
      tracks.open (plain.nextCall thread name device world)⟩
    · intro frame within
      rcases List.mem_cons.mp within with rfl | within
      · exact Nat.lt_succ_self _
      · exact Nat.lt_succ_of_lt (below frame within)
    · simp only [Session.begun, opened]
      rfl

theorem popped (alike : Alike own position plain told) {thread : ThreadId} {call : OpenCall} {around : List OpenCall}
    (top : plain.pending.on thread = call :: around) (world : σ) :
    ∃ other rest, told.pending.on thread = other :: rest ∧ other.id = call.id ∧
      (told.closing thread other world).world = (plain.closing thread call world).world ∧
      Alike own position (plain.popped thread call around world) (told.popped thread other rest world) := by
  obtain ⟨phase, nextId, ended, kept, frames, others, calls, stacked, stacked', same, below, collectors, tracks⟩ := alike
  have onThread := on_retold same stacked stacked' thread
  rw [top] at onThread
  obtain ⟨other, rest, retold, further, top'⟩ := List.forall₂_cons_left_iff.mp onThread
  obtain ⟨errors, rfl, words⟩ := retold
  obtain ⟨member, here⟩ := stacked.mem_on.mp (top ▸ List.mem_cons_self)
  obtain ⟨metrics, closed, retold⟩ := closing_retold kept collectors tracks member words (fun _ _ => here) world
  have cleared : (plain.closing thread call world).collectors.map Collector.cleared =
      plain.collectors.map Collector.cleared := cleared_closeWith world plain.collectors call.began
  refine ⟨_, rest, top', rfl, by rw [closed], phase, nextId, ?_, kept_of_cleared cleared kept, ?_⟩
  · refine .cons ⟨rfl, rfl, rfl, ?_⟩ ended
    simp only [recordOf, closed]
    exact retold
  · refine ⟨_, _, _, stacked.pop top, stacked'.pop top', ?_, ?_, ?_, tracks.close stacked.descending member⟩
    · refine List.rel_filter ?_ same
      rintro frame _ ⟨errors, rfl, -⟩
      exact Iff.rfl
    · exact fun frame within => below frame (List.mem_filter.mp within).1
    · simp only [Session.popped, closed]

end Alike

theorem truncate_of_closing {thread : ThreadId} {session : Session σ} {call : OpenCall} {world : σ}
    {closing : Closing σ} (closed : session.closing thread call world = closing) (rest : List OpenCall) :
    truncate thread session world (call :: rest) =
      truncate thread
        { session with
          collectors := closing.collectors
          ended := ⟨call.name, call.device, call.depth, markTruncated closing.metrics⟩ :: session.ended }
        closing.world rest := by
  subst closed
  rfl

theorem truncate_retold {own : Collector σ} {position : Nat} {calls : OpenCalls Unit} {frames others : List OpenCall}
    (same : List.Forall₂ (OpenCall.Retold own.name) frames others) (descending : CallStacks.Descending frames)
    {thread : ThreadId}
    (usual : own.threadBound = true → ∀ call ∈ frames, call.began[position]? = some true → call.thread = thread)
    (plain told : Session σ) (ended : List.Forall₂ (CallRecord.Retold own.name) plain.ended told.ended)
    (kept : ∀ collector, plain.collectors[position]? = some collector → collector.cleared = own.cleared)
    (collectors : told.collectors = adaptedAt position calls plain.collectors) (tracks : Tracks position calls frames)
    (world : σ) :
    (truncate thread told world others).2 = (truncate thread plain world frames).2 ∧
      List.Forall₂ (CallRecord.Retold own.name) (truncate thread plain world frames).1.ended
        (truncate thread told world others).1.ended := by
  induction same generalizing plain told calls world with
  | nil => exact ⟨rfl, ended⟩
  | @cons call _ rest restTold first _ ih =>
    obtain ⟨errors, rfl, words⟩ := first
    obtain ⟨metrics, closed, retold⟩ := closing_retold kept collectors tracks List.mem_cons_self words
      (fun bound => usual bound call List.mem_cons_self) world
    -- Closing the call keeps what the induction needs of the collectors: which they are, and what the adapter has open.
    have cleared : (plain.closing thread call world).collectors.map Collector.cleared =
        plain.collectors.map Collector.cleared := cleared_closeWith world plain.collectors call.began
    have record : CallRecord.Retold own.name (plain.close thread call true world).1
        ⟨call.name, call.device, call.depth, markTruncated metrics⟩ := ⟨rfl, rfl, rfl, retold.insert _ _⟩
    rw [truncate_of_closing closed]
    exact ih (List.pairwise_cons.mp descending).2
      (fun bound frame within => usual bound frame (List.mem_cons_of_mem _ within)) _ _ (.cons record ended)
      (kept_of_cleared cleared kept) rfl (tracks.close_head descending) _

/-- Every event goes the same way for both sessions as long as they run. -/
theorem alike_next (act : α → σ → σ) {own : Collector σ} {position : Nat} {plain told : Run σ α}
    (alike : plain.session.phase ≠ .finalized →
      Alike own position plain.session told.session ∧ told.world = plain.world)
    (event : Event σ α) (going : (plain.next act event).session.phase ≠ .finalized) :
    Alike own position (plain.next act event).session (told.next act event).session ∧
      (told.next act event).world = (plain.next act event).world := by
  have step := performs act plain.session plain.world event
  unfold Performs at step
  simp only [Run.next] at going ⊢
  generalize perform act plain.session plain.world event = performed at step going ⊢
  obtain ⟨outcome, session, world⟩ := performed
  simp only at step going ⊢
  generalize plain.session.requests plain.world event = requests at step
  cases step with
  | refused reason =>
    obtain ⟨alike, same⟩ := alike going
    rw [perform_refused act ((alike.refusal?_eq event).trans reason)]
    exact ⟨alike, same⟩
  | started collectors idle =>
    obtain ⟨alike, -⟩ := alike (by simp [idle])
    exact absurd (idle.symm.trans alike.phase.1) (by decide)
  | @began _ thread name device asked running =>
    obtain ⟨alike, same⟩ := alike (by simp [running])
    obtain ⟨worlds, begun⟩ := alike.begun thread name device plain.world
    rw [perform_began act alike.phase.2 told.world asked, same]
    exact ⟨begun, worlds⟩
  | @ended _ thread call around asked running top =>
    obtain ⟨alike, same⟩ := alike (by simp [running])
    obtain ⟨other, rest, top', id, worlds, popped⟩ := alike.popped top plain.world
    rw [perform_ended act alike.phase.2 told.world (id ▸ asked) top', same]
    exact ⟨popped, worlds⟩
  | finalized thread running => exact absurd (truncated_phase _ _ _ _) going
  | passed action =>
    obtain ⟨alike, same⟩ := alike going
    simp only [perform, same]
    exact ⟨alike, trivial⟩

theorem alike_play (act : α → σ → σ) {own : Collector σ} {position : Nat} (events : List (Event σ α))
    {plain told : Run σ α}
    (alike : plain.session.phase ≠ .finalized →
      Alike own position plain.session told.session ∧ told.world = plain.world)
    (going : (plain.play act events).session.phase ≠ .finalized) :
    Alike own position (plain.play act events).session (told.play act events).session ∧
      (told.play act events).world = (plain.play act events).world := by
  induction events generalizing plain told with
  | nil => exact alike going
  | cons event rest ih => exact ih (alike_next act alike event) going

theorem alike_started (act : α → σ → σ) (config : SessionConfig) (world : σ) {collectors : List (Collector σ)}
    {position : Nat} {own : Collector σ} (here : collectors[position]? = some own) :
    Alike own position ((Run.fresh config world).next act (.start collectors)).session
      ((Run.fresh config world).next act (.start (collectors.modify position .wrapping))).session where
  phase := ⟨rfl, rfl⟩
  nextId := rfl
  ended := .nil
  kept collector found := by rw [Option.some.inj (found.symm.trans here)]
  calls := by
    refine ⟨[], [], .empty, CallStacks.stacked_empty, CallStacks.stacked_empty, .nil, nofun, rfl, fun id => ?_⟩
    simp [SortedMap.keys, SortedMap.empty]

theorem Alike.finalize {own : Collector σ} {position : Nat} {plain told : Session σ}
    (alike : Alike own position plain told) {thread : ThreadId}
    (usual : own.threadBound = true → ∀ call ∈ plain.pending.all, call.began[position]? = some true →
      call.thread = thread) (world : σ) :
    ∃ report after retold afterTold worldAfter, plain.finalize thread world = .ok (report, after, worldAfter) ∧
      told.finalize thread world = .ok (retold, afterTold, worldAfter) ∧ report.Retold own.name retold := by
  obtain ⟨phase, -, ended, kept, frames, others, calls, stacked, stacked', same, -, collectors, tracks⟩ := alike
  have found : newestFirst plain.pending.all = frames := stacked.newestFirst_eq (.refl _)
  have found' : newestFirst told.pending.all = others := stacked'.newestFirst_eq (.refl _)
  obtain ⟨worlds, records⟩ := truncate_retold same stacked.descending
    (fun bound call within => usual bound call (stacked.mem_all.mpr within))
    { plain with phase := .finalized, pending := .empty } { told with phase := .finalized, pending := .empty }
    ended kept collectors tracks world
  have finished := finalizeFrom_of_running phase.1 plain.pending.all thread world
  have finished' := finalizeFrom_of_running phase.2 told.pending.all thread world
  rw [Session.truncated, found] at finished
  rw [Session.truncated, found', worlds] at finished'
  exact ⟨_, _, _, _, _, finished, finished', Report.ofCalls_retold (List.rel_reverse records)⟩

/--
A collector may be put into an adapter without any difference but in the words of its errors, unless it is bound
to threads and has taken in a call that is left open on a thread other than that on which the session is finalized.
-/
theorem adapters_are_transparent (act : α → σ → σ) (config : SessionConfig) (collectors : List (Collector σ))
    {position : Nat} {own : Collector σ} (here : collectors[position]? = some own) (world : σ)
    (events : List (Event σ α)) (thread : ThreadId) :
    let plain : Run σ α := (Run.fresh config world).play act (.start collectors :: events)
    let told : Run σ α := (Run.fresh config world).play act (.start (collectors.modify position .wrapping) :: events)
    plain.session.phase = .running →
      (own.threadBound = true → ∀ call ∈ plain.session.pending.all, call.began[position]? = some true →
        call.thread = thread) →
      ∃ report after retold afterTold worldAfter,
        plain.session.finalize thread plain.world = .ok (report, after, worldAfter) ∧
          told.session.finalize thread told.world = .ok (retold, afterTold, worldAfter) ∧
          report.Retold own.name retold := by
  intro plain told running usual
  have going : plain.session.phase ≠ .finalized := by
    rw [running]
    decide
  obtain ⟨alike, worlds⟩ := alike_play act events (fun _ => ⟨alike_started act config world here, rfl⟩) going
  obtain ⟨report, after, retold, afterTold, worldAfter, finished, finished', same⟩ := alike.finalize usual plain.world
  refine ⟨report, after, retold, afterTold, worldAfter, finished, ?_, same⟩
  rw [show told.world = plain.world from worlds]
  exact finished'

def loom : Backend Bool where
  name := "loom"
  perThread := true
  available _ _ := ["picks"]
  read _ _ names steady := (if steady then .ok (names.map fun _ => 0) else .error (.failed "torn"), steady)

def loomCollector : Collector Bool := .hardware ⟨loom, .ofList [(.cpu 0, ["picks"])], .empty⟩

def weaving (last : ThreadId) : List (Event Bool Bool) :=
  [.beginCall ⟨0⟩ "torn" (.cpu 0), .outside false, .endCall ⟨0⟩ ⟨1⟩, .outside true, .beginCall last "left" (.cpu 0)]

def woven (collector : Collector Bool) (last : ThreadId) : Run Bool Bool :=
  (Run.fresh (.named "run") true).play (fun steady _ => steady) (.start [collector] :: weaving last)

theorem adapters_are_transparent_failing :
    (woven loomCollector ⟨0⟩).session.phase = .running ∧
      (∀ call ∈ (woven loomCollector ⟨0⟩).session.pending.all, call.began[0]? = some true → call.thread = ⟨0⟩) ∧
      (woven loomCollector ⟨0⟩).session.ended.map (·.metric? "loom counters error") =
        [some (.text "collector `loom counters` failed: torn")] ∧
      (woven (.wrapping loomCollector) ⟨0⟩).session.ended.map (·.metric? "loom counters error") =
        [some (.text (retold "loom counters" "collector `loom counters` failed: torn"))] ∧
      ∃ report after retold afterTold worldAfter,
        (woven loomCollector ⟨0⟩).session.finalize ⟨0⟩ (woven loomCollector ⟨0⟩).world =
            .ok (report, after, worldAfter) ∧
          (woven (.wrapping loomCollector) ⟨0⟩).session.finalize ⟨0⟩ (woven (.wrapping loomCollector) ⟨0⟩).world =
            .ok (retold, afterTold, worldAfter) ∧
          report.Retold "loom counters" retold := by
  have own : ∀ call ∈ (woven loomCollector ⟨0⟩).session.pending.all, call.began[0]? = some true →
      call.thread = ⟨0⟩ := by
    intro call isOpen _
    have threads : (woven loomCollector ⟨0⟩).session.pending.all.map (·.thread) = [⟨0⟩] := rfl
    exact List.mem_singleton.mp (threads ▸ List.mem_map_of_mem isOpen)
  have here : [loomCollector][0]? = some loomCollector := rfl
  refine ⟨rfl, own, rfl, rfl, ?_⟩
  exact adapters_are_transparent (fun steady _ => steady) (.named "run") [loomCollector] here true (weaving ⟨0⟩) ⟨0⟩
    rfl fun _ => own

theorem newestFirst_woven (collector : Collector Bool) :
    newestFirst (woven collector ⟨1⟩).session.pending.all = (woven collector ⟨1⟩).session.pending.all := by
  have alone : (woven collector ⟨1⟩).session.pending.all.map (·.id) = [⟨2⟩] := rfl
  have single := List.pairwise_singleton (fun later earlier : CallId => earlier.number < later.number) ⟨2⟩
  rw [← alone] at single
  exact CallStacks.newestFirst_of_perm (List.pairwise_map.mp single) (.refl _)

/-- An adapter does not skip a call that its collector would: the collector marks the call, the adapter counts it. -/
theorem adapters_count_foreign_calls :
    ∃ report after retold afterTold worldAfter,
      (woven loomCollector ⟨1⟩).session.finalize ⟨0⟩ (woven loomCollector ⟨1⟩).world =
          .ok (report, after, worldAfter) ∧
        (woven (.wrapping loomCollector) ⟨1⟩).session.finalize ⟨0⟩ (woven (.wrapping loomCollector) ⟨1⟩).world =
          .ok (retold, afterTold, worldAfter) ∧
        report.calls.map (·.metrics.keys) = [["loom counters error"], ["loom counters error", "truncated"]] ∧
        retold.calls.map (·.metrics.keys) = [["loom counters error"], ["picks", "truncated"]] ∧
        ¬ report.Retold "loom counters" retold := by
  have running (collector : Collector Bool) : (woven collector ⟨1⟩).session.phase = .running := rfl
  have plain := finalizeFrom_of_running (running loomCollector) (woven loomCollector ⟨1⟩).session.pending.all ⟨0⟩
    (woven loomCollector ⟨1⟩).world
  have told := finalizeFrom_of_running (running (.wrapping loomCollector))
    (woven (.wrapping loomCollector) ⟨1⟩).session.pending.all ⟨0⟩ (woven (.wrapping loomCollector) ⟨1⟩).world
  rw [truncated, newestFirst_woven] at plain told
  refine ⟨_, _, _, _, _, plain, told, rfl, rfl, ?_⟩
  intro same
  exact absurd same.names (by decide)

end Session

end CallProfile
