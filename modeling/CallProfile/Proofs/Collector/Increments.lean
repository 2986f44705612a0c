import CallProfile.Proofs.Collector.Service
import CallProfile.Proofs.Session.Readings

namespace CallProfile

variable {σ : Type}

namespace SortedMap

variable {κ α : Type} [Ord κ] [Std.TransOrd κ] [Std.LawfulEqOrd κ] [DecidableEq κ]

theorem get?_insertAll_of_absent (map : SortedMap κ α) {entries : List (κ × α)} {key : κ}
    (absent : key ∉ entries.map (·.1)) : (map.insertAll entries).get? key = map.get? key := by
  induction entries generalizing map with
  | nil => rfl
  | cons first rest ih =>
    rw [List.map_cons, List.mem_cons, not_or] at absent
    rw [insertAll, List.foldl_cons, ← insertAll, ih _ absent.2, get?_insert, if_neg absent.1]

theorem get?_insertAll_of_last (map : SortedMap κ α) {entries : List (κ × α)} {position : Nat} {key : κ} {value : α}
    (here : entries[position]? = some (key, value)) (last : key ∉ (entries.drop (position + 1)).map (·.1)) :
    (map.insertAll entries).get? key = some value := by
  induction entries generalizing map position with
  | nil => simp at here
  | cons first rest ih =>
    rw [insertAll, List.foldl_cons, ← insertAll]
    cases position with
    | zero =>
      cases here
      rw [get?_insertAll_of_absent _ (by simpa using last), get?_insert_self]
    | succ position => exact ih _ (by simpa using here) (by simpa using last)

theorem mem_keys_insertAll (map : SortedMap κ α) (entries : List (κ × α)) (key : κ) :
    key ∈ (map.insertAll entries).keys ↔ key ∈ entries.map (·.1) ∨ key ∈ map.keys := by
  induction entries generalizing map with
  | nil => simp [insertAll]
  | cons first rest ih =>
    rw [insertAll, List.foldl_cons, ← insertAll, ih, mem_keys_insert, List.map_cons, List.mem_cons]
    exact or_left_comm.trans or_assoc.symm

theorem erase_of_absent {map : SortedMap κ α} {key : κ} (absent : map.get? key = none) : map.erase key = map := by
  refine ext_get? fun other => ?_
  rw [get?_erase]
  split
  next here => rw [here, absent]
  next => rfl

end SortedMap

/-- The request by which a call is open: the last one that began it with success, if it has not ended since. -/
def opening? : List (Request σ) → CallId → Option (Request σ)
  | [], _ => none
  | request :: past, id =>
    match request.demand with
    | .begin _ _ => if request.takesIn id then some request else opening? past id
    | .finish other | .discard other => if id = other then none else opening? past id

theorem isSome_opening? (asked : List (Request σ)) (id : CallId) : (opening? asked id).isSome = stillOpen asked id := by
  induction asked with
  | nil => rfl
  | cons request past ih =>
    rw [opening?, stillOpen, ← ih]
    cases demand : request.demand with
    | begin other device =>
      simp only [Request.takesIn, demand]
      cases decide (id = other) && request.answer.isOk <;> rfl
    | finish other | discard other => by_cases own : id = other <;> simp [own]

theorem mem_of_opening? {asked : List (Request σ)} {id : CallId} {opening : Request σ}
    (opened : opening? asked id = some opening) : opening ∈ asked := by
  induction asked with
  | nil => cases opened
  | cons request past ih =>
    rw [opening?] at opened
    split at opened <;> split at opened
    next => exact List.mem_cons.mpr (.inl (Option.some.inj opened).symm)
    next => exact List.mem_cons_of_mem _ (ih opened)
    next => cases opened
    next => exact List.mem_cons_of_mem _ (ih opened)
    next => cases opened
    next => exact List.mem_cons_of_mem _ (ih opened)

namespace Request

def device? (request : Request σ) : Option Device :=
  match request.demand with
  | .begin _ device => some device
  | .finish _ | .discard _ => none

/-- What has to be read at a request: the counters of the device on which its call begins or began. -/
def due (plan : CounterPlan) (past : List (Request σ)) (request : Request σ) : Option Reading :=
  let place :=
    match request.demand with
    | .begin _ device => some device
    | .finish id => (opening? past id).bind device?
    | .discard _ => none
  place.bind fun device => (plan.get? device).map (⟨request.thread, device, ·⟩)

def given (request : Request σ) : Except ProfileError MetricMap :=
  (request.collector.endCall request.thread request.demand.id request.world).1

end Request

def Reading.Answered (backend : Backend σ) (reading : Reading) (world : σ) (values : List Count) : Prop :=
  (backend.read reading.thread reading.device reading.counters world).1 = .ok values ∧
    values.length = reading.counters.length

/-- Metrics that hold how far each counter rose; of a counter that is listed twice the last place counts. -/
structure Rises (counters : List String) (before after : List Count) (metrics : MetricMap) : Prop where
  names : ∀ name, name ∈ metrics.keys ↔ name ∈ counters
  rise : ∀ (position : Nat) (counter : String) (first last : Count), counters[position]? = some counter →
    counter ∉ counters.drop (position + 1) → before[position]? = some first → after[position]? = some last →
    ∃ number, metrics.get? counter = some (.count number) ∧ number.toNat = last.toNat - first.toNat

/-- What is given of a call on a device, begun at one request and ended at another: the rises of its counters. -/
def Request.Gives (backend : Backend σ) (plan : CounterPlan) (device : Device) (opening closing : Request σ)
    (metrics : MetricMap) : Prop :=
  match plan.get? device with
  | none => metrics = .empty
  | some counters => ∃ before after,
    (Reading.mk opening.thread device counters).Answered backend opening.world before ∧
      (Reading.mk closing.thread device counters).Answered backend closing.world after ∧
      Rises counters before after metrics

namespace HardwareCollector

theorem rises_growths {counters : List String} {before after : List Count} (same : before.length = counters.length)
    (same' : after.length = counters.length) : Rises counters before after (growths counters before after) := by
  have names : ((counters.zip (before.zip after)).map fun entry =>
      (entry.1, Metric.count (Count.growth entry.2.1 entry.2.2))).map (·.1) = counters := by
    rw [List.map_map]
    exact List.map_fst_zip (by rw [List.length_zip]; omega)
  constructor
  · intro name
    rw [growths, SortedMap.ofList, SortedMap.mem_keys_insertAll, names]
    simp [SortedMap.keys, SortedMap.empty]
  · intro position counter first last listed latest start stop
    refine ⟨Count.growth first last, ?_, Count.toNat_growth first last⟩
    have values : (before.zip after)[position]? = some (first, last) := List.getElem?_zip_eq_some.mpr ⟨start, stop⟩
    have entry : (counters.zip (before.zip after))[position]? = some (counter, first, last) :=
      List.getElem?_zip_eq_some.mpr ⟨listed, values⟩
    have here : ((counters.zip (before.zip after)).map fun entry =>
        (entry.1, Metric.count (Count.growth entry.2.1 entry.2.2)))[position]? =
          some (counter, .count (Count.growth first last)) := by
      rw [List.getElem?_map, entry, Option.map_some]
    exact SortedMap.get?_insertAll_of_last _ here (by rwa [List.map_drop, names])

variable (hardware : HardwareCollector σ) (thread : ThreadId)

theorem read_eq_ok_iff {device : Device} {counters : List String} {world : σ} {values : List Count} :
    (hardware.read thread device counters world).1 = .ok values ↔
      Reading.Answered hardware.backend ⟨thread, device, counters⟩ world values := by
  simp only [read, Reading.Answered]
  rcases hardware.backend.read thread device counters world with ⟨error | found, after⟩
  · simp
  · simp only [Except.ok.injEq]
    split
    next right =>
      refine ⟨fun same => ?_, fun both => congrArg Except.ok both.1⟩
      cases same
      exact ⟨rfl, right⟩
    next wrong =>
      refine iff_of_false (fun same => by cases same) fun both => wrong ?_
      rw [both.1, both.2]

theorem read_eq_error {device : Device} {counters : List String} {world : σ}
    (unanswered : ∀ values, ¬ Reading.Answered hardware.backend ⟨thread, device, counters⟩ world values) :
    ∃ reason, (hardware.read thread device counters world).1 = .error (.collector hardware.name reason) := by
  cases result : (hardware.read thread device counters world).1 with
  | ok values => exact absurd (hardware.read_eq_ok_iff thread |>.mp result) (unanswered values)
  | error error =>
    unfold read at result
    split at result
    · cases result
      exact ⟨_, rfl⟩
    · split at result <;> cases result
      exact ⟨_, rfl⟩

theorem beginCall_eq_ok_iff (id : CallId) (device : Device) (world : σ) :
    (hardware.beginCall thread id device world).1 = .ok () ↔
      hardware.calls.get? id = none ∧ ∃ note, (hardware.startValues thread device world).1 = .ok note := by
  unfold beginCall
  rcases hardware.startValues thread device world with ⟨error | note, after⟩
  · simp [Except.bind]
  · have closed : hardware.calls.get? id = none ↔ hardware.calls.contains id = false := by
      rw [SortedMap.contains, ← Bool.not_eq_true, Option.not_isSome_iff_eq_none]
    rw [closed]
    simp only [Except.bind, OpenCalls.start]
    cases hardware.calls.contains id <;> simp

theorem startValues_isOk_iff (device : Device) (world : σ) :
    (∃ note, (hardware.startValues thread device world).1 = .ok note) ↔
      ∀ counters, hardware.plan.get? device = some counters →
        ∃ values, Reading.Answered hardware.backend ⟨thread, device, counters⟩ world values := by
  unfold startValues
  cases planned : hardware.plan.get? device with
  | none => simp
  | some counters =>
    simp only [Option.some.injEq, forall_eq', ← hardware.read_eq_ok_iff thread]
    rcases hardware.read thread device counters world with ⟨error | values, after⟩ <;> simp [Except.map]

theorem endCall_calls (id : CallId) (world : σ) :
    (hardware.endCall thread id world).2.1 = { hardware with calls := hardware.calls.erase id } := by
  unfold endCall OpenCalls.close
  cases noted : hardware.calls.get? id with
  | none => simp only [SortedMap.erase_of_absent noted]
  | some note =>
    cases note with
    | none => rfl
    | some values =>
      simp only
      split <;> rfl

theorem discardCall_calls (id : CallId) (world : σ) :
    (hardware.discardCall id world).2.1 = { hardware with calls := hardware.calls.erase id } := by
  unfold discardCall OpenCalls.close
  cases noted : hardware.calls.get? id with
  | none => simp only [SortedMap.erase_of_absent noted]
  | some note => rfl

end HardwareCollector

structure Request.Noted (backend : Backend σ) (plan : CounterPlan) (id : CallId) (note : Option (Device × List Count))
    (request : Request σ) : Prop where
  answer : request.answer = .ok ()
  begins : ∃ device, request.demand = .begin id device ∧
    ((HardwareCollector.mk backend plan .empty).startValues request.thread device request.world).1 = .ok note

def Keeps (backend : Backend σ) (plan : CounterPlan) (calls : OpenCalls (Option (Device × List Count)))
    (asked : List (Request σ)) : Prop :=
  ∀ id, Option.Rel (Request.Noted backend plan id) (calls.get? id) (opening? asked id)

/-- What a request comes to, set against all that was asked before it. -/
structure Request.Measured (backend : Backend σ) (plan : CounterPlan) (past : List (Request σ)) (request : Request σ) :
    Prop where
  begins : ∀ id device, request.demand = .begin id device →
    (request.answer = .ok () ↔ opening? past id = none ∧
      ∀ reading, request.due plan past = some reading → ∃ values, reading.Answered backend request.world values)
  refused : ∀ id device error, request.demand = .begin id device → request.answer = .error error →
    request.after = request.collector
  ends : ∀ id, request.demand = .finish id →
    (request.answer = .ok () ↔ (opening? past id).isSome ∧
      ∀ reading, request.due plan past = some reading → ∃ values, reading.Answered backend request.world values)
  given : ∀ id metrics, request.demand = .finish id → request.given = .ok metrics →
    ∃ opening device, opening? past id = some opening ∧ opening ∈ past ∧ opening.demand = .begin id device ∧
      opening.answer = .ok () ∧ Gives backend plan device opening request metrics
  closes : ∀ id, request.demand = .finish id ∨ request.demand = .discard id → ∃ calls,
    request.collector = .hardware ⟨backend, plan, calls⟩ ∧ request.after = .hardware ⟨backend, plan, calls.erase id⟩
  misread : ∀ reading, request.due plan past = some reading →
    (∀ values, ¬ reading.Answered backend request.world values) →
    ∃ reason, request.answer = .error (.collector (backend.name ++ " counters") reason)
  isOpen : ∀ id, id ∈ request.collector.openIds ↔ (opening? past id).isSome
  world : request.worldAfter =
    match request.due plan past with
    | none => request.world
    | some reading => (backend.read reading.thread reading.device reading.counters request.world).2

section Opening

variable {past : List (Request σ)} {request : Request σ} {id : CallId}

theorem opening?_taken {device : Device} (demand : request.demand = .begin id device) (taken : request.answer = .ok ())
    (other : CallId) : opening? (request :: past) other = if other = id then some request else opening? past other := by
  simp [opening?, Request.takesIn, demand, taken, Except.isOk, Except.toBool]

theorem opening?_refused {device : Device} {error : ProfileError} (demand : request.demand = .begin id device)
    (refused : request.answer = .error error) (other : CallId) :
    opening? (request :: past) other = opening? past other := by
  simp [opening?, Request.takesIn, demand, refused, Except.isOk, Except.toBool]

theorem opening?_closed (demand : request.demand = .finish id ∨ request.demand = .discard id) (other : CallId) :
    opening? (request :: past) other = if other = id then none else opening? past other := by
  rcases demand with demand | demand <;> simp [opening?, demand]

end Opening

section Step

variable {backend : Backend σ} {plan : CounterPlan} {calls : OpenCalls (Option (Device × List Count))}
  {past : List (Request σ)}

namespace Keeps

theorem isSome_get? (keeps : Keeps backend plan calls past) (id : CallId) :
    (calls.get? id).isSome = (opening? past id).isSome := by
  have noted := keeps id
  generalize calls.get? id = note at noted
  generalize opening? past id = opening at noted
  cases noted <;> rfl

theorem get?_eq_none_iff (keeps : Keeps backend plan calls past) (id : CallId) :
    calls.get? id = none ↔ opening? past id = none := by
  rw [← Option.not_isSome_iff_eq_none, keeps.isSome_get?, Option.not_isSome_iff_eq_none]

theorem noted (keeps : Keeps backend plan calls past) {id : CallId} {opening : Request σ}
    (found : opening? past id = some opening) :
    ∃ note, calls.get? id = some note ∧ opening.Noted backend plan id note := by
  have noted := keeps id
  rw [found] at noted
  generalize calls.get? id = known at noted
  cases noted with
  | some noted => exact ⟨_, rfl, noted⟩

theorem reading?_eq_due (keeps : Keeps backend plan calls past) (thread : ThreadId) (demand : Demand) (world : σ) :
    (Request.mk (.hardware ⟨backend, plan, calls⟩) thread demand world).reading? =
      (Request.mk (.hardware ⟨backend, plan, calls⟩) thread demand world).due plan past := by
  cases demand with
  | begin id device => rfl
  | discard id => rfl
  | finish id =>
    simp only [Request.reading?, HardwareCollector.reading?, Request.due]
    cases found : opening? past id with
    | none =>
      rw [(keeps.get?_eq_none_iff id).mpr found]
      rfl
    | some opening =>
      obtain ⟨note, known, -, device, demand, started⟩ := keeps.noted found
      simp only [known, Option.join_some, Option.bind_some, Request.device?, demand]
      rcases HardwareCollector.startValues_ok _ started with ⟨planned, rfl⟩ | ⟨counters, values, planned, -, rfl⟩ <;>
        simp only [HardwareCollector.countersFor, planned, Option.map_none, Option.map_some, Option.getD_some]

theorem begin (keeps : Keeps backend plan calls past) (thread : ThreadId) (id : CallId) (device : Device) (world : σ) :
    let request := Request.mk (.hardware ⟨backend, plan, calls⟩) thread (.begin id device) world
    ∃ after, request.after = .hardware ⟨backend, plan, after⟩ ∧ Keeps backend plan after (request :: past) := by
  intro request
  have demand : request.demand = .begin id device := rfl
  rcases HardwareCollector.beginCall_cases ⟨backend, plan, calls⟩ thread id device world with
    ⟨error, refused, same⟩ | ⟨note, started, taken, noted⟩
  · refine ⟨calls, congrArg Collector.hardware same, fun other => ?_⟩
    have answer : request.answer = .error error := refused
    rw [opening?_refused demand answer]
    exact keeps other
  · refine ⟨calls.insert id note, congrArg Collector.hardware noted, fun other => ?_⟩
    have answer : request.answer = .ok () := taken
    rw [opening?_taken demand answer, SortedMap.get?_insert]
    by_cases own : other = id
    · rw [if_pos own, if_pos own, own]
      exact .some ⟨taken, device, rfl, started⟩
    · rw [if_neg own, if_neg own]
      exact keeps other

theorem close (keeps : Keeps backend plan calls past) {id : CallId} {request : Request σ}
    (demand : request.demand = .finish id ∨ request.demand = .discard id) :
    Keeps backend plan (calls.erase id) (request :: past) := by
  intro other
  rw [opening?_closed demand, SortedMap.get?_erase]
  by_cases own : other = id
  · rw [if_pos own, if_pos own]
    exact .none
  · rw [if_neg own, if_neg own]
    exact keeps other

theorem after_close (calls : OpenCalls (Option (Device × List Count))) (thread : ThreadId) {id : CallId}
    {demand : Demand} (closing : demand = .finish id ∨ demand = .discard id) (world : σ) :
    (Request.mk (.hardware ⟨backend, plan, calls⟩) thread demand world).after =
      .hardware ⟨backend, plan, calls.erase id⟩ := by
  rcases closing with rfl | rfl
  · exact congrArg Collector.hardware (HardwareCollector.endCall_calls _ thread id world)
  · exact congrArg Collector.hardware (HardwareCollector.discardCall_calls _ id world)

theorem next (keeps : Keeps backend plan calls past) (thread : ThreadId) (demand : Demand) (world : σ) :
    let request := Request.mk (.hardware ⟨backend, plan, calls⟩) thread demand world
    ∃ after, request.after = .hardware ⟨backend, plan, after⟩ ∧ Keeps backend plan after (request :: past) := by
  cases demand with
  | begin id device => exact keeps.begin thread id device world
  | finish id => exact ⟨_, after_close calls thread (.inl rfl) world, keeps.close (.inl rfl)⟩
  | discard id => exact ⟨_, after_close calls thread (.inr rfl) world, keeps.close (.inr rfl)⟩

section Answers

variable (keeps : Keeps backend plan calls past) (thread : ThreadId) (world : σ)
include keeps

theorem answer_begin (id : CallId) (device : Device) :
    let request := Request.mk (.hardware ⟨backend, plan, calls⟩) thread (.begin id device) world
    request.answer = .ok () ↔ opening? past id = none ∧
      ∀ reading, request.due plan past = some reading → ∃ values, reading.Answered backend world values := by
  intro request
  have taken := HardwareCollector.beginCall_eq_ok_iff ⟨backend, plan, calls⟩ thread id device world
  rw [HardwareCollector.startValues_isOk_iff, keeps.get?_eq_none_iff] at taken
  refine taken.trans (and_congr_right' ?_)
  simp only [Request.due, request, Option.bind_some, Option.map_eq_some_iff]
  exact ⟨fun all reading ⟨counters, planned, same⟩ => same ▸ all counters planned,
    fun all counters planned => all _ ⟨counters, planned, rfl⟩⟩

theorem given_unopened {id : CallId} (unopened : opening? past id = none) :
    (Request.mk (.hardware ⟨backend, plan, calls⟩) thread (.finish id) world).given =
      .error (.unmatched id "no matching begin") := by
  have absent := (keeps.get?_eq_none_iff id).mpr unopened
  simp only [Request.given, Demand.id, Collector.endCall, HardwareCollector.endCall, OpenCalls.close, absent]

theorem given_opened {id : CallId} {opening : Request σ} (opened : opening? past id = some opening) :
    let request := Request.mk (.hardware ⟨backend, plan, calls⟩) thread (.finish id) world
    ∃ device, opening.demand = .begin id device ∧
      ((plan.get? device = none ∧ request.due plan past = none ∧ request.given = .ok .empty) ∨
        ∃ counters before, plan.get? device = some counters ∧
          (Reading.mk opening.thread device counters).Answered backend opening.world before ∧
          request.due plan past = some ⟨thread, device, counters⟩ ∧
          request.given = ((HardwareCollector.mk backend plan calls).read thread device counters world).1.map
            (HardwareCollector.growths counters before)) := by
  intro request
  obtain ⟨note, known, -, device, demand, started⟩ := keeps.noted opened
  have given : request.given = _ := HardwareCollector.endCall_of_noted ⟨backend, plan, calls⟩ thread known world
  have due : request.due plan past = (plan.get? device).map (⟨thread, device, ·⟩) := by
    simp only [request, Request.due, opened, Option.bind_some, Request.device?, demand]
  refine ⟨device, demand, ?_⟩
  rcases HardwareCollector.startValues_ok _ started with ⟨planned, rfl⟩ | ⟨counters, values, planned, read, rfl⟩
  · exact .inl ⟨planned, by rw [due, planned, Option.map_none], given⟩
  · have named : HardwareCollector.countersFor ⟨backend, plan, calls⟩ device = counters := by
      rw [HardwareCollector.countersFor, planned, Option.getD_some]
    simp only [named] at given
    refine .inr ⟨counters, values, planned, ?_, by rw [due, planned, Option.map_some], given⟩
    exact (HardwareCollector.read_eq_ok_iff _ opening.thread).mp read

theorem answer_finish (id : CallId) :
    let request := Request.mk (.hardware ⟨backend, plan, calls⟩) thread (.finish id) world
    request.answer = .ok () ↔ (opening? past id).isSome ∧
      ∀ reading, request.due plan past = some reading → ∃ values, reading.Answered backend world values := by
  intro request
  have answer : request.answer = request.given.map fun _ => () := rfl
  cases opened : opening? past id with
  | none =>
    have failed := keeps.given_unopened thread world opened
    rw [answer, failed]
    simp [Except.map]
  | some opening =>
    obtain ⟨device, -, ⟨-, unread, given⟩ | ⟨counters, before, -, -, due, given⟩⟩ :=
      keeps.given_opened thread world opened
    · rw [answer, given, unread]
      simp [Except.map]
    · rw [answer, given, due]
      simp only [Option.isSome_some, true_and, Option.some.injEq, forall_eq',
        ← HardwareCollector.read_eq_ok_iff ⟨backend, plan, calls⟩ thread]
      cases (HardwareCollector.read ⟨backend, plan, calls⟩ thread device counters world).1 <;> simp [Except.map]

theorem given_eq_ok {id : CallId} {metrics : MetricMap}
    (given : (Request.mk (.hardware ⟨backend, plan, calls⟩) thread (.finish id) world).given = .ok metrics) :
    ∃ opening device, opening? past id = some opening ∧ opening ∈ past ∧ opening.demand = .begin id device ∧
      opening.answer = .ok () ∧
      Request.Gives backend plan device opening (.mk (.hardware ⟨backend, plan, calls⟩) thread (.finish id) world)
        metrics := by
  cases opened : opening? past id with
  | none => cases given.symm.trans (keeps.given_unopened thread world opened)
  | some opening =>
    obtain ⟨_, -, noted⟩ := keeps.noted opened
    obtain ⟨device, begins, measured⟩ := keeps.given_opened thread world opened
    refine ⟨opening, device, rfl, mem_of_opening? opened, begins, noted.answer, ?_⟩
    rw [Request.Gives]
    rcases measured with ⟨planned, -, bare⟩ | ⟨counters, before, planned, start, -, rose⟩
    · rw [planned]
      exact Except.ok.inj (given.symm.trans bare)
    · rw [planned]
      have rose := given.symm.trans rose
      cases stop : (HardwareCollector.read ⟨backend, plan, calls⟩ thread device counters world).1 with
      | error error =>
        rw [stop] at rose
        cases rose
      | ok after =>
        rw [stop] at rose
        cases rose
        have stop := (HardwareCollector.read_eq_ok_iff _ thread).mp stop
        exact ⟨before, after, start, stop, HardwareCollector.rises_growths start.2 stop.2⟩

theorem answer_misread (demand : Demand) {reading : Reading}
    (due : (Request.mk (.hardware ⟨backend, plan, calls⟩) thread demand world).due plan past = some reading)
    (unanswered : ∀ values, ¬ reading.Answered backend world values) :
    ∃ reason, (Request.mk (.hardware ⟨backend, plan, calls⟩) thread demand world).answer =
      .error (.collector (backend.name ++ " counters") reason) := by
  cases demand with
  | begin id device =>
    simp only [Request.due, Option.bind_some] at due
    obtain ⟨counters, planned, rfl⟩ := Option.map_eq_some_iff.mp due
    obtain ⟨reason, failed⟩ := HardwareCollector.read_eq_error ⟨backend, plan, calls⟩ thread unanswered
    refine ⟨reason, ?_⟩
    simp only [Request.answer, Request.respond, Collector.beginCall, HardwareCollector.beginCall,
      HardwareCollector.startValues, planned, failed, Except.map, Except.bind]
    rfl
  | finish id =>
    have answer : (Request.mk (.hardware ⟨backend, plan, calls⟩) thread (.finish id) world).answer =
      (Request.mk (.hardware ⟨backend, plan, calls⟩) thread (.finish id) world).given.map fun _ => () := rfl
    cases opened : opening? past id with
    | none =>
      simp only [Request.due, opened, Option.bind_none] at due
      cases due
    | some opening =>
      obtain ⟨device, -, ⟨-, unread, -⟩ | ⟨counters, before, -, -, here, given⟩⟩ :=
        keeps.given_opened thread world opened
      · rw [unread] at due
        cases due
      · rw [here] at due
        cases due
        obtain ⟨reason, failed⟩ := HardwareCollector.read_eq_error ⟨backend, plan, calls⟩ thread unanswered
        refine ⟨reason, ?_⟩
        rw [answer, given, failed]
        rfl
  | discard id =>
    simp only [Request.due, Option.bind_none] at due
    cases due

theorem measured (demand : Demand) :
    (Request.mk (.hardware ⟨backend, plan, calls⟩) thread demand world).Measured backend plan past where
  begins := by
    rintro id device rfl
    exact keeps.answer_begin thread world id device
  refused := by
    rintro id device error rfl refused
    rcases HardwareCollector.beginCall_cases ⟨backend, plan, calls⟩ thread id device world with
      ⟨-, -, same⟩ | ⟨-, -, taken, -⟩
    · exact congrArg Collector.hardware same
    · cases refused.symm.trans taken
  ends := by
    rintro id rfl
    exact keeps.answer_finish thread world id
  given := by
    rintro id metrics rfl given
    exact keeps.given_eq_ok thread world given
  closes := fun _ closing => ⟨calls, rfl, after_close calls thread closing world⟩
  misread := fun _ due unanswered => keeps.answer_misread thread world demand due unanswered
  isOpen := fun id => by
    rw [← keeps.isSome_get? id]
    exact SortedMap.mem_keys_iff
  world := by
    have left : (Request.mk (.hardware ⟨backend, plan, calls⟩) thread demand world).worldAfter = _ :=
      Request.worldAfter_of_hardware rfl
    rw [keeps.reading?_eq_due] at left
    exact left

end Answers

end Keeps

end Step

namespace Service

def Keeping (backend : Backend σ) (plan : CounterPlan) (service : Service σ) : Prop :=
  (∃ calls, service.collector = .hardware ⟨backend, plan, calls⟩ ∧ Keeps backend plan calls service.asked) ∧
    ∀ request past, request :: past <:+ service.asked → request.Measured backend plan past

theorem keeping_opened (backend : Backend σ) (plan : CounterPlan) (world : σ) :
    (opened (.hardware ⟨backend, plan, .empty⟩) world).Keeping backend plan :=
  ⟨⟨.empty, rfl, fun _ => .none⟩, fun _ _ recent => by cases List.suffix_nil.mp recent⟩

theorem Keeping.measured {backend : Backend σ} {plan : CounterPlan} {service : Service σ}
    (keeping : service.Keeping backend plan) (thread : ThreadId) (demand : Demand) :
    (service.request thread demand).Measured backend plan service.asked := by
  obtain ⟨⟨calls, kind, keeps⟩, -⟩ := keeping
  rw [Service.request, kind]
  exact keeps.measured thread service.world demand

theorem Keeping.next {backend : Backend σ} {plan : CounterPlan} {service : Service σ}
    (keeping : service.Keeping backend plan) (move : Move σ) : (service.next move).Keeping backend plan := by
  cases move with
  | outside change => exact keeping
  | ask thread demand =>
    have here := keeping.measured thread demand
    obtain ⟨⟨calls, kind, keeps⟩, measured⟩ := keeping
    obtain ⟨after, left, kept⟩ := keeps.next thread demand service.world
    rw [← kind] at left kept
    refine ⟨⟨after, left, kept⟩, fun request past recent => ?_⟩
    rcases List.suffix_cons_iff.mp recent with same | older
    · cases same
      exact here
    · exact measured request past older

theorem keeping_play (backend : Backend σ) (plan : CounterPlan) (world : σ) (moves : List (Move σ)) :
    ((opened (.hardware ⟨backend, plan, .empty⟩) world).play moves).Keeping backend plan :=
  play_induction moves (keeping_opened backend plan world) fun _ move _ keeping => keeping.next move

end Service

/-- The backend with a list of all readings beside its world, the last one first. -/
def Backend.listing (backend : Backend σ) : Backend (σ × List Reading) where
  name := backend.name
  perThread := backend.perThread
  available world device := backend.available world.1 device
  read thread device counters world :=
    let (result, after) := backend.read thread device counters world.1
    (result, after, ⟨thread, device, counters⟩ :: world.2)

def readings (plan : CounterPlan) : List (Request σ) → List Reading
  | [] => []
  | request :: past => (request.due plan past).toList ++ readings plan past

theorem Service.listed_play (backend : Backend σ) (plan : CounterPlan) (world : σ) (moves : List (Move σ)) :
    let service := (opened (.hardware ⟨backend.listing, plan, .empty⟩) (world, [])).play
      (moves.map (.map (Prod.map · id)))
    service.world.2 = readings plan service.asked := by
  have both := play_induction
    (motive := fun service => service.Keeping backend.listing plan ∧ service.world.2 = readings plan service.asked)
    (moves.map (.map (Prod.map · id))) ⟨keeping_opened backend.listing plan (world, []), rfl⟩ ?_
  · exact both.2
  · rintro service move member ⟨keeping, listed⟩
    refine ⟨keeping.next move, ?_⟩
    obtain ⟨own, -, rfl⟩ := List.mem_map.mp member
    cases own with
    | outside change => exact listed
    | ask thread demand =>
      have world := (keeping.measured thread demand).world
      simp only [Move.map, Service.next, readings, ← listed]
      rw [world, Service.request]
      cases Request.due plan service.asked ⟨service.collector, thread, demand, service.world⟩ <;> rfl

/--
A hardware collector over any backend, asked about any calls in any order: a call is taken in if it is not open and
is answered for each counter; an end belongs to the one beginning by which its call is open, and gives how far each
counter of that device rose between the readings at the two; what fails leaves all other calls alone; and nothing
else is ever read.
-/
theorem increments_are_paired (backend : Backend σ) (plan : CounterPlan) (world : σ) (moves : List (Move σ)) :
    (∀ request past,
        request :: past <:+ ((Service.opened (.hardware ⟨backend, plan, .empty⟩) world).play moves).asked →
        request.Measured backend plan past) ∧
      let listing := (Service.opened (.hardware ⟨backend.listing, plan, .empty⟩) (world, [])).play
        (moves.map (.map (Prod.map · id)))
      listing.world.2 = readings plan listing.asked :=
  ⟨(Service.keeping_play backend plan world moves).2, Service.listed_play backend plan world moves⟩

def Backend.scripted : Backend (List (List Count)) where
  name := "script"
  perThread := false
  available _ _ := ["a", "b"]
  read _ _ _ script :=
    match script with
    | [] => (.error (.failed "script exhausted"), [])
    | values :: rest => (.ok values, rest)

theorem increments_are_paired_scripted :
    let plan := SortedMap.ofList [(Device.cpu 0, ["a", "b", "a"])]
    let script : List (List Count) := [[5, 9, 1], [1], [7, 4, 3]]
    let moves := [.ask ⟨0⟩ (.begin ⟨1⟩ (.cpu 0)), .ask ⟨1⟩ (.begin ⟨1⟩ (.cpu 0)), .ask ⟨0⟩ (.begin ⟨2⟩ (.gpu 0)),
      .ask ⟨1⟩ (.finish ⟨1⟩)]
    let service := (Service.opened (.hardware ⟨.scripted, plan, .empty⟩) script).play moves
    ∃ request past, request :: past <:+ service.asked ∧ request.Measured .scripted plan past ∧
      request.given = .ok (.ofList [("a", .count 2), ("b", .count 0)]) := by
  intro plan script moves service
  have measured := (increments_are_paired .scripted plan script moves).1
  exact ⟨_, _, List.suffix_rfl, measured _ _ List.suffix_rfl, rfl⟩

end CallProfile
