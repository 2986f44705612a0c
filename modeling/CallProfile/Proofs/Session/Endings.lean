import CallProfile.Proofs.Session.Spells
import CallProfile.Proofs.Session.ThreadReadings

namespace CallProfile

variable {σ α : Type}

namespace Request

def values (request : Request σ) : MetricMap :=
  match request.demand with
  | .finish id =>
    match (request.collector.endCall request.thread id request.world).1 with
    | .ok values => values
    | .error _ => .empty
  | _ => .empty

end Request

namespace Session

/-- No collector has its errors marked under this name. -/
def Unmarked (name : String) : Prop := ∀ own : String, own ++ " error" ≠ name

theorem unmarked_of_last {name : String} (last : name.toList.getLast? ≠ some 'r') : Unmarked name := by
  rintro own rfl
  apply last
  simp

theorem unmarked_truncatedName : Unmarked truncatedName := unmarked_of_last (by decide)

theorem unmarked_callsName : Unmarked callsName := unmarked_of_last (by decide)

section Values

variable {name : String} (unmarked : Unmarked name)
include unmarked

theorem get?_marker (request : Request σ) (message : String) : (request.marker message).get? name = none := by
  have apart : name ≠ errorName request.collector := (unmarked request.collector.name).symm
  rw [Request.marker, SortedMap.ofList, SortedMap.insertAll, List.foldl_cons, List.foldl_nil,
    SortedMap.get?_insert_of_ne _ apart, SortedMap.get?_empty]

theorem get?_report (request : Request σ) : request.report.get? name = request.values.get? name := by
  obtain ⟨collector, thread, demand, world⟩ := request
  cases demand with
  | begin id device =>
    simp only [Request.report, Request.values]
    split
    next => rfl
    next => exact get?_marker unmarked _ _
  | finish id =>
    simp only [Request.report, Request.values, Request.recorded]
    cases (collector.endCall thread id world).1 with
    | ok values => rfl
    | error error => exact get?_marker unmarked _ _
  | discard id =>
    simp only [Request.report, Request.values]
    split <;> exact get?_marker unmarked _ _

theorem get?_foldl_values (requests : List (Request σ)) (metrics : MetricMap) :
    (requests.foldl Request.addTo metrics).get? name =
      (requests.reverse.findSome? (·.values.get? name)).or (metrics.get? name) := by
  rw [Request.get?_foldl_addTo]
  simp only [get?_report unmarked]

theorem get?_openWith {thread : ThreadId} {id : CallId} {device : Device} {errors : MetricMap} {world : σ}
    {collectors : List (Collector σ)} :
    (openWith thread id device errors world collectors).errors.get? name = errors.get? name := by
  induction collectors generalizing errors world with
  | nil => rfl
  | cons collector rest ih =>
    rw [openWith_cons]
    simp only [ih, Request.addTo, SortedMap.get?_insertAll_entries, get?_report unmarked]
    exact Option.none_or

end Values

/-- A call and the requests by which it was closed. -/
structure Ending (σ α : Type) where
  call : Begun σ α
  requests : List (Request σ)

namespace Ending

def given? (ending : Ending σ α) (name : String) : Option Metric :=
  ending.requests.reverse.findSome? (·.values.get? name)

theorem given?_isSome_iff {ending : Ending σ α} {name : String} :
    (ending.given? name).isSome ↔ ∃ request ∈ ending.requests, request.values.contains name := by
  rw [given?, List.isSome_findSome?]
  simp only [List.any_reverse, List.any_eq_true, SortedMap.contains]

end Ending

namespace History

def endings : History σ α → List (Ending σ α)
  | [] => []
  | entry :: past =>
    (entry.endedId?.bind fun id => (begunCalls past).find? fun call => call.id = id).toList.map (⟨·, entry.requests⟩) ++
      endings past

theorem endings_calls (history : History σ α) :
    history.endings.map (·.call) = history.closedCalls.map (·.1) := by
  induction history with
  | nil => rfl
  | cons entry past ih =>
    rw [endings, closedCalls, List.map_append, List.map_append, ih, List.map_map, List.map_map]
    rfl

theorem endings_quiet {entry : Entry σ α} (past : History σ α) (ended : entry.endedId? = none) :
    endings (entry :: past) = past.endings := by
  simp [endings, ended]

theorem endings_ended (event : Event σ α) (requests : List (Request σ)) {past : History σ α} {id : CallId}
    {call : Begun σ α} (found : past.begunCalls.find? (fun other => other.id = id) = some call) :
    endings (⟨event, .ended id, requests⟩ :: past) = ⟨call, requests⟩ :: past.endings := by
  simp [endings, Entry.endedId?, found]

end History

def Ending.Told (ending : Ending σ α) (record : CallRecord) : Prop :=
  ∀ name, Unmarked name → record.metric? name = ending.given? name

/-- The records of the calls that have ended have what was given, and nothing was given for the open ones so far. -/
structure Run.Telling (run : Run σ α) : Prop where
  bare : ∀ frame ∈ run.session.pending.all, ∀ name, Unmarked name → frame.errors.get? name = none
  told : List.Forall₂ Ending.Told run.history.endings run.session.ended

namespace Run.Telling

variable {run : Run σ α}

theorem quiet (telling : run.Telling) {session : Session σ} {world : σ} {entry : Entry σ α}
    (ended : entry.endedId? = none) (pending : session.pending = run.session.pending)
    (records : session.ended = run.session.ended) : (Run.mk session world (entry :: run.history)).Telling := by
  constructor
  · rw [pending]
    exact telling.bare
  · rw [History.endings_quiet run.history ended, records]
    exact telling.told

theorem begun (telling : run.Telling) (accounted : run.Accounted) (event : Event σ α) (thread : ThreadId)
    (name : String) (device : Device) (requests : List (Request σ)) (world : σ) :
    (Run.mk (run.session.begun thread name device run.world) world
      (⟨event, .began run.session.nextId, requests⟩ :: run.history)).Telling := by
  constructor
  · intro frame isOpen other unmarked
    rcases (accounted.mem_all_begun thread name device run.world).mp isOpen with rfl | isOpen
    · exact get?_openWith unmarked
    · exact telling.bare frame isOpen other unmarked
  · rw [History.endings_quiet run.history rfl]
    exact telling.told

theorem popped (telling : run.Telling) (accounted : run.Accounted) (event : Event σ α) {thread : ThreadId}
    {frame : OpenCall} {around : List OpenCall} (top : run.session.pending.on thread = frame :: around) (world : σ) :
    (Run.mk (run.session.popped thread frame around run.world) world
      (⟨event, .ended frame.id, closeRequests thread frame run.world run.session.collectors frame.began⟩ ::
        run.history)).Telling := by
  obtain ⟨call, isOpen, same, -⟩ := accounted.begun_of_top top
  have id : call.id = frame.id := congrArg Outline.id same
  have member : frame ∈ run.session.pending.all := CallStacks.mem_all_iff.mpr ⟨thread, top ▸ List.mem_cons_self⟩
  constructor
  · intro other isOpen
    exact telling.bare other ((accounted.mem_all_popped top run.world).mp isOpen).1
  · -- The record is made of what the requests add to errors that say nothing under unmarked names.
    rw [History.endings_ended event _ (id ▸ accounted.find_begun (History.mem_begun_of_open isOpen))]
    refine .cons (fun name unmarked => ?_) telling.told
    simp only [CallRecord.metric?, recordOf, closing, closeWith_metrics]
    rw [get?_foldl_values unmarked, telling.bare frame member name unmarked, Option.or_none, Ending.given?]

end Run.Telling

theorem telling_next (act : α → σ → σ) {run : Run σ α} (accounted : run.session.phase ≠ .finalized → run.Accounted)
    (telling : run.session.phase ≠ .finalized → run.Telling) (event : Event σ α) :
    (run.next act event).session.phase ≠ .finalized → (run.next act event).Telling := by
  refine Run.next_of_transition (motive := fun run => run.session.phase ≠ .finalized → run.Telling) run event ?_
  intro outcome requests session world step going
  cases step with
  | refused reason => exact (telling going).quiet rfl rfl rfl
  | passed action => exact (telling going).quiet rfl rfl rfl
  | started collectors idle => exact (telling (by simp [idle])).quiet rfl rfl rfl
  | @began _ thread name device asked running =>
    exact (telling (by simp [running])).begun (accounted (by simp [running])) event thread name device _ _
  | ended asked running top =>
    exact (telling (by simp [running])).popped (accounted (by simp [running])) event top _
  | finalized thread running =>
    exfalso
    apply going
    exact truncated_phase _ _ _ _

theorem telling_play (act : α → σ → σ) (config : SessionConfig) (world : σ) (events : List (Event σ α)) :
    let run : Run σ α := (Run.fresh config world).play act events
    run.session.phase ≠ .finalized → run.Telling := by
  refine (Run.play_induction (motive := fun run => (run.session.phase ≠ .finalized → run.Accounted) ∧
    (run.session.phase ≠ .finalized → run.Telling)) events ⟨fun _ => accounted_fresh config world, fun _ => ?_⟩ ?_).2
  · exact ⟨nofun, .nil⟩
  · rintro run event - ⟨accounted, telling⟩
    exact ⟨accounted_next act accounted event, telling_next act accounted telling event⟩

def Run.IsOpen (run : Run σ α) (call : Begun σ α) : Prop :=
  ∃ thread, call.id ∈ (run.session.pending.on thread).map (·.id)

/-- How the calls of a run are closed if it is finalized on a thread, in the order of the report. -/
def Run.endings (run : Run σ α) (thread : ThreadId) : List (Ending σ α) :=
  run.history.endings.reverse ++
    (run.history.openCalls.zip (run.leftovers thread)).map fun pair => ⟨pair.1, pair.2.requests⟩

/-- What the record of a call has to do with how the call was closed. -/
structure Run.Tells (run : Run σ α) (ending : Ending σ α) (record : CallRecord) : Prop where
  heading : record.heading = ending.call.heading
  marked : run.IsOpen ending.call → record.metric? truncatedName = some (.text "true")
  given : ∀ name, Unmarked name → (name = truncatedName → ¬ run.IsOpen ending.call) →
    record.metric? name = ending.given? name

namespace Run

variable {run : Run σ α}

theorem Accounted.isOpen_iff (accounted : run.Accounted) {call : Begun σ α} (begun : call ∈ run.history.begunCalls) :
    run.IsOpen call ↔ call.id ∉ run.history.endedIds := by
  simp only [IsOpen, accounted.ids_on, History.openOn, History.openCalls, List.mem_map, List.mem_filter]
  constructor
  · rintro ⟨thread, other, ⟨⟨-, isOpen⟩, -⟩, same⟩
    rw [← same]
    exact of_decide_eq_true isOpen
  · intro isOpen
    exact ⟨call.thread, call, ⟨⟨begun, decide_eq_true isOpen⟩, decide_eq_true rfl⟩, rfl⟩

theorem Accounted.isOpen_of_left (accounted : run.Accounted) {call : Begun σ α}
    (left : call ∈ run.history.openCalls) : run.IsOpen call := by
  rw [accounted.isOpen_iff (History.mem_begun_of_open left)]
  exact of_decide_eq_true (List.mem_filter.mp left).2

theorem mem_all_of_leftover {thread : ThreadId} {leftover : Leftover σ} (listed : leftover ∈ run.leftovers thread) :
    leftover.call ∈ run.session.pending.all := by
  have member := List.mem_map_of_mem (f := (·.call)) listed
  rw [Run.leftovers, leftovers_calls] at member
  exact (List.mergeSort_perm _ _).subset member

namespace Telling

theorem tells_closed (telling : run.Telling) (accounted : run.Accounted) :
    List.Forall₂ run.Tells run.history.endings run.session.ended := by
  have headings : run.session.ended.map CallRecord.heading = run.history.endings.map (·.call.heading) := by
    have calls := congrArg (List.map Begun.heading) run.history.endings_calls
    rw [List.map_map, List.map_map] at calls
    exact accounted.records.trans calls.symm
  have closed : ∀ ending ∈ run.history.endings, ¬ run.IsOpen ending.call := by
    intro ending member
    have listed : ending.call ∈ run.history.closedCalls.map (·.1) :=
      History.endings_calls run.history ▸ List.mem_map_of_mem member
    have begun : ending.call ∈ run.history.begunCalls := accounted.complete.subset (List.mem_append_left _ listed)
    rw [accounted.isOpen_iff begun, not_not, ← accounted.closed_ids]
    obtain ⟨spell, known, same⟩ := List.mem_map.mp listed
    exact List.mem_map.mpr ⟨spell, known, congrArg Begun.id same⟩
  have told := (List.forall₂_and_left _ _).mpr ⟨closed, telling.told⟩
  refine List.Forall₂.mp (fun ending record heading told => ?_) (forall₂_of_map_eq headings).flip told
  exact ⟨heading, fun isOpen => absurd isOpen told.1, fun name unmarked _ => told.2 name unmarked⟩

theorem tells_leftover (telling : run.Telling) (accounted : run.Accounted) {thread : ThreadId} {call : Begun σ α}
    {leftover : Leftover σ} (begun : call ∈ run.history.openCalls) (listed : leftover ∈ run.leftovers thread)
    (settled : leftover.Settled thread run.session.collectors) (same : outlineOf leftover.call = call.outline) :
    run.Tells ⟨call, leftover.requests⟩ leftover.record := by
  have isOpen : run.IsOpen call := accounted.isOpen_of_left begun
  have pending : leftover.call ∈ run.session.pending.all := mem_all_of_leftover listed
  rw [settled.record]
  constructor
  · exact congrArg Outline.heading same
  · intro _
    exact SortedMap.get?_insert_self _ _ _
  · -- The mark is put in last, so it hides what was given under its name and nothing else.
    intro name unmarked other
    have apart : name ≠ truncatedName := fun mark => other mark isOpen
    simp only [CallRecord.metric?, markTruncated]
    rw [SortedMap.get?_insert_of_ne _ apart, get?_foldl_values unmarked, telling.bare _ pending name unmarked,
      Option.or_none, Ending.given?]

end Telling

section Finalizing

variable {thread : ThreadId} {report : Report} {after : Session σ} (finalizes : run.Finalizes thread report after)
include finalizes

theorem length_leftovers : (run.leftovers thread).length = run.history.openCalls.length := by
  have lengths := congrArg List.length finalizes.left
  rwa [List.length_map, List.length_map] at lengths

theorem endings_calls :
    (run.endings thread).map (·.call) = run.history.closedCalls.reverse.map (·.1) ++ run.history.openCalls := by
  have left : (run.history.openCalls.zip (run.leftovers thread)).map Prod.fst = run.history.openCalls :=
    List.map_fst_zip (Nat.le_of_eq (length_leftovers finalizes).symm)
  rw [endings, List.map_append, List.map_reverse, History.endings_calls, ← List.map_reverse, List.map_map]
  exact congrArg (_ ++ ·) left

theorem forall₂_left {related : Ending σ α → CallRecord → Prop}
    (each : ∀ call ∈ run.history.openCalls, ∀ leftover ∈ run.leftovers thread, outlineOf leftover.call = call.outline →
      related ⟨call, leftover.requests⟩ leftover.record) :
    List.Forall₂ related
      ((run.history.openCalls.zip (run.leftovers thread)).map fun pair => ⟨pair.1, pair.2.requests⟩)
      ((run.leftovers thread).map (·.record)) := by
  have right : (run.history.openCalls.zip (run.leftovers thread)).map Prod.snd = run.leftovers thread :=
    List.map_snd_zip (Nat.le_of_eq (length_leftovers finalizes))
  have outlines := (forall₂_of_map_eq finalizes.left).flip
  rw [← right, List.map_map, List.forall₂_map_left_iff, List.forall₂_map_right_iff, right, List.forall₂_same]
  rintro ⟨call, leftover⟩ member
  obtain ⟨begun, listed⟩ := List.of_mem_zip member
  exact each call begun leftover listed (List.forall₂_zip outlines member)

theorem Telling.tells_left (telling : run.Telling) (accounted : run.Accounted) :
    List.Forall₂ run.Tells
      ((run.history.openCalls.zip (run.leftovers thread)).map fun pair => ⟨pair.1, pair.2.requests⟩)
      ((run.leftovers thread).map (·.record)) :=
  forall₂_left finalizes fun _ begun leftover listed same =>
    telling.tells_leftover accounted begun listed (finalizes.settled leftover listed) same

end Finalizing

structure TellsAll (run : Run σ α) (thread : ThreadId) (report : Report) : Prop where
  one_each : ((run.endings thread).map (·.call)).Perm run.history.begunCalls
  tells : List.Forall₂ run.Tells (run.endings thread) report.calls

theorem tellsAll_of_finalize (act : α → σ → σ) (config : SessionConfig) (world : σ) (events : List (Event σ α))
    {thread : ThreadId} {report : Report} {after : Session σ} {worldAfter : σ}
    (finished : ((Run.fresh config world).play act events).session.finalize thread
      ((Run.fresh config world).play act events).world = .ok (report, after, worldAfter)) :
    TellsAll ((Run.fresh config world).play act events) thread report := by
  have running := phase_of_finalize finished
  have going : ((Run.fresh config world).play act events).session.phase ≠ .finalized := by simp [running]
  have accounted := accounted_play act (accounted_fresh config world) events going
  have telling := telling_play act config world events going
  obtain ⟨report, after, worldAfter, same, finalizes⟩ :=
    (resuming_play act config world events).finalizes accounted running thread
  cases same.symm.trans finished
  constructor
  · rw [endings_calls finalizes]
    exact ((List.reverse_perm _).map _ |>.append_right _).trans accounted.complete
  · rw [Run.endings, finalizes.calls]
    exact List.rel_append (List.forall₂_reverse_iff.mpr (telling.tells_closed accounted))
      (Telling.tells_left finalizes telling accounted)

end Run

theorem Run.Tells.isTruncated_iff {run : Run σ α} {ending : Ending σ α} {record : CallRecord}
    (tells : run.Tells ending record) :
    record.isTruncated ↔ run.IsOpen ending.call ∨
      ∃ request ∈ ending.requests, request.values.contains truncatedName := by
  rw [← Ending.given?_isSome_iff]
  by_cases isOpen : run.IsOpen ending.call
  · have marked : record.metrics.get? truncatedName = some (.text "true") := tells.marked isOpen
    simp [CallRecord.isTruncated, SortedMap.contains, marked, isOpen]
  · have given : record.metrics.get? truncatedName = ending.given? truncatedName :=
      tells.given truncatedName unmarked_truncatedName fun _ => isOpen
    simp [CallRecord.isTruncated, SortedMap.contains, given, isOpen]

/--
A call counts as truncated if it was open when the session was finalized, or if a collector gave something under the
name of the mark. Where no collector does so, the mark is right about every call.
-/
theorem truncated_iff_open_or_given (act : α → σ → σ) (config : SessionConfig) (world : σ)
    (events : List (Event σ α)) (thread : ThreadId) {report : Report} {after : Session σ} {worldAfter : σ}
    (finished : ((Run.fresh config world).play act events).session.finalize thread
      ((Run.fresh config world).play act events).world = .ok (report, after, worldAfter)) :
    let run := (Run.fresh config world).play act events
    ((run.endings thread).map (·.call)).Perm run.history.begunCalls ∧
      List.Forall₂ (fun ending record => record.heading = ending.call.heading ∧
          (record.isTruncated ↔ run.IsOpen ending.call ∨
            ∃ request ∈ ending.requests, request.values.contains truncatedName))
        (run.endings thread) report.calls ∧
      ((∀ ending ∈ run.endings thread, ¬ run.IsOpen ending.call →
          ∀ request ∈ ending.requests, request.values.contains truncatedName = false) →
        List.Forall₂ (fun ending record => record.heading = ending.call.heading ∧
          (record.isTruncated ↔ run.IsOpen ending.call)) (run.endings thread) report.calls) := by
  obtain ⟨one_each, told⟩ := Run.tellsAll_of_finalize act config world events finished
  refine ⟨one_each, told.imp fun ending record tells => ⟨tells.heading, tells.isTruncated_iff⟩, ?_⟩
  intro silent
  have both := (List.forall₂_and_left _ _).mpr ⟨silent, told⟩
  refine both.imp ?_
  rintro ending record ⟨silent, tells⟩
  refine ⟨tells.heading, tells.isTruncated_iff.trans (or_iff_left_of_imp ?_)⟩
  rintro ⟨request, asked, gave⟩
  refine Classical.byContradiction fun ended => ?_
  rw [silent ended request asked] at gave
  cases gave

def giving (own name : String) (value : Metric) : Collector Unit :=
  .ofCallbacks ⟨own, fun _ _ _ world => (.ok (), world), fun _ _ world => (.ok (.ofList [(name, value)]), world)⟩

def oneLeftOpen : List (Event Unit Empty) :=
  [.beginCall ⟨0⟩ "done" (.cpu 0), .endCall ⟨0⟩ ⟨1⟩, .beginCall ⟨0⟩ "left" (.cpu 0)]

def runWith (collector : Collector Unit) (events : List (Event Unit Empty)) : Run Unit Empty :=
  (Run.fresh (.named "s") ()).play (fun action _ => action.elim) (.start [collector] :: events)

theorem truncated_iff_open_or_given_sizes :
    let run := runWith (giving "sizes" "size" (.bytes 3)) oneLeftOpen
    ∃ report after, run.session.finalize ⟨0⟩ run.world = .ok (report, after, ()) ∧
      List.Forall₂ (fun ending record => record.heading = ending.call.heading ∧
        (record.isTruncated ↔ run.IsOpen ending.call)) (run.endings ⟨0⟩) report.calls ∧
      report.calls.map (fun record => (record.name, record.isTruncated)) = [("done", false), ("left", true)] := by
  have silent : ∀ ending ∈ (runWith (giving "sizes" "size" (.bytes 3)) oneLeftOpen).endings ⟨0⟩,
      ∀ request ∈ ending.requests, request.values.contains truncatedName = false := by
    decide +kernel
  obtain ⟨-, -, right⟩ := truncated_iff_open_or_given (fun action _ => Empty.elim action) (.named "s") ()
    (.start [giving "sizes" "size" (.bytes 3)] :: oneLeftOpen) ⟨0⟩ rfl
  exact ⟨_, _, rfl, right fun ending listed _ => silent ending listed, by decide +kernel⟩

/-- Whatever a collector gives under the name of the mark passes for the mark. -/
theorem truncated_although_ended :
    let run := runWith (giving "tracer" truncatedName (.text "no")) oneLeftOpen
    ∃ report after, run.session.finalize ⟨0⟩ run.world = .ok (report, after, ()) ∧
      run.session.pending.all.map (·.name) = ["left"] ∧
      report.calls.map (fun record => (record.name, record.isTruncated)) = [("done", true), ("left", true)] :=
  ⟨_, _, rfl, rfl, by decide +kernel⟩

end Session

end CallProfile
