import CallProfile.Proofs.Collector.Bookkeeping
import CallProfile.Proofs.Session.Requests

namespace CallProfile

variable {σ : Type}

namespace Collector

def cleared : Collector σ → Collector σ
  | wallClock clock _ => ofClock clock
  | hardware collector => hardware { collector with calls := .empty }
  | user callbacks _ => ofCallbacks callbacks
  | adapter inner _ => wrapping inner.cleared

theorem name_cleared (collector : Collector σ) : collector.cleared.name = collector.name := by
  induction collector with
  | adapter inner calls ih => exact ih
  | wallClock _ _ | hardware _ | user _ _ => rfl

theorem threadBound_cleared (collector : Collector σ) : collector.cleared.threadBound = collector.threadBound := by
  cases collector <;> rfl

theorem cleared_beginCall (collector : Collector σ) (thread : ThreadId) (id : CallId) (device : Device) (world : σ) :
    (collector.beginCall thread id device world).2.1.cleared = collector.cleared := by
  induction collector with
  | wallClock clock calls =>
    simp only [beginCall]
    split <;> rfl
  | hardware collector =>
    simp only [beginCall, HardwareCollector.beginCall]
    split <;> rfl
  | user callbacks calls =>
    simp only [beginCall]
    split <;> rfl
  | adapter inner calls ih =>
    simp only [beginCall]
    split <;> exact congrArg wrapping ih

theorem cleared_endCall (collector : Collector σ) (thread : ThreadId) (id : CallId) (world : σ) :
    (collector.endCall thread id world).2.1.cleared = collector.cleared := by
  induction collector with
  | wallClock clock calls =>
    simp only [endCall]
    split <;> rfl
  | hardware collector =>
    simp only [endCall, HardwareCollector.endCall]
    split
    · rfl
    · rfl
    · split <;> rfl
  | user callbacks calls =>
    simp only [endCall]
    split <;> rfl
  | adapter inner calls ih =>
    simp only [endCall]
    split
    · rfl
    · exact congrArg wrapping ih

theorem cleared_discardCall (collector : Collector σ) (thread : ThreadId) (id : CallId) (world : σ) :
    (collector.discardCall thread id world).2.1.cleared = collector.cleared := by
  cases collector with
  | hardware collector =>
    simp only [discardCall, HardwareCollector.discardCall]
    split <;> rfl
  | wallClock clock calls => exact cleared_endCall (wallClock clock calls) thread id world
  | user callbacks calls => exact cleared_endCall (user callbacks calls) thread id world
  | adapter inner calls => exact cleared_endCall (adapter inner calls) thread id world

end Collector

namespace Request

theorem cleared_after (request : Request σ) : request.after.cleared = request.collector.cleared := by
  obtain ⟨collector, thread, demand, world⟩ := request
  cases demand with
  | begin id device => exact Collector.cleared_beginCall collector thread id device world
  | finish id => exact Collector.cleared_endCall collector thread id world
  | discard id => exact Collector.cleared_discardCall collector thread id world

/-- What is said of a collector under the name of its errors. -/
def marker (request : Request σ) (message : String) : MetricMap :=
  .ofList [(Session.errorName request.collector, .text message)]

def recorded (request : Request σ) : Except ProfileError MetricMap → MetricMap
  | .ok values => values
  | .error error => request.marker error.message

/-- What a request adds to the record of its call. -/
def report (request : Request σ) : MetricMap :=
  match request.demand with
  | .begin _ _ =>
    match request.answer with
    | .ok _ => .empty
    | .error error => request.marker error.message
  | .finish id => request.recorded (request.collector.endCall request.thread id request.world).1
  | .discard _ =>
    match request.answer with
    | .ok _ => request.marker Session.leftOpenMessage
    | .error error => request.marker error.message

def addTo (metrics : MetricMap) (request : Request σ) : MetricMap := metrics.insertAll request.report.entries

theorem insertAll_marker (metrics : MetricMap) (request : Request σ) (message : String) :
    metrics.insertAll (request.marker message).entries =
      metrics.insert (Session.errorName request.collector) (.text message) := rfl

theorem get?_foldl_addTo (requests : List (Request σ)) (metrics : MetricMap) (name : String) :
    (requests.foldl addTo metrics).get? name =
      (requests.reverse.findSome? (·.report.get? name)).or (metrics.get? name) := by
  induction requests generalizing metrics with
  | nil => rfl
  | cons request rest ih =>
    rw [List.foldl_cons, ih, addTo, SortedMap.get?_insertAll_entries, List.reverse_cons, List.findSome?_append,
      Option.or_assoc]
    simp

end Request

namespace Session

section Opening

variable {thread : ThreadId} {id : CallId} {device : Device} {errors : MetricMap}

theorem openWith_cons (collector : Collector σ) (rest : List (Collector σ)) (world : σ) :
    openWith thread id device errors world (collector :: rest) =
      let request : Request σ := ⟨collector, thread, .begin id device, world⟩
      let opening := openWith thread id device (request.addTo errors) request.worldAfter rest
      { opening with
        collectors := request.after :: opening.collectors
        began := request.answer.isOk :: opening.began } := by
  have name := Collector.name_beginCall collector thread id device world
  rcases answered : collector.beginCall thread id device world with ⟨_ | _, after, worldAfter⟩
  · simp only [answered] at name
    simp only [openWith, Request.addTo, Request.report, Request.answer, Request.after, Request.worldAfter,
      Request.respond, answered, Request.insertAll_marker, errorName, name]
    rfl
  · simp only [openWith, Request.addTo, Request.report, Request.answer, Request.after, Request.worldAfter,
      Request.respond, answered]
    rfl

theorem openWith_errors (world : σ) (collectors : List (Collector σ)) :
    (openWith thread id device errors world collectors).errors =
      (openRequests thread id device world collectors).foldl Request.addTo errors := by
  induction collectors generalizing errors world with
  | nil => rfl
  | cons collector rest ih =>
    rw [openWith_cons, openRequests, List.foldl_cons]
    exact ih _

theorem cleared_openWith (world : σ) (collectors : List (Collector σ)) :
    (openWith thread id device errors world collectors).collectors.map Collector.cleared =
      collectors.map Collector.cleared := by
  induction collectors generalizing errors world with
  | nil => rfl
  | cons collector rest ih =>
    rw [openWith_cons]
    simp only [List.map_cons, ih, Request.cleared_after]

end Opening

section Closing

variable {thread : ThreadId} {call : OpenCall} {metrics : MetricMap}

theorem closeOne_eq (collector : Collector σ) (world : σ) :
    closeOne thread call collector metrics world =
      let request : Request σ := ⟨collector, thread, closingDemand thread call collector, world⟩
      (request.after, request.addTo metrics, request.worldAfter) := by
  by_cases discarded : call.thread ≠ thread ∧ collector.threadBound
  · rcases answered : collector.discardCall thread call.id world with ⟨_ | _, after, worldAfter⟩ <;>
      simp only [closeOne, closingDemand, Request.addTo, Request.report, Request.answer, Request.after,
        Request.worldAfter, Request.respond, if_pos discarded, answered, Request.insertAll_marker]
  · have name : (collector.endCall thread call.id world).2.1.name = collector.name := by
      rw [← Collector.name_cleared, Collector.cleared_endCall, Collector.name_cleared]
    rcases answered : collector.endCall thread call.id world with ⟨_ | _, after, worldAfter⟩
    · simp only [answered] at name
      simp only [closeOne, closingDemand, Request.addTo, Request.report, Request.recorded, Request.after,
        Request.worldAfter, Request.respond, if_neg discarded, answered, Request.insertAll_marker, errorName, name]
    · simp only [closeOne, closingDemand, Request.addTo, Request.report, Request.recorded, Request.after,
        Request.worldAfter, Request.respond, if_neg discarded, answered]

theorem closeWith_taken (collector : Collector σ) (rest : List (Collector σ)) (began : List Bool) (world : σ) :
    closeWith thread call metrics world (collector :: rest) (true :: began) =
      let request : Request σ := ⟨collector, thread, closingDemand thread call collector, world⟩
      let closing := closeWith thread call (request.addTo metrics) request.worldAfter rest began
      { closing with collectors := request.after :: closing.collectors } := by
  simp only [closeWith, closeOne_eq]

theorem closeWith_metrics (world : σ) (collectors : List (Collector σ)) (began : List Bool) :
    (closeWith thread call metrics world collectors began).metrics =
      (closeRequests thread call world collectors began).foldl Request.addTo metrics := by
  induction collectors generalizing metrics world began with
  | nil => rfl
  | cons collector rest ih =>
    match began with
    | [] => rfl
    | false :: began => exact ih world began
    | true :: began =>
      rw [closeWith_taken, closeRequests, List.foldl_cons]
      exact ih _ began

theorem cleared_closeWith (world : σ) (collectors : List (Collector σ)) (began : List Bool) :
    (closeWith thread call metrics world collectors began).collectors.map Collector.cleared =
      collectors.map Collector.cleared := by
  induction collectors generalizing metrics world began with
  | nil => rfl
  | cons collector rest ih =>
    match began with
    | [] => rfl
    | false :: began => simp only [closeWith, List.map_cons, ih]
    | true :: began =>
      rw [closeWith_taken]
      simp only [List.map_cons, ih, Request.cleared_after]

end Closing
end Session

end CallProfile
