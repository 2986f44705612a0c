import CallProfile.Report
import CallProfile.Session.Config

namespace CallProfile

inductive Phase where
  | idle
  | running
  | finalized
deriving DecidableEq, Inhabited

structure OpenCall where
  id : CallId
  name : String
  device : Device
  depth : UInt32
  thread : ThreadId
  began : List Bool
  errors : MetricMap
deriving DecidableEq

abbrev CallStacks := SortedMap ThreadId (List OpenCall)

namespace CallStacks

def on (pending : CallStacks) (thread : ThreadId) : List OpenCall := (pending.get? thread).getD []

def setOn (pending : CallStacks) (thread : ThreadId) (calls : List OpenCall) : CallStacks :=
  if calls.isEmpty then pending.erase thread else pending.insert thread calls

def all (pending : CallStacks) : List OpenCall := pending.entries.flatMap (·.2)

@[simp] theorem on_setOn_self (pending : CallStacks) (thread : ThreadId) (calls : List OpenCall) :
    (pending.setOn thread calls).on thread = calls := by
  cases calls <;> simp [setOn, on]

theorem on_setOn_of_ne (pending : CallStacks) {thread other : ThreadId} (h : other ≠ thread)
    (calls : List OpenCall) : (pending.setOn thread calls).on other = pending.on other := by
  cases calls <;> simp [setOn, on, SortedMap.get?_erase_of_ne _ h, SortedMap.get?_insert_of_ne _ h]

end CallStacks

structure Session (σ : Type) where
  config : SessionConfig
  phase : Phase
  collectors : List (Collector σ)
  nextId : CallId
  pending : CallStacks
  ended : List CallRecord

namespace Session

variable {σ : Type}

def new (config : SessionConfig) : Session σ := ⟨config, .idle, [], ⟨1⟩, .empty, []⟩

def openCalls (session : Session σ) : Nat := session.pending.all.length

def start (session : Session σ) (collectors : List (Collector σ)) : Except ProfileError (Session σ) :=
  match session.phase with
  | .idle => .ok { session with phase := .running, collectors }
  | .running => .error .alreadyStarted
  | .finalized => .error .alreadyFinalized

def ofConfig (config : SessionConfig) (clock : Clock σ) (backend : Backend σ) (world : σ) :
    Except Failure (Session σ) := do
  attempting [.checkConfig] .config config.validate
  let collectors ← (config.collectors clock backend world).mapError (Failure.during .buildCollectors)
  attempting [] .profile ((new config).start collectors)

def ensureRunning (session : Session σ) : Except ProfileError Unit :=
  match session.phase with
  | .running => .ok ()
  | .idle => .error .notRunning
  | .finalized => .error .alreadyFinalized

def errorName (collector : Collector σ) : String := collector.name ++ " error"

structure Opening (σ : Type) where
  collectors : List (Collector σ)
  began : List Bool
  errors : MetricMap
  world : σ

def openWith (thread : ThreadId) (id : CallId) (device : Device) (errors : MetricMap) (world : σ) :
    List (Collector σ) → Opening σ
  | [] => ⟨[], [], errors, world⟩
  | collector :: rest =>
    match collector.beginCall thread id device world with
    | (.ok _, collector, world) =>
      let opening := openWith thread id device errors world rest
      { opening with collectors := collector :: opening.collectors, began := true :: opening.began }
    | (.error error, collector, world) =>
      let errors := errors.insert (errorName collector) (.text error.message)
      let opening := openWith thread id device errors world rest
      { opening with collectors := collector :: opening.collectors, began := false :: opening.began }

/-- Begins a call on a thread. Collectors that refuse the call do not prevent it. -/
def beginCall (session : Session σ) (thread : ThreadId) (name : String) (device : Device) (world : σ) :
    Except ProfileError (CallId × Session σ × σ) := do
  session.ensureRunning
  let id := session.nextId
  let opening := openWith thread id device .empty world session.collectors
  let around := session.pending.on thread
  let call : OpenCall :=
    ⟨id, name, device, .ofNat (around.length + 1), thread, opening.began, opening.errors⟩
  let session := { session with
    collectors := opening.collectors
    nextId := ⟨id.number + 1⟩
    pending := session.pending.setOn thread (call :: around) }
  return (id, session, opening.world)

structure Closing (σ : Type) where
  collectors : List (Collector σ)
  metrics : MetricMap
  world : σ

def leftOpenMessage : String := "call was left open on another thread"

/-- Takes the metrics of a call from one collector and puts them over those that are there. -/
def closeOne (thread : ThreadId) (call : OpenCall) (collector : Collector σ) (metrics : MetricMap) (world : σ) :
    Collector σ × MetricMap × σ :=
  if call.thread ≠ thread ∧ collector.threadBound then
    let (result, after, world) := collector.discardCall thread call.id world
    let message := match result with
      | .ok _ => leftOpenMessage
      | .error error => error.message
    (after, metrics.insert (errorName collector) (.text message), world)
  else
    match collector.endCall thread call.id world with
    | (.ok values, collector, world) => (collector, metrics.insertAll values.entries, world)
    | (.error error, collector, world) =>
      (collector, metrics.insert (errorName collector) (.text error.message), world)

def closeWith (thread : ThreadId) (call : OpenCall) (metrics : MetricMap) (world : σ) :
    List (Collector σ) → List Bool → Closing σ
  | [], _ => ⟨[], metrics, world⟩
  | collectors, [] => ⟨collectors, metrics, world⟩
  | collector :: rest, false :: began =>
    let closing := closeWith thread call metrics world rest began
    { closing with collectors := collector :: closing.collectors }
  | collector :: rest, true :: began =>
    let (collector, metrics, world) := closeOne thread call collector metrics world
    let closing := closeWith thread call metrics world rest began
    { closing with collectors := collector :: closing.collectors }

def markTruncated (metrics : MetricMap) : MetricMap := metrics.insert truncatedName (.text "true")

def close (session : Session σ) (thread : ThreadId) (call : OpenCall) (truncated : Bool) (world : σ) :
    CallRecord × Session σ × σ :=
  let closing := closeWith thread call call.errors world session.collectors call.began
  let metrics := if truncated then markTruncated closing.metrics else closing.metrics
  (⟨call.name, call.device, call.depth, metrics⟩, { session with collectors := closing.collectors },
    closing.world)

def noOpenCallMessage : String := "no open call on this thread"

def innerCallMessage (call : OpenCall) : String :=
  "innermost open call on this thread is " ++ call.id.text ++ " `" ++ call.name ++ "`"

def endCall (session : Session σ) (thread : ThreadId) (id : CallId) (world : σ) :
    Except ProfileError (Session σ × σ) := do
  session.ensureRunning
  match session.pending.on thread with
  | [] => throw (.unmatched id noOpenCallMessage)
  | call :: around =>
    if call.id = id then
      let (record, session, world) := session.close thread call false world
      let session := { session with
        pending := session.pending.setOn thread around
        ended := record :: session.ended }
      return (session, world)
    else throw (.unmatched id (innerCallMessage call))

def newestFirst (calls : List OpenCall) : List OpenCall :=
  calls.mergeSort fun before after => after.id.number ≤ before.id.number

def truncate (thread : ThreadId) (session : Session σ) (world : σ) : List OpenCall → Session σ × σ
  | [] => (session, world)
  | call :: rest =>
    let (record, session, world) := session.close thread call true world
    truncate thread { session with ended := record :: session.ended } world rest

/-- Ends the session when its open calls, of whatever thread, are found in the order of `found`. -/
def finalizeFrom (session : Session σ) (found : List OpenCall) (thread : ThreadId) (world : σ) :
    Except ProfileError (Report × Session σ × σ) := do
  session.ensureRunning
  let (session, world) :=
    truncate thread { session with phase := .finalized, pending := .empty } world (newestFirst found)
  return (.ofCalls session.ended.reverse, { session with ended := [] }, world)

/--
Ends the session and makes its report. The calls that are still open are closed as truncated, the one
that began last first.
-/
def finalize (session : Session σ) (thread : ThreadId) (world : σ) :
    Except ProfileError (Report × Session σ × σ) :=
  session.finalizeFrom session.pending.all thread world

end Session

/-- A call that is ended by its guard, on the thread that began it. -/
structure CallGuard where
  id : CallId
  thread : ThreadId
deriving DecidableEq

namespace CallGuard

variable {σ : Type}

def enter (session : Session σ) (thread : ThreadId) (name : String) (device : Device) (world : σ) :
    Except ProfileError (CallGuard × Session σ × σ) := do
  let (id, session, world) ← session.beginCall thread name device world
  return (⟨id, thread⟩, session, world)

def finish (guard : CallGuard) (session : Session σ) (world : σ) : Except ProfileError (Session σ × σ) :=
  session.endCall guard.thread guard.id world

def drop (guard : CallGuard) (session : Session σ) (world : σ) : Session σ × σ :=
  match guard.finish session world with
  | .ok after => after
  | .error _ => (session, world)

end CallGuard

end CallProfile
