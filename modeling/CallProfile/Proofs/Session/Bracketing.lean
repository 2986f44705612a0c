import Mathlib.Logic.Function.Basic
import CallProfile.Proofs.Session.Conservation
import CallProfile.Proofs.Session.ThreadStacks

namespace CallProfile.Session

variable {σ α : Type}

inductive Bracket where
  | pair
  | finished
  | dropped
deriving DecidableEq

structure Scope where
  name : String
  device : Device
  bracket : Bracket

/-- Calls that follow each other, each with the calls that are made in its scope. -/
inductive CallForest where
  | none
  | call (scope : Scope) (inner rest : CallForest)

inductive Step where
  | enter (scope : Scope)
  | leave (bracket : Bracket)

/-- A call and how deep it stands, a root at level 1. -/
structure Visit where
  name : String
  device : Device
  level : Nat

def Visit.heading (visit : Visit) : Heading := ⟨visit.name, visit.device, .ofNat visit.level⟩

namespace CallForest

def walk : CallForest → List Step
  | none => []
  | call scope inner rest => .enter scope :: (inner.walk ++ .leave scope.bracket :: rest.walk)

/-- The calls, each behind those in its scope; `level` is that of the roots. -/
def postOrder (level : Nat) : CallForest → List Visit
  | none => []
  | call scope inner rest =>
    inner.postOrder (level + 1) ++ ⟨scope.name, scope.device, level⟩ :: rest.postOrder level

def height : CallForest → Nat
  | none => 0
  | call _ inner rest => max (inner.height + 1) rest.height

theorem level_of_mem_postOrder {forest : CallForest} {level : Nat} {visit : Visit}
    (member : visit ∈ forest.postOrder level) : visit.level < level + forest.height := by
  induction forest generalizing level with
  | none => cases member
  | call scope inner rest within beside =>
    rw [height]
    rcases List.mem_append.mp member with member | member
    · have := within member
      omega
    · rcases List.mem_cons.mp member with rfl | member
      · show level < level + max (inner.height + 1) rest.height
        omega
      · have := beside member
        omega

end CallForest

theorem Visit.depth_heading {visit : Visit} (fits : visit.level < UInt32.size) :
    visit.heading.depth.toNat = visit.level :=
  UInt32.toNat_ofNat_of_lt' fits

def Scope.beginning (scope : Scope) (thread : ThreadId) : Event σ α :=
  match scope.bracket with
  | .pair => .beginCall thread scope.name scope.device
  | .finished | .dropped => .enter thread scope.name scope.device

def Bracket.ending (bracket : Bracket) (thread : ThreadId) (id : CallId) : Event σ α :=
  match bracket with
  | .pair => .endCall thread id
  | .finished => .finish ⟨id, thread⟩
  | .dropped => .drop ⟨id, thread⟩

theorem Scope.beginning?_beginning (scope : Scope) (thread : ThreadId) :
    (scope.beginning thread : Event σ α).beginning? = some (thread, scope.name, scope.device) := by
  rw [beginning]
  cases scope.bracket <;> rfl

theorem Bracket.ending?_ending (bracket : Bracket) (thread : ThreadId) (id : CallId) :
    (bracket.ending thread id : Event σ α).ending? = some (thread, id) := by
  cases bracket <;> rfl

/-- What happens next: a thread goes on, or the world does something by itself. -/
inductive Turn (α : Type) where
  | go (thread : ThreadId) (step : Step)
  | outside (action : α)

structure Execution (σ α : Type) where
  run : Run σ α
  /-- The calls that a thread has to end, the innermost one first, by the ids that it was given for them. -/
  held : ThreadId → List CallId

def Outcome.begun? : Outcome → Option CallId
  | .began id => some id
  | _ => none

def Outcome.ended? : Outcome → Option CallId
  | .ended id => some id
  | _ => none

def Run.outcome (act : α → σ → σ) (run : Run σ α) (event : Event σ α) : Outcome :=
  (perform act run.session run.world event).1

/-- Takes a turn. There is nothing after a call that cannot begin or end where the program wants it to. -/
def Execution.take (act : α → σ → σ) (execution : Execution σ α) : Turn α → Option (Execution σ α)
  | .outside action => some { execution with run := execution.run.next act (.outside action) }
  | .go thread (.enter scope) => do
    let event := scope.beginning thread
    let id ← (execution.run.outcome act event).begun?
    return ⟨execution.run.next act event, Function.update execution.held thread (id :: execution.held thread)⟩
  | .go thread (.leave bracket) => do
    let id ← (execution.held thread).head?
    let event := bracket.ending thread id
    let _ ← (execution.run.outcome act event).ended?
    return ⟨execution.run.next act event, Function.update execution.held thread (execution.held thread).tail⟩

def Execution.takeAll (act : α → σ → σ) (execution : Execution σ α) (schedule : List (Turn α)) :
    Option (Execution σ α) := schedule.foldlM (Execution.take act) execution

def Turn.stepOf? (thread : ThreadId) : Turn α → Option Step
  | .go mover step => if mover = thread then some step else none
  | .outside _ => none

def stepsOf (thread : ThreadId) (schedule : List (Turn α)) : List Step := schedule.filterMap (Turn.stepOf? thread)

/-- What a thread has open, the innermost call first, and what is recorded of the others, the last one first. -/
structure Course where
  around : List Heading
  left : List Heading

def Course.next (course : Course) : Step → Option Course
  | .enter scope =>
    some { course with
      around := ⟨scope.name, scope.device, .ofNat (course.around.length + 1)⟩ :: course.around }
  | .leave _ =>
    match course.around with
    | [] => none
    | top :: around => some ⟨around, top :: course.left⟩

theorem course_walk (forest : CallForest) (course : Course) :
    forest.walk.foldlM Course.next course =
      some ⟨course.around,
        ((forest.postOrder (course.around.length + 1)).map Visit.heading).reverse ++ course.left⟩ := by
  induction forest generalizing course with
  | none => rfl
  | call scope inner rest within beside =>
    simp only [CallForest.walk, CallForest.postOrder, List.foldlM_cons, List.foldlM_append, Course.next,
      Option.bind_eq_bind, Option.bind_some, within, beside, List.length_cons]
    simp [Visit.heading]

/-- An execution has come to where each thread would be on its own. -/
structure Follows (execution : Execution σ α) (courses : ThreadId → Course) : Prop where
  running : execution.run.session.phase = .running
  accounted : execution.run.Accounted
  held : ∀ thread, execution.held thread = (execution.run.session.pending.on thread).map (·.id)
  around : ∀ thread, (execution.run.session.pending.on thread).map OpenCall.heading = (courses thread).around
  left : ∀ thread, execution.run.contributed thread = (courses thread).left

namespace Follows

variable {execution : Execution σ α} {courses : ThreadId → Course}

theorem outside (follows : Follows execution courses) (act : α → σ → σ) (action : α) :
    Follows { execution with run := execution.run.next act (.outside action) } courses where
  running := follows.running
  accounted := follows.accounted.quiet rfl rfl rfl rfl rfl
  held := follows.held
  around := follows.around
  left := follows.left

theorem enter (follows : Follows execution courses) (act : α → σ → σ) (thread : ThreadId) (scope : Scope) :
    ∃ after, execution.take act (.go thread (.enter scope)) = some after ∧
      Follows after (Function.update courses thread
        { courses thread with
          around := ⟨scope.name, scope.device, .ofNat ((courses thread).around.length + 1)⟩ ::
            (courses thread).around }) := by
  have asked : (scope.beginning thread : Event σ α).beginning? = some (thread, scope.name, scope.device) :=
    scope.beginning?_beginning thread
  have accepted := perform_began act follows.running execution.run.world asked
  have length : (execution.run.session.pending.on thread).length = (courses thread).around.length := by
    rw [← follows.around, List.length_map]
  refine ⟨⟨execution.run.next act (scope.beginning thread),
    Function.update execution.held thread (execution.run.session.nextId :: execution.held thread)⟩, ?_, ?_⟩
  · simp only [Execution.take, Run.outcome, accepted]
    rfl
  · rw [Run.next, accepted]
    refine ⟨follows.running, follows.accounted.begin asked _, fun other => ?_, fun other => ?_, fun other => ?_⟩
    · by_cases own : other = thread
      · subst own
        simp only [begun, CallStacks.on_setOn_self, Function.update_self, List.map_cons, follows.held]
        rfl
      · simp only [begun, CallStacks.on_setOn_of_ne _ own, Function.update_of_ne own, follows.held]
    · by_cases own : other = thread
      · subst own
        simp only [begun, CallStacks.on_setOn_self, Function.update_self, List.map_cons, follows.around,
          nextCall, OpenCall.heading, length]
      · simp only [begun, CallStacks.on_setOn_of_ne _ own, Function.update_of_ne own, follows.around]
    · have kept := follows.left other
      by_cases own : other = thread
      · subst own
        rw [Function.update_self]
        exact kept
      · rw [Function.update_of_ne own]
        exact kept

theorem leave (follows : Follows execution courses) (act : α → σ → σ) (thread : ThreadId) (bracket : Bracket)
    {top : Heading} {around : List Heading} (within : (courses thread).around = top :: around) :
    ∃ after, execution.take act (.go thread (.leave bracket)) = some after ∧
      Follows after (Function.update courses thread ⟨around, top :: (courses thread).left⟩) := by
  have headings := follows.around thread
  rw [within] at headings
  obtain ⟨frame, frames, onStack, rfl, rfl⟩ := List.map_eq_cons_iff.mp headings
  have asked : (bracket.ending thread frame.id : Event σ α).ending? = some (thread, frame.id) :=
    bracket.ending?_ending thread frame.id
  have accepted := perform_ended act follows.running execution.run.world asked onStack
  have held := follows.held thread
  rw [onStack, List.map_cons] at held
  obtain ⟨call, isOpen, same, own⟩ := follows.accounted.begun_of_top onStack
  have caller : call.thread = thread := (congrArg Outline.thread same).trans own
  refine ⟨⟨execution.run.next act (bracket.ending thread frame.id),
    Function.update execution.held thread (execution.held thread).tail⟩, ?_, ?_⟩
  · simp only [Execution.take, Run.outcome, held, List.head?_cons, Option.bind_eq_bind, Option.bind_some, accepted]
    rfl
  · rw [Run.next, accepted]
    refine ⟨follows.running, follows.accounted.finish _ onStack _, fun other => ?_, fun other => ?_, fun other => ?_⟩
    · by_cases own : other = thread
      · subst own
        simp only [popped, CallStacks.on_setOn_self, Function.update_self, held, List.tail_cons]
      · simp only [popped, CallStacks.on_setOn_of_ne _ own, Function.update_of_ne own, follows.held]
    · by_cases own : other = thread
      · subst own
        simp only [popped, CallStacks.on_setOn_self, Function.update_self]
      · simp only [popped, CallStacks.on_setOn_of_ne _ own, Function.update_of_ne own, follows.around]
    · refine (follows.accounted.contributed_popped _ thread frames isOpen same _ _ other).trans ?_
      rw [caller]
      by_cases own : other = thread
      · subst own
        rw [if_pos rfl, Function.update_self, follows.left]
      · rw [if_neg (Ne.symm own), Function.update_of_ne own, follows.left]

theorem take (follows : Follows execution courses) (act : α → σ → σ) (thread : ThreadId) (step : Step)
    {course : Course} (moved : (courses thread).next step = some course) :
    ∃ after, execution.take act (.go thread step) = some after ∧
      Follows after (Function.update courses thread course) := by
  cases step with
  | enter scope =>
    cases moved
    exact follows.enter act thread scope
  | leave bracket =>
    rw [Course.next] at moved
    cases within : (courses thread).around with
    | nil => simp [within] at moved
    | cons top around =>
      rw [within] at moved
      cases moved
      exact follows.leave act thread bracket within

theorem takeAll (act : α → σ → σ) {execution : Execution σ α} {courses : ThreadId → Course}
    (follows : Follows execution courses) (schedule : List (Turn α)) {last : ThreadId → Course}
    (moved : ∀ thread, (stepsOf thread schedule).foldlM Course.next (courses thread) = some (last thread)) :
    ∃ after, execution.takeAll act schedule = some after ∧ Follows after last := by
  induction schedule generalizing execution courses with
  | nil =>
    have same : courses = last := funext fun thread => Option.some.inj (moved thread)
    exact ⟨execution, rfl, same ▸ follows⟩
  | cons turn rest ih =>
    cases turn with
    | outside action => exact ih (follows.outside act action) moved
    | go mover step =>
      have own : stepsOf mover (.go mover step :: rest) = step :: stepsOf mover rest := by
        simp [stepsOf, Turn.stepOf?]
      have first := moved mover
      rw [own, List.foldlM_cons] at first
      obtain ⟨course, stepped, further⟩ := Option.bind_eq_some_iff.mp first
      obtain ⟨after, taken, followed⟩ := follows.take act mover step stepped
      obtain ⟨final, arrived, all⟩ := ih followed fun thread => by
        by_cases same : thread = mover
        · subst same
          rw [Function.update_self]
          exact further
        · have others : stepsOf thread (.go mover step :: rest) = stepsOf thread rest := by
            simp [stepsOf, Turn.stepOf?, Ne.symm same]
          rw [Function.update_of_ne same, ← others]
          exact moved thread
      refine ⟨final, ?_, all⟩
      rw [Execution.takeAll, List.foldlM_cons, taken]
      exact arrived

end Follows

theorem finalize_of_nothing_open {session : Session σ} (running : session.phase = .running)
    (closed : session.openCalls = 0) (thread : ThreadId) (world : σ) :
    session.finalize thread world = .ok (.ofCalls session.ended.reverse,
      { session with phase := .finalized, pending := .empty, ended := [] }, world) := by
  have nothing : session.pending.all = [] := List.eq_nil_of_length_eq_zero closed
  have sorted : newestFirst [] = [] := List.mergeSort_nil
  rw [finalize, finalizeFrom_of_running running, truncated, nothing, sorted]
  rfl

def Run.recordsBy (run : Run σ α) (report : Report) (thread : ThreadId) : List CallRecord :=
  ((run.history.closedCalls.reverse.zip report.calls).filter fun entry => entry.1.1.thread = thread).map (·.2)

theorem Run.Accounted.headings_recordsBy {run : Run σ α} (accounted : run.Accounted) {report : Report}
    (calls : report.calls = run.session.ended.reverse) (thread : ThreadId) :
    (run.recordsBy report thread).map CallRecord.heading = (run.contributed thread).reverse := by
  have counts : run.history.closedCalls.length = run.session.ended.length := by
    simpa using (congrArg List.length accounted.records).symm
  have pairs : run.history.closedCalls.reverse.zip report.calls =
      (run.history.closedCalls.zip run.session.ended).reverse := by
    rw [calls]
    exact (List.reverse_zipWith counts).symm
  rw [Run.recordsBy, pairs, List.filter_reverse, List.map_reverse, List.map_reverse, List.map_map]
  rfl

/-- Every call has ended, and each thread has reported the calls of its program in post-order. -/
structure ReportsInPostOrder (start run : Run σ α) (program : ThreadId → CallForest) : Prop where
  running : run.session.phase = .running
  nothing_open : run.session.openCalls = 0
  reported : ∀ closer, ∃ report after worldAfter,
    run.session.finalize closer run.world = .ok (report, after, worldAfter) ∧
      report.calls = run.session.ended.reverse ∧
      ∀ thread, (run.recordsBy report thread).map CallRecord.heading =
        (start.contributed thread).reverse ++ ((program thread).postOrder 1).map Visit.heading

theorem openCalls_eq_zero_iff (session : Session σ) :
    session.openCalls = 0 ↔ ∀ thread, session.pending.on thread = [] := by
  have empty (calls : List OpenCall) : calls = [] ↔ ∀ call, call ∉ calls := List.eq_nil_iff_forall_not_mem
  rw [openCalls, List.length_eq_zero_iff, empty]
  simp only [empty, CallStacks.mem_all_iff, not_exists]
  exact forall_comm

theorem Follows.reportsInPostOrder {start : Run σ α} {execution : Execution σ α} {program : ThreadId → CallForest}
    (follows : Follows execution fun thread =>
      ⟨[], (((program thread).postOrder 1).map Visit.heading).reverse ++ start.contributed thread⟩) :
    ReportsInPostOrder start execution.run program := by
  have bare (thread : ThreadId) : execution.run.session.pending.on thread = [] :=
    List.map_eq_nil_iff.mp (follows.around thread)
  have closed := (openCalls_eq_zero_iff _).mpr bare
  refine ⟨follows.running, closed, fun closer => ⟨_, _, _,
    finalize_of_nothing_open follows.running closed closer execution.run.world, rfl, fun thread => ?_⟩⟩
  rw [follows.accounted.headings_recordsBy rfl, follows.left, List.reverse_append, List.reverse_reverse]

/--
Threads that go through their calls depth first, in whatever order they take turns and whatever their collectors
do: each call begins and ends, none is left to be truncated, and each thread reports its calls in post-order.
-/
theorem bracketed_programs_report_in_post_order (act : α → σ → σ) (config : SessionConfig) (world : σ)
    (events : List (Event σ α)) {start : Run σ α} (played : start = (Run.fresh config world).play act events)
    (running : start.session.phase = .running) (idle : start.session.openCalls = 0)
    (program : ThreadId → CallForest) (schedule : List (Turn α))
    (interleaved : ∀ thread, stepsOf thread schedule = (program thread).walk) :
    (∃ execution, (Execution.mk start fun _ => []).takeAll act schedule = some execution ∧
      ReportsInPostOrder start execution.run program) ∧
      ∀ thread, (program thread).height < UInt32.size →
        ∀ visit ∈ (program thread).postOrder 1, visit.heading.depth.toNat = visit.level := by
  constructor
  · have accounted : start.Accounted := played ▸
      accounted_play act (accounted_fresh config world) events (by rw [← played, running]; decide)
    have bare := (openCalls_eq_zero_iff _).mp idle
    have follows : Follows ⟨start, fun _ => []⟩ fun thread => ⟨[], start.contributed thread⟩ :=
      ⟨running, accounted, fun thread => by rw [bare]; rfl, fun thread => by rw [bare]; rfl, fun _ => rfl⟩
    obtain ⟨execution, taken, followed⟩ := follows.takeAll act schedule fun thread => by
      rw [interleaved, course_walk]
    exact ⟨execution, taken, followed.reportsInPostOrder⟩
  · intro thread shallow visit member
    have := CallForest.level_of_mem_postOrder member
    exact Visit.depth_heading (by omega)

def nestedProgram : CallForest :=
  .call ⟨"outer", .cpu 0, .pair⟩ (.call ⟨"inner", .gpu 0, .dropped⟩ .none .none)
    (.call ⟨"next", .cpu 0, .finished⟩ .none .none)

def twoPrograms (thread : ThreadId) : CallForest :=
  if thread = ⟨0⟩ then nestedProgram
  else if thread = ⟨1⟩ then .call ⟨"other", .gpu 0, .pair⟩ .none .none
  else .none

def alternating : List (Turn Empty) :=
  [.go ⟨0⟩ (.enter ⟨"outer", .cpu 0, .pair⟩), .go ⟨0⟩ (.enter ⟨"inner", .gpu 0, .dropped⟩),
    .go ⟨1⟩ (.enter ⟨"other", .gpu 0, .pair⟩), .go ⟨0⟩ (.leave .dropped), .go ⟨0⟩ (.leave .pair),
    .go ⟨1⟩ (.leave .pair), .go ⟨0⟩ (.enter ⟨"next", .cpu 0, .finished⟩), .go ⟨0⟩ (.leave .finished)]

theorem stepsOf_alternating (thread : ThreadId) : stepsOf thread alternating = (twoPrograms thread).walk := by
  by_cases first : thread = ⟨0⟩
  · subst first
    rfl
  · by_cases second : thread = ⟨1⟩
    · subst second
      rfl
    · simp [alternating, twoPrograms, stepsOf, Turn.stepOf?, CallForest.walk, first, second, Ne.symm first, Ne.symm second]

theorem bracketed_programs_report_in_post_order_alternating :
    ∃ start : Run Unit Empty, start = (Run.fresh (.named "run") ()).play (fun action _ => action.elim) [.start unreliable] ∧
      start.session.phase = .running ∧ start.session.openCalls = 0 ∧
      (∀ thread, stepsOf thread alternating = (twoPrograms thread).walk) ∧
      (∃ execution, (Execution.mk start fun _ => []).takeAll (fun action _ => action.elim) alternating = some execution ∧
        ReportsInPostOrder start execution.run twoPrograms) ∧
      ((twoPrograms ⟨0⟩).postOrder 1).map Visit.heading =
        [⟨"inner", .gpu 0, 2⟩, ⟨"outer", .cpu 0, 1⟩, ⟨"next", .cpu 0, 1⟩] :=
  ⟨_, rfl, rfl, rfl, stepsOf_alternating,
    (bracketed_programs_report_in_post_order (fun action _ => action.elim) (.named "run") () [.start unreliable] rfl rfl
      rfl twoPrograms alternating stepsOf_alternating).1, rfl⟩

end CallProfile.Session
