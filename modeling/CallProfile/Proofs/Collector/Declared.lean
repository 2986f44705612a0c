import CallProfile.Proofs.Collector.Increments
import CallProfile.Proofs.Counter.Manual
import CallProfile.Proofs.Session.Config

namespace CallProfile

namespace ManualCounters

def knows (counters : ManualCounters) (device : Device) : Bool := counters.values.contains device

structure Later (before after : ManualCounters) : Prop where
  devices : ∀ device, before.knows device → after.knows device
  counters : ∀ device counter, (before.value? device counter).isSome → (after.value? device counter).isSome

namespace Later

theorem refl (counters : ManualCounters) : Later counters counters := ⟨fun _ => id, fun _ _ => id⟩

theorem trans {first second third : ManualCounters} (left : Later first second) (right : Later second third) :
    Later first third :=
  ⟨fun device known => right.devices device (left.devices device known),
    fun device counter declared => right.counters device counter (left.counters device counter declared)⟩

theorem set (counters : ManualCounters) (place : Device) (name : String) (value : Count) :
    Later counters (counters.set place name value) where
  devices device known := by
    rw [knows, SortedMap.contains] at known
    rw [knows, SortedMap.contains, ManualCounters.set, SortedMap.get?_insert]
    split
    · rfl
    · exact known
  counters device counter declared := by
    rw [value?_set]
    split
    · rfl
    · exact declared

theorem apply (counters : ManualCounters) (operation : Operation) : Later counters (counters.apply operation) := by
  cases operation with
  | define device counter =>
    rw [ManualCounters.apply, define_eq_set]
    exact set counters device counter _
  | add device counter amount =>
    rw [apply_add]
    cases counters.value? device counter with
    | none => exact refl counters
    | some value => exact set counters device counter _

end Later

theorem answered_iff (thread : ThreadId) {counters : ManualCounters} {device : Device} {names : List String}
    (declared : ∀ counter ∈ names, (counters.value? device counter).isSome) :
    (∃ values, Reading.Answered (backend id) ⟨thread, device, names⟩ counters values) ↔
      names ≠ [] ∨ counters.knows device := by
  simp only [Reading.Answered, backend, id]
  by_cases listed : names = []
  · subst listed
    cases found : counters.values.get? device <;> simp [read, knows, SortedMap.contains, found, pure, Except.pure]
  · rw [read_of_declared listed declared]
    simp [listed]

/-- What is done to a collector of manual counters, or to the counters. -/
inductive Use where
  | operate (operation : Operation)
  | ask (thread : ThreadId) (demand : Demand)

def Use.move : Use → Move ManualCounters
  | operate operation => .outside (·.apply operation)
  | ask thread demand => .ask thread demand

end ManualCounters

namespace Service

/-- The collector keeps what was read at the beginnings, and its counters are later than those at any request. -/
def KeepingManual (plan : CounterPlan) (counters : ManualCounters) (service : Service ManualCounters) : Prop :=
  service.Keeping (ManualCounters.backend id) plan ∧ counters.Later service.world ∧
    ∀ request ∈ service.asked, counters.Later request.world ∧ request.world.Later service.world

theorem KeepingManual.next {plan : CounterPlan} {counters : ManualCounters} {service : Service ManualCounters}
    (keeping : service.KeepingManual plan counters) (use : ManualCounters.Use) :
    (service.next use.move).KeepingManual plan counters := by
  obtain ⟨keeping, later, past⟩ := keeping
  refine ⟨keeping.next _, ?_⟩
  cases use with
  | operate operation =>
    have step := ManualCounters.Later.apply service.world operation
    exact ⟨later.trans step, fun request asked => ⟨(past request asked).1, (past request asked).2.trans step⟩⟩
  | ask thread demand =>
    have unchanged : (service.request thread demand).worldAfter = service.world := by
      rw [(keeping.measured thread demand).world]
      cases (service.request thread demand).due plan service.asked <;> rfl
    simp only [ManualCounters.Use.move, Service.next, unchanged]
    refine ⟨later, fun request asked => ?_⟩
    rcases List.mem_cons.mp asked with rfl | asked
    · exact ⟨later, .refl _⟩
    · exact past request asked

theorem keepingManual_play (plan : CounterPlan) (counters : ManualCounters) (uses : List ManualCounters.Use) :
    ((opened (.hardware ⟨ManualCounters.backend id, plan, .empty⟩) counters).play
      (uses.map ManualCounters.Use.move)).KeepingManual plan counters := by
  refine play_induction _ ⟨keeping_opened _ plan counters, .refl counters, nofun⟩ fun service move member keeping => ?_
  obtain ⟨use, -, rfl⟩ := List.mem_map.mp member
  exact keeping.next use

section Answers

variable {plan : CounterPlan} {counters : ManualCounters} {service : Service ManualCounters}
  (keeping : service.KeepingManual plan counters)
  (declared : ∀ device names, plan.get? device = some names →
    ∀ counter ∈ names, (counters.value? device counter).isSome)
include keeping declared

theorem KeepingManual.answer_begin (thread : ThreadId) {id : CallId} (device : Device)
    (closed : opening? service.asked id = none) :
    (service.request thread (.begin id device)).answer = .ok () ↔
      ¬ (plan.get? device = some [] ∧ service.world.knows device = false) := by
  obtain ⟨keeping, later, -⟩ := keeping
  have due : (service.request thread (.begin id device)).due plan service.asked =
    (plan.get? device).map (⟨thread, device, ·⟩) := rfl
  rw [(keeping.measured thread (.begin id device)).begins id device rfl, due]
  cases planned : plan.get? device with
  | none => simp [closed]
  | some names =>
    have answered := ManualCounters.answered_iff thread fun counter listed =>
      later.counters device counter (declared device names planned counter listed)
    simp only [closed, true_and, Option.map_some, Option.some.injEq, forall_eq']
    rw [show (service.request thread (.begin id device)).world = service.world from rfl, answered]
    cases service.world.knows device <;> simp

theorem KeepingManual.answer_finish (thread : ThreadId) {id : CallId} (opened : (opening? service.asked id).isSome) :
    (service.request thread (.finish id)).answer = .ok () := by
  obtain ⟨keeping, later, past⟩ := keeping
  refine ((keeping.measured thread (.finish id)).ends id rfl).mpr ⟨opened, fun reading due => ?_⟩
  obtain ⟨opening, found⟩ := Option.isSome_iff_exists.mp opened
  obtain ⟨⟨calls, kind, keeps⟩, -⟩ := keeping
  rw [Service.request, kind] at due
  obtain ⟨device, -, ⟨-, unread, -⟩ | ⟨names, before, planned, start, here, -⟩⟩ :=
    keeps.given_opened thread service.world found
  · cases due.symm.trans unread
  · cases due.symm.trans here
    have listed {world : ManualCounters} (later : counters.Later world) :
        ∀ counter ∈ names, (world.value? device counter).isSome := fun counter member =>
      later.counters device counter (declared device names planned counter member)
    -- The device answered when the call began, and a device that is known stays known.
    obtain ⟨since, further⟩ := past opening (mem_of_opening? found)
    have answered := (ManualCounters.answered_iff opening.thread (listed since)).mp ⟨before, start⟩
    exact (ManualCounters.answered_iff thread (listed later)).mpr (answered.imp_right (further.devices device))

end Answers

end Service

/--
A collector of manual counters, once it is made, takes in every call that is not open and ends every call that is,
whatever is done meanwhile to it and to the counters; save that it takes in no call on a device that is listed with
no counters, as long as none is declared there.
-/
theorem made_collectors_answer {plan : CounterPlan} {counters : ManualCounters}
    {hardware : HardwareCollector ManualCounters}
    (made : HardwareCollector.ofPlan (ManualCounters.backend id) plan counters = .ok hardware)
    (uses : List ManualCounters.Use) :
    let service := (Service.opened (.hardware hardware) counters).play (uses.map ManualCounters.Use.move)
    (∀ thread id device, stillOpen service.asked id = false →
      ((service.request thread (.begin id device)).answer = .ok () ↔
        ¬ (plan.get? device = some [] ∧ service.world.knows device = false))) ∧
    ∀ thread id, stillOpen service.asked id = true → (service.request thread (.finish id)).answer = .ok () := by
  obtain ⟨rfl, supported⟩ := HardwareCollector.supports_of_ofPlan made
  intro service
  have keeping := Service.keepingManual_play plan counters uses
  have declared : ∀ device names, plan.get? device = some names →
      ∀ counter ∈ names, (counters.value? device counter).isSome := fun device names planned counter listed =>
    (ManualCounters.supports_iff id counters device counter).mp (supported device names planned counter listed)
  constructor
  · intro thread id device closed
    rw [← isSome_opening?, Option.isSome_eq_false_iff, Option.isNone_iff_eq_none] at closed
    exact keeping.answer_begin declared thread device closed
  · intro thread id opened
    exact keeping.answer_finish declared thread ((isSome_opening? _ _).trans opened)

theorem made_collectors_answer_later :
    let plan : CounterPlan := .ofList [(.cpu 0, ["ticks"]), (.gpu 0, [])]
    let counters := ManualCounters.after [.define (.cpu 0) "ticks"]
    let uses : List ManualCounters.Use := [.ask ⟨0⟩ (.begin ⟨1⟩ (.cpu 0)), .ask ⟨0⟩ (.begin ⟨2⟩ (.gpu 0)),
      .operate (.define (.gpu 0) "warps")]
    ∃ hardware, HardwareCollector.ofPlan (ManualCounters.backend id) plan counters = .ok hardware ∧
      let service := (Service.opened (.hardware hardware) counters).play (uses.map ManualCounters.Use.move)
      service.asked.map Request.answer =
        [.error (.collector "manual counters" "backend `manual` has no counters for device gpu:0"), .ok ()] ∧
      (service.request ⟨1⟩ (.begin ⟨2⟩ (.gpu 0))).answer = .ok () ∧
      (service.request ⟨1⟩ (.finish ⟨1⟩)).answer = .ok () := by
  intro plan counters uses
  have made : HardwareCollector.ofPlan (ManualCounters.backend id) plan counters =
    .ok ⟨ManualCounters.backend id, plan, .empty⟩ := rfl
  obtain ⟨begins, ends⟩ := made_collectors_answer made uses
  exact ⟨_, made, rfl, (begins ⟨1⟩ ⟨2⟩ (.gpu 0) rfl).mpr (by decide), ends ⟨1⟩ ⟨1⟩ rfl⟩

/-- Nothing is looked up for a device without counters, and reading nothing there fails. -/
theorem begin_fails_without_counters :
    let plan : CounterPlan := .ofList [(.gpu 0, [])]
    ∃ hardware, HardwareCollector.ofPlan (ManualCounters.backend id) plan .empty = .ok hardware ∧
      ((Service.opened (.hardware hardware) .empty).request ⟨0⟩ (.begin ⟨1⟩ (.gpu 0))).answer =
        .error (.collector "manual counters" "backend `manual` has no counters for device gpu:0") :=
  ⟨_, rfl, rfl⟩

end CallProfile
