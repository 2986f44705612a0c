import CallProfile.Proofs.Report.DeviceTotals
import CallProfile.Proofs.Session.Endings
import CallProfile.Proofs.Session.SameConfig

namespace CallProfile

theorem Metric.exactSum_eq_zero {terms : List Metric} (none : ∀ term ∈ terms, term = .count 0) :
    exactSum terms = 0 := by
  induction terms with
  | nil => rfl
  | cons term rest ih =>
    rw [none term List.mem_cons_self]
    have rest := ih fun other within => none other (List.mem_cons_of_mem _ within)
    simpa [exactSum, number?] using rest

namespace Report

def heldCounts (calls : List CallRecord) (device : Device) : List Metric :=
  ((calls.filter (·.device = device)).filterMap (·.metric? callsName)).filter (·.variant = .count)

theorem heldCounts_eq_addends (calls : List CallRecord) (device : Device) :
    heldCounts calls device = (DeviceTotals.addends calls device callsName).filter (·.variant = .count) := by
  have given (metric? : Option Metric) : metric?.toList.filter (·.variant = .count) =
      (metric?.filter Metric.isAdditive).toList.filter (·.variant = .count) := by
    cases metric? with
    | none => rfl
    | some metric => cases metric <;> rfl
  rw [heldCounts, DeviceTotals.addends, List.filterMap_eq_flatMap_toList, List.filter_flatMap, List.filter_flatMap]
  exact List.flatMap_congr fun call _ => given (call.metric? callsName)

theorem exactSum_samples (calls : List CallRecord) (device : Device) :
    Metric.exactSum ((samples calls device callsName).filter (·.variant = .count)) =
      calls.countP (·.device = device) + Metric.exactSum (heldCounts calls device) := by
  rw [DeviceTotals.exactSum_samples_callsName, heldCounts_eq_addends, Nat.add_comm]

theorem callCount_ofCalls (calls : List CallRecord) (device : Device) :
    (ofCalls calls).callCount device =
      .ofNat (calls.countP (·.device = device) + Metric.exactSum (heldCounts calls device)) := by
  rw [← exactSum_samples]
  cases listed : samples calls device callsName with
  | nil =>
    have absent : (ofCalls calls).deviceMetric? device callsName = none :=
      (DeviceTotals.total?_ofCalls_eq_none_iff calls device callsName).mpr listed
    have nothing : calls.countP (·.device = device) = 0 := by
      have numbers := exactSum_samples calls device
      rw [listed] at numbers
      exact (Nat.add_eq_zero_iff.mp numbers.symm).1
    simp only [callCount, absent]
    show Count.ofNat (calls.countP (·.device = device)) = _
    rw [nothing]
    rfl
  | cons first rest =>
    have one : first = .count 1 := head?_samples_callsName (by rw [listed]; rfl)
    subst one
    obtain ⟨total, reached, variant, grouping⟩ := Metric.grouping_counted (show (Metric.count 1).isAdditive from rfl) rest
    have held : (ofCalls calls).deviceMetric? device callsName = some total := by
      rw [← reached, ← listed]
      exact DeviceTotals.total?_ofCalls calls device callsName
    cases total with
    | count number =>
      have numbered := grouping.number? rfl
      simp only [callCount, held]
      rw [← UInt64.toNat_inj, Count.toNat_ofNat, numbered]
      rfl
    | _ => cases variant

end Report

namespace Session

variable {σ α : Type}

def givenCounts (endings : List (Ending σ α)) (device : Device) : List Metric :=
  ((endings.filter (·.call.device = device)).filterMap (·.given? callsName)).filter (·.variant = .count)

theorem heldCounts_eq_givenCounts {run : Run σ α} {endings : List (Ending σ α)} {records : List CallRecord}
    (told : List.Forall₂ run.Tells endings records) (device : Device) :
    Report.heldCounts records device = givenCounts endings device := by
  have other : callsName ≠ truncatedName := by decide
  rw [Report.heldCounts, givenCounts]
  congr 1
  induction told with
  | nil => rfl
  | @cons ending record _ _ tells _ ih =>
    have place : record.device = ending.call.device := congrArg Heading.device tells.heading
    have given : record.metric? callsName = ending.given? callsName :=
      tells.given callsName unmarked_callsName fun same => absurd same other
    by_cases here : ending.call.device = device
    · simp [place, here, given, List.filterMap_cons, ih]
    · simp [place, here, ih]

theorem exactSum_givenCounts {endings : List (Ending σ α)} {device : Device}
    (silent : ∀ ending ∈ endings, ending.call.device = device → ∀ request ∈ ending.requests, ∀ number,
      request.values.get? callsName = some (.count number) → number = 0) :
    Metric.exactSum (givenCounts endings device) = 0 := by
  refine Metric.exactSum_eq_zero fun term member => ?_
  obtain ⟨listed, counted⟩ := List.mem_filter.mp member
  obtain ⟨ending, own, given⟩ := List.mem_filterMap.mp listed
  obtain ⟨within, place⟩ := List.mem_filter.mp own
  obtain ⟨request, asked, gave⟩ := List.exists_of_findSome?_eq_some given
  have zero := silent ending within (of_decide_eq_true place) request (List.mem_reverse.mp asked)
  cases term with
  | count number => rw [zero number gave]
  | _ => cases counted

/--
The number of calls on a device is the number of their records and what the collectors gave under its name on top,
cut off at the largest count. Where they give no count there, it is the number of the records.
-/
theorem callCount_with_given (act : α → σ → σ) (config : SessionConfig) (world : σ) (events : List (Event σ α))
    (thread : ThreadId) {report : Report} {after : Session σ} {worldAfter : σ}
    (finished : ((Run.fresh config world).play act events).session.finalize thread
      ((Run.fresh config world).play act events).world = .ok (report, after, worldAfter)) :
    let run := (Run.fresh config world).play act events
    ((run.endings thread).map (·.call)).Perm run.history.begunCalls ∧
      (∀ device, report.callCount device =
        .ofNat (report.calls.countP (·.device = device) + Metric.exactSum (givenCounts (run.endings thread) device))) ∧
      ∀ device, (∀ ending ∈ run.endings thread, ending.call.device = device → ∀ request ∈ ending.requests, ∀ number,
          request.values.get? callsName = some (.count number) → number = 0) →
        report.callCount device = .ofNat (report.calls.countP (·.device = device)) := by
  obtain ⟨one_each, told⟩ := Run.tellsAll_of_finalize act config world events finished
  have counts (device : Device) : report.callCount device = .ofNat (report.calls.countP (·.device = device) +
      Metric.exactSum (givenCounts (((Run.fresh config world).play act events).endings thread) device)) := by
    rw [← heldCounts_eq_givenCounts told, ← Report.callCount_ofCalls, ← report_of_finalize finished]
  refine ⟨one_each, counts, fun device silent => ?_⟩
  rw [counts, exactSum_givenCounts silent, Nat.add_zero]

theorem callCount_with_given_bytes :
    let run := runWith (giving "sizes" callsName (.bytes 3)) oneLeftOpen
    ∃ report after, run.session.finalize ⟨0⟩ run.world = .ok (report, after, ()) ∧ report.calls.length = 2 ∧
      report.callCount (.cpu 0) = .ofNat (report.calls.countP (·.device = .cpu 0)) := by
  have given : ∀ ending ∈ (runWith (giving "sizes" callsName (.bytes 3)) oneLeftOpen).endings ⟨0⟩,
      ∀ request ∈ ending.requests, request.values.get? callsName = some (.bytes 3) := by
    decide +kernel
  obtain ⟨-, -, right⟩ := callCount_with_given (fun action _ => Empty.elim action) (.named "s") ()
    (.start [giving "sizes" callsName (.bytes 3)] :: oneLeftOpen) ⟨0⟩ rfl
  refine ⟨_, _, rfl, by decide +kernel, right (.cpu 0) fun ending listed _ request asked number gave => ?_⟩
  cases (given ending listed request asked).symm.trans gave

/-- A count that a collector gives under the name of the number of calls is added to that number. -/
theorem callCount_counts_given :
    let run := runWith (giving "batches" callsName (.count 41)) [.beginCall ⟨0⟩ "step" (.cpu 0), .endCall ⟨0⟩ ⟨1⟩]
    ∃ report after, run.session.finalize ⟨0⟩ run.world = .ok (report, after, ()) ∧
      report.calls.countP (·.device = .cpu 0) = 1 ∧ report.callCount (.cpu 0) = 42 :=
  ⟨_, _, rfl, by decide +kernel, by decide +kernel⟩

end Session

end CallProfile
