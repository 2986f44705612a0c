import CallProfile.Proofs.Device.Canonical
import CallProfile.Proofs.Json.Real
import CallProfile.Report.Reading

namespace CallProfile

open Json.Reader

def Metric.float? : Metric → Option Double
  | duration seconds => some seconds
  | percent share => some share
  | ratio share => some share
  | _ => none

def Metric.IsFinite (metric : Metric) : Prop := ∀ x ∈ metric.float?, x.isFinite

def MetricMap.IsFinite (metrics : MetricMap) : Prop := ∀ entry ∈ metrics.entries, entry.2.IsFinite

structure CallRecord.IsWellFormed (call : CallRecord) : Prop where
  device : call.device.IsCanonical
  metrics : MetricMap.IsFinite call.metrics

def DeviceTotals.IsWellFormed (totals : DeviceTotals) : Prop :=
  ∀ entry ∈ totals.entries, entry.1.IsCanonical ∧ MetricMap.IsFinite entry.2

structure Report.IsWellFormed (report : Report) : Prop where
  calls : ∀ call ∈ report.calls, call.IsWellFormed
  deviceMetrics : report.deviceMetrics.IsWellFormed

theorem Device.gives_ofText (text : String) : Gives (ofText text) IsCanonical := by
  unfold ofText
  split
  next parsed => exact gives_pure (isCanonical_of_parse parsed)
  next => exact gives_throw _

theorem Device.gives_read : Gives read IsCanonical := Gives.after fun text => gives_ofText text

namespace Metric

theorem isFinite_of_some {metric : Metric} {x : Double} (holds : metric.float? = some x) (finite : x.isFinite) :
    metric.IsFinite := by
  intro y same
  rw [Option.mem_def, holds] at same
  exact Option.some.inj same ▸ finite

theorem isFinite_of_float {metric : Metric} {x : Float} (holds : metric.float? = some (.ofFloat x))
    (finite : x.isFinite) : metric.IsFinite := isFinite_of_some holds (by rwa [Double.isFinite_ofFloat])

theorem isFinite_of_none {metric : Metric} (holds : metric.float? = none) : metric.IsFinite := by
  intro y same
  rw [Option.mem_def, holds] at same
  cases same

theorem gives_readContent (variant : Variant) : Gives (readContent variant) IsFinite := by
  cases variant with
  | duration => exact gives_real.map fun x finite => isFinite_of_float rfl finite
  | count => exact Gives.after fun number => gives_pure (isFinite_of_none rfl)
  | percent => exact gives_real.map fun x finite => isFinite_of_float rfl finite
  | bytes => exact Gives.after fun number => gives_pure (isFinite_of_none rfl)
  | ratio => exact gives_real.map fun x finite => isFinite_of_float rfl finite
  | text => exact Gives.after fun content => gives_pure (isFinite_of_none rfl)

def FloatsFinite (found : Json.Found) : Prop := ∀ x, floatOf found = .ok x → x.isFinite

theorem floatsFinite_number {number : Number} (finite : number.toFloat.isFinite) : FloatsFinite number.found := by
  intro x same
  cases number <;> cases same <;> exact finite

theorem gives_valueOf {list record : Json.Reader Json.Found} (fromList : Gives list FloatsFinite)
    (fromRecord : Gives record FloatsFinite) : Gives (valueOf list record) FloatsFinite := by
  refine Gives.placed (Gives.after fun symbol => ?_)
  split
  · exact gives_failAhead _
  · exact fromList
  · exact fromRecord
  · exact Gives.after fun _ => Gives.after fun _ => gives_pure fun x same => nomatch same
  · exact Gives.after fun _ => Gives.after fun _ => gives_pure fun x same => nomatch same
  · exact Gives.after fun _ => Gives.after fun _ => gives_pure fun x same => nomatch same
  · exact Gives.after fun _ => Gives.after fun _ => gives_pure fun x same => nomatch same
  · exact Gives.after fun _ => (gives_number true).map fun number finite => floatsFinite_number finite
  · split
    · exact (gives_number false).map fun number finite => floatsFinite_number finite
    · exact gives_failAhead _

theorem gives_anyValue (room : Nat) : Gives (anyValue room) FloatsFinite := by
  cases room with
  | zero => exact gives_valueOf (gives_failAhead _) (gives_failAhead _)
  | succ room =>
    refine gives_valueOf ?_ ?_
    · exact Gives.after fun _ => Gives.after fun _ => gives_pure fun x same => nomatch same
    · exact Gives.after fun _ => Gives.after fun _ => gives_pure fun x same => nomatch same

theorem isFinite_of_ofFound {variant : Variant} {found : Json.Found} {metric : Metric} (finite : FloatsFinite found)
    (same : ofFound variant found = .ok metric) : metric.IsFinite := by
  have ofFloat (make : Double → Metric) (holds : ∀ x, (make x).float? = some x)
      (same : ((floatOf found).map fun x => make x) = .ok metric) : metric.IsFinite := by
    cases read : floatOf found with
    | error cause => rw [read] at same; cases same
    | ok x =>
      rw [read] at same
      cases same
      exact isFinite_of_float (holds x) (finite x read)
  have ofOther {α : Type} {result : Except Json.Cause α} {make : α → Metric} (keeps : ∀ value, (make value).IsFinite)
      (same : result.map make = .ok metric) : metric.IsFinite := by
    cases result with
    | error cause => cases same
    | ok value =>
      cases same
      exact keeps value
  cases variant with
  | duration => exact ofFloat duration (fun _ => rfl) same
  | count => exact ofOther (fun _ => isFinite_of_none rfl) same
  | percent => exact ofFloat percent (fun _ => rfl) same
  | bytes => exact ofOther (fun _ => isFinite_of_none rfl) same
  | ratio => exact ofFloat ratio (fun _ => rfl) same
  | text => exact ofOther (fun _ => isFinite_of_none rfl) same

theorem gives_readFields (room : Nat) : Gives (readFields room) IsFinite := by
  refine Gives.after fun found => ?_
  split
  · exact gives_throw _
  · refine Gives.after fun _ => Gives.after fun variant => Gives.after fun found => ?_
    split
    · exact gives_throw _
    · exact gives_throw _
    · refine Gives.after fun _ => (gives_readContent variant).bind fun metric finite => ?_
      exact Gives.after fun _ => gives_pure finite
  · refine Gives.after fun _ => (gives_anyValue room).bind fun value finite => Gives.after fun found => ?_
    split
    · exact gives_throw _
    · exact gives_throw _
    · refine Gives.after fun _ => Gives.after fun variant => ?_
      split
      · exact gives_throw _
      next same => exact Gives.after fun _ => gives_pure (isFinite_of_ofFound finite same)

theorem gives_read (room : Nat) : Gives (read room) IsFinite := by
  refine gives_brackets (fun body same room => ?_) (fun body same room => ?_) room
  · cases same
    exact Gives.after fun variant => (gives_readContent variant).itemAt _ _
  · cases same
    exact gives_readFields room

end Metric

theorem MetricMap.isFinite_insert {metrics : MetricMap} (finite : IsFinite metrics) {metric : Metric}
    (here : metric.IsFinite) (name : String) : IsFinite (metrics.insert name metric) := by
  intro entry member
  rcases SortedMap.mem_place member with rfl | member
  · exact here
  · exact finite entry member

theorem MetricMap.gives_read (room : Nat) : Gives (read room) IsFinite := by
  refine gives_brackets (fun body same => absurd same (Option.not_mem_none body)) (fun body same room => ?_) room
  cases same
  refine gives_entries (fun name metrics finite => ?_) fun entry member => nomatch member
  exact Gives.after fun _ => (Metric.gives_read room).map fun metric here => isFinite_insert finite here name

theorem DeviceTotals.gives_read (room : Nat) : Gives (read room) IsWellFormed := by
  refine gives_brackets (fun body same => absurd same (Option.not_mem_none body)) (fun body same room => ?_) room
  cases same
  refine gives_entries (fun name totals formed => ?_) fun entry member => nomatch member
  refine (Device.gives_ofText name).bind fun device canonical => Gives.after fun _ => ?_
  refine (MetricMap.gives_read room).map fun metrics finite entry member => ?_
  rcases SortedMap.mem_place member with rfl | member
  · exact ⟨canonical, finite⟩
  · exact formed entry member

namespace CallRecord

structure Fields.IsWellFormed (fields : Fields) : Prop where
  device : ∀ device ∈ fields.device, device.IsCanonical
  metrics : ∀ metrics ∈ fields.metrics, MetricMap.IsFinite metrics

theorem Fields.isWellFormed_initial : IsWellFormed {} :=
  ⟨fun _ same => absurd same (Option.not_mem_none _), fun _ same => absurd same (Option.not_mem_none _)⟩

theorem gives_readField (room : Nat) (field : String) {fields : Fields} (formed : fields.IsWellFormed) :
    Gives (readField room field fields) Fields.IsWellFormed := by
  unfold readField
  split
  · exact Gives.after fun name => gives_pure ⟨formed.device, formed.metrics⟩
  split
  · exact (Device.gives_read.once _ _).map fun device canonical => ⟨canonical, formed.metrics⟩
  split
  · exact Gives.after fun depth => gives_pure ⟨formed.device, formed.metrics⟩
  split
  · exact ((MetricMap.gives_read room).once _ _).map fun metrics finite => ⟨formed.device, finite⟩
  · exact Gives.after fun _ => Gives.after fun _ => gives_pure formed

theorem gives_read (room : Nat) : Gives (read room) IsWellFormed := by
  refine gives_brackets (fun body same room => ?_) (fun body same room => ?_) room
  · cases same
    refine Gives.after fun name => (Device.gives_read.itemAt _ _).bind fun device canonical => ?_
    refine Gives.after fun depth => ?_
    exact ((MetricMap.gives_read room).itemAt _ _).map fun metrics finite => ⟨canonical, finite⟩
  · cases same
    have fields := gives_entries (fun name fields => gives_readField room name) Fields.isWellFormed_initial
    refine fields.bind fun fields formed => Gives.after fun name => ?_
    refine (gives_required _ formed.device).bind fun device canonical => Gives.after fun depth => ?_
    exact (gives_required _ formed.metrics).map fun metrics finite => ⟨canonical, finite⟩

end CallRecord

namespace Report

structure Fields.IsWellFormed (fields : Fields) : Prop where
  calls : ∀ calls ∈ fields.calls, ∀ call ∈ calls, call.IsWellFormed
  deviceMetrics : ∀ totals ∈ fields.deviceMetrics, totals.IsWellFormed

theorem gives_calls (room : Nat) :
    Gives (list CallRecord.read room) fun calls => ∀ call ∈ calls, call.IsWellFormed := by
  refine gives_brackets (fun body same room => ?_) (fun body same => absurd same (Option.not_mem_none body)) room
  cases same
  exact (CallRecord.gives_read room).items

theorem Fields.isWellFormed_initial : IsWellFormed {} :=
  ⟨fun _ same => absurd same (Option.not_mem_none _), fun _ same => absurd same (Option.not_mem_none _)⟩

theorem gives_readField (room : Nat) (field : String) {fields : Fields} (formed : fields.IsWellFormed) :
    Gives (readField room field fields) Fields.IsWellFormed := by
  unfold readField
  split
  · exact ((gives_calls room).once _ _).map fun calls here => ⟨here, formed.deviceMetrics⟩
  split
  · exact ((DeviceTotals.gives_read room).once _ _).map fun totals here => ⟨formed.calls, here⟩
  · exact Gives.after fun _ => Gives.after fun _ => gives_pure formed

/-- Whatever a report is read from, it is well-formed. -/
theorem gives_read (room : Nat) : Gives (read room) IsWellFormed := by
  refine gives_brackets (fun body same room => ?_) (fun body same room => ?_) room
  · cases same
    refine ((gives_calls room).itemAt _ _).bind fun calls callsFormed => ?_
    exact ((DeviceTotals.gives_read room).itemAt _ _).map fun totals totalsFormed => ⟨callsFormed, totalsFormed⟩
  · cases same
    have fields := gives_entries (fun name fields => gives_readField room name) Fields.isWellFormed_initial
    refine fields.bind fun fields formed => ?_
    refine (gives_required _ formed.calls).bind fun calls callsFormed => ?_
    exact (gives_required _ formed.deviceMetrics).map fun totals totalsFormed => ⟨callsFormed, totalsFormed⟩

theorem isWellFormed_of_ofJson {text : String} {report : Report} (read : ofJson text = .ok report) :
    report.IsWellFormed :=
  (gives_read Json.nestingLimit).of_run read

theorem isWellFormed_of_ofBytes {bytes : ByteArray} {report : Report} (read : ofBytes bytes = .ok report) :
    report.IsWellFormed :=
  (gives_read Json.nestingLimit).of_run read

end Report

theorem isFinite_of_beq {x y : Float} (same : x == y) (finite : x.isFinite) : y.isFinite := by
  obtain ⟨-, -, rfl | ⟨-, rfl⟩ | ⟨-, rfl⟩⟩ := Float.beq_iff_ne_nan_and_eq.mp same
  · exact finite
  · decide
  · decide

theorem beq_self_of_isFinite {x : Float} (finite : x.isFinite) : x == x := by
  refine Float.beq_self_iff.mpr ?_
  rintro rfl
  exact absurd finite (by decide)

theorem forall_of_beq {α : Type} [BEq α] {property : α → Prop} (keeps : ∀ x y, x == y → property x → property y)
    {left right : List α} (same : left == right) (h : ∀ x ∈ left, property x) : ∀ y ∈ right, property y := by
  induction left generalizing right with
  | nil =>
    cases right with
    | nil => exact h
    | cons y ys => cases same
  | cons x xs ih =>
    cases right with
    | nil => cases same
    | cons y ys =>
      obtain ⟨first, rest⟩ : x == y ∧ xs == ys := by simpa using same
      intro z member
      rcases List.mem_cons.mp member with rfl | member
      · exact keeps x _ first (h x List.mem_cons_self)
      · exact ih rest (fun x member => h x (List.mem_cons_of_mem _ member)) z member

theorem beq_self_of_forall {α : Type} [BEq α] {items : List α} (h : ∀ x ∈ items, x == x) : items == items := by
  induction items with
  | nil => rfl
  | cons x xs ih =>
    have first := h x List.mem_cons_self
    have rest := ih fun y member => h y (List.mem_cons_of_mem _ member)
    simp [first, rest]

theorem Metric.isFinite_of_beq {left right : Metric} (same : left == right) (finite : left.IsFinite) :
    right.IsFinite := by
  cases left <;> cases right <;> try cases same
  case duration.duration x y => exact isFinite_of_some rfl (CallProfile.isFinite_of_beq same (finite x rfl))
  case percent.percent x y => exact isFinite_of_some rfl (CallProfile.isFinite_of_beq same (finite x rfl))
  case ratio.ratio x y => exact isFinite_of_some rfl (CallProfile.isFinite_of_beq same (finite x rfl))
  case count.count number => exact isFinite_of_none rfl
  case bytes.bytes number => exact isFinite_of_none rfl
  case text.text content => exact isFinite_of_none rfl

theorem Metric.beq_self {metric : Metric} (finite : metric.IsFinite) : metric == metric := by
  cases metric with
  | duration x => exact beq_self_of_isFinite (finite x rfl)
  | count number => exact beq_self_eq_true number
  | percent x => exact beq_self_of_isFinite (finite x rfl)
  | bytes number => exact beq_self_eq_true number
  | ratio x => exact beq_self_of_isFinite (finite x rfl)
  | text content => exact beq_self_eq_true content

theorem MetricMap.isFinite_of_beq {left right : MetricMap} (same : left == right) (finite : IsFinite left) :
    IsFinite right := by
  refine forall_of_beq (fun first second same finite => ?_) same finite
  exact Metric.isFinite_of_beq (Bool.and_eq_true_iff.mp same).2 finite

theorem MetricMap.beq_self {metrics : MetricMap} (finite : IsFinite metrics) : metrics == metrics := by
  refine beq_self_of_forall fun entry member => ?_
  exact Bool.and_eq_true_iff.mpr ⟨beq_self_eq_true entry.1, Metric.beq_self (finite entry member)⟩

theorem DeviceTotals.isWellFormed_of_beq {left right : DeviceTotals} (same : left == right)
    (formed : left.IsWellFormed) : right.IsWellFormed := by
  refine forall_of_beq (fun first second same formed => ?_) same formed
  obtain ⟨sameDevice, sameMetrics⟩ := Bool.and_eq_true_iff.mp same
  exact ⟨beq_iff_eq.mp sameDevice ▸ formed.1, MetricMap.isFinite_of_beq sameMetrics formed.2⟩

theorem DeviceTotals.beq_self {totals : DeviceTotals} (formed : totals.IsWellFormed) : totals == totals := by
  refine beq_self_of_forall fun entry member => ?_
  exact Bool.and_eq_true_iff.mpr ⟨beq_self_eq_true entry.1, MetricMap.beq_self (formed entry member).2⟩

theorem CallRecord.beq_iff {left right : CallRecord} : left == right ↔
    left.name = right.name ∧ left.device = right.device ∧ left.depth = right.depth ∧ left.metrics == right.metrics := by
  cases left; cases right
  show (_ && (_ && (_ && _))) = true ↔ _
  simp only [Bool.and_eq_true, beq_iff_eq]

theorem CallRecord.isWellFormed_of_beq {left right : CallRecord} (same : left == right) (formed : left.IsWellFormed) :
    right.IsWellFormed := by
  obtain ⟨-, sameDevice, -, sameMetrics⟩ := beq_iff.mp same
  exact ⟨sameDevice ▸ formed.device, MetricMap.isFinite_of_beq sameMetrics formed.metrics⟩

theorem CallRecord.beq_self {call : CallRecord} (formed : call.IsWellFormed) : call == call :=
  beq_iff.mpr ⟨rfl, rfl, rfl, MetricMap.beq_self formed.metrics⟩

namespace Report

theorem beq_iff {left right : Report} :
    left == right ↔ left.calls == right.calls ∧ left.deviceMetrics == right.deviceMetrics := by
  cases left; cases right
  show (_ && _) = true ↔ _
  rw [Bool.and_eq_true]

theorem isWellFormed_of_beq {left right : Report} (same : left == right) (formed : left.IsWellFormed) :
    right.IsWellFormed := by
  obtain ⟨sameCalls, sameTotals⟩ := beq_iff.mp same
  exact ⟨forall_of_beq (fun _ _ => CallRecord.isWellFormed_of_beq) sameCalls formed.calls,
    DeviceTotals.isWellFormed_of_beq sameTotals formed.deviceMetrics⟩

theorem beq_self {report : Report} (formed : report.IsWellFormed) : report == report :=
  beq_iff.mpr ⟨beq_self_of_forall fun call member => CallRecord.beq_self (formed.calls call member),
    DeviceTotals.beq_self formed.deviceMetrics⟩

end Report

end CallProfile
