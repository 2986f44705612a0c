import CallProfile.Proofs.Session.Leftovers

namespace CallProfile

variable {σ : Type}

/-- What becomes of a call in one collector. -/
inductive Verdict where
  | refused (message : String)
  | gave (values : MetricMap)
  | failed (message : String)
deriving DecidableEq

structure Testimony where
  collector : String
  verdict : Verdict
deriving DecidableEq

namespace Testimony

def marker (testimony : Testimony) : String := testimony.collector ++ " error"

def mark? (testimony : Testimony) (message name : String) : Option Metric :=
  if name = testimony.marker then some (.text message) else none

/-- What the collector puts under a name when the call is closed. -/
def atEnd? (testimony : Testimony) (name : String) : Option Metric :=
  match testimony.verdict with
  | .refused _ => none
  | .gave values => values.get? name
  | .failed message => testimony.mark? message name

def atBeginning? (testimony : Testimony) (name : String) : Option Metric :=
  match testimony.verdict with
  | .refused message => testimony.mark? message name
  | _ => none

def Failed (testimony : Testimony) : Prop := ∀ values, testimony.verdict ≠ .gave values

/-- The last value from the end of the call, or else the last one from its beginning. -/
def recorded? (testimonies : List Testimony) (name : String) : Option Metric :=
  (testimonies.reverse.findSome? (·.atEnd? name)).or (testimonies.reverse.findSome? (·.atBeginning? name))

theorem mark?_of_ne (testimony : Testimony) (message : String) {name : String} (apart : name ≠ testimony.marker) :
    testimony.mark? message name = none := if_neg apart

theorem silent_of_failed {testimony : Testimony} (failed : testimony.Failed) {name : String}
    (apart : name ≠ testimony.marker) : testimony.atEnd? name = none ∧ testimony.atBeginning? name = none := by
  obtain ⟨collector, verdict⟩ := testimony
  cases verdict with
  | refused message => exact ⟨rfl, mark?_of_ne _ message apart⟩
  | gave values => exact absurd rfl (failed values)
  | failed message => exact ⟨mark?_of_ne _ message apart, rfl⟩

theorem recorded?_without {failing : Testimony} (failed : failing.Failed) (front back : List Testimony) {name : String}
    (apart : name ≠ failing.marker) : recorded? (front ++ failing :: back) name = recorded? (front ++ back) name := by
  obtain ⟨atEnd, atBeginning⟩ := silent_of_failed failed apart
  simp only [recorded?, List.reverse_append, List.reverse_cons, List.findSome?_append, List.findSome?_cons, atEnd,
    atBeginning, List.findSome?_nil, Option.or_none]

theorem marked_of_failed {testimonies : List Testimony} {failing : Testimony} (listed : failing ∈ testimonies)
    (failed : failing.Failed) : (recorded? testimonies failing.marker).isSome := by
  rw [recorded?, Option.isSome_or, Bool.or_eq_true, List.isSome_findSome?, List.isSome_findSome?]
  simp only [List.any_reverse, List.any_eq_true]
  obtain ⟨collector, verdict⟩ := failing
  cases verdict with
  | refused message =>
    refine .inr ⟨_, listed, ?_⟩
    simp [atBeginning?, mark?, marker]
  | gave values => exact absurd rfl (failed values)
  | failed message =>
    refine .inl ⟨_, listed, ?_⟩
    simp [atEnd?, mark?, marker]

end Testimony

namespace Request

def verdict (request : Request σ) : Verdict :=
  match request.demand with
  | .begin _ _ =>
    match request.answer with
    | .ok _ => .gave .empty
    | .error error => .refused error.message
  | .finish id =>
    match (request.collector.endCall request.thread id request.world).1 with
    | .ok values => .gave values
    | .error error => .failed error.message
  | .discard _ =>
    match request.answer with
    | .ok _ => .failed Session.leftOpenMessage
    | .error error => .failed error.message

def testimony (request : Request σ) : Testimony := ⟨request.collector.name, request.verdict⟩

theorem get?_marker_eq (request : Request σ) (message name : String) :
    (request.marker message).get? name = request.testimony.mark? message name := by
  rw [marker, SortedMap.ofList, SortedMap.insertAll, List.foldl_cons, List.foldl_nil, SortedMap.get?_insert,
    SortedMap.get?_empty]
  rfl

def Opens (request : Request σ) : Prop := ∃ id device, request.demand = .begin id device

def Closes (request : Request σ) : Prop := ∃ id, request.demand = .finish id ∨ request.demand = .discard id

section Opening

variable {request : Request σ} (opens : request.Opens)
include opens

theorem verdict_of_opens : request.verdict =
    match request.answer with
    | .ok _ => .gave .empty
    | .error error => .refused error.message := by
  obtain ⟨id, device, demand⟩ := opens
  rw [verdict, demand]

theorem get?_report_of_opens (name : String) : request.report.get? name = request.testimony.atBeginning? name := by
  rw [Testimony.atBeginning?]
  simp only [testimony, verdict_of_opens opens]
  obtain ⟨id, device, demand⟩ := opens
  rw [report, demand]
  cases request.answer with
  | ok => rfl
  | error error => exact get?_marker_eq request error.message name

theorem atEnd?_of_opens {error : ProfileError} (refused : request.answer = .error error) (name : String) :
    request.testimony.atEnd? name = none := by
  rw [Testimony.atEnd?]
  simp only [testimony, verdict_of_opens opens, refused]

theorem get?_report_of_taken (taken : request.answer = .ok ()) (name : String) : request.report.get? name = none := by
  rw [get?_report_of_opens opens, Testimony.atBeginning?]
  simp only [testimony, verdict_of_opens opens, taken]

end Opening

theorem get?_report_of_closes {request : Request σ} (closes : request.Closes) (name : String) :
    request.report.get? name = request.testimony.atEnd? name := by
  rw [Testimony.atEnd?]
  obtain ⟨id, demand | demand⟩ := closes <;> simp only [testimony, verdict, report, demand]
  · cases (request.collector.endCall request.thread id request.world).1 with
    | ok values => rfl
    | error error => exact get?_marker_eq request error.message name
  · cases request.answer with
    | ok => exact get?_marker_eq request Session.leftOpenMessage name
    | error error => exact get?_marker_eq request error.message name

theorem atBeginning?_of_closes {request : Request σ} (closes : request.Closes) (name : String) :
    request.testimony.atBeginning? name = none := by
  rw [Testimony.atBeginning?]
  obtain ⟨id, demand | demand⟩ := closes <;> simp only [testimony, verdict, demand]
  · cases (request.collector.endCall request.thread id request.world).1 <;> rfl
  · cases request.answer <;> rfl

end Request

namespace Session

/-- The testimonies about a call, from the requests at its beginning and those at its end. -/
def testimonies : List (Request σ) → List (Request σ) → List Testimony
  | [], _ => []
  | opening :: openings, closings =>
    match opening.answer, closings with
    | .error _, closings => opening.testimony :: testimonies openings closings
    | .ok _, closing :: closings => closing.testimony :: testimonies openings closings
    | .ok _, [] => testimonies openings []

/-- Each collector was asked about a call at its beginning, and again at its end if it had taken the call in. -/
inductive Heard : List (Collector σ) → List (Request σ) → List (Request σ) → Prop where
  | nobody : Heard [] [] []
  | refused {collector : Collector σ} {rest : List (Collector σ)} {opening : Request σ}
      {openings closings : List (Request σ)} {error : ProfileError} (opens : opening.Opens)
      (own : opening.collector.cleared = collector.cleared) (answer : opening.answer = .error error)
      (others : Heard rest openings closings) : Heard (collector :: rest) (opening :: openings) closings
  | taken {collector : Collector σ} {rest : List (Collector σ)} {opening closing : Request σ}
      {openings closings : List (Request σ)} (opens : opening.Opens) (closes : closing.Closes)
      (own : closing.collector.cleared = collector.cleared) (answer : opening.answer = .ok ())
      (others : Heard rest openings closings) : Heard (collector :: rest) (opening :: openings) (closing :: closings)

theorem name_of_cleared {left right : Collector σ} (same : left.cleared = right.cleared) : left.name = right.name := by
  rw [← Collector.name_cleared, same, Collector.name_cleared]

namespace Heard

variable {collectors : List (Collector σ)} {openings closings : List (Request σ)}
  (heard : Heard collectors openings closings)
include heard

theorem collectors_of_testimonies : (testimonies openings closings).map (·.collector) = collectors.map (·.name) := by
  induction heard with
  | nobody => rfl
  | refused opens own answer others ih => simp [testimonies, answer, Request.testimony, name_of_cleared own, ih]
  | taken opens closes own answer others ih => simp [testimonies, answer, Request.testimony, name_of_cleared own, ih]

theorem atEnd_of_testimonies (name : String) :
    (testimonies openings closings).filterMap (·.atEnd? name) = closings.filterMap (·.report.get? name) := by
  induction heard with
  | nobody => rfl
  | refused opens own answer others ih =>
    simp only [testimonies, answer, List.filterMap_cons, Request.atEnd?_of_opens opens answer, ih]
  | taken opens closes own answer others ih =>
    simp only [testimonies, answer, List.filterMap_cons, Request.get?_report_of_closes closes, ih]

theorem atBeginning_of_testimonies (name : String) :
    (testimonies openings closings).filterMap (·.atBeginning? name) = openings.filterMap (·.report.get? name) := by
  induction heard with
  | nobody => rfl
  | refused opens own answer others ih =>
    simp only [testimonies, answer, List.filterMap_cons, Request.get?_report_of_opens opens, ih]
  | taken opens closes own answer others ih =>
    simp only [testimonies, answer, List.filterMap_cons, Request.atBeginning?_of_closes closes,
      Request.get?_report_of_taken opens answer, ih]

/-- What the requests about a call have recorded is what the testimonies say. -/
theorem get?_recorded (name : String) :
    (closings.foldl Request.addTo (openings.foldl Request.addTo .empty)).get? name =
      Testimony.recorded? (testimonies openings closings) name := by
  rw [Request.get?_foldl_addTo, Request.get?_foldl_addTo, SortedMap.get?_empty, Option.or_none, Testimony.recorded?]
  simp only [← List.head?_filterMap, List.filterMap_reverse, heard.atEnd_of_testimonies,
    heard.atBeginning_of_testimonies]

end Heard

theorem takers_cons {β : Type} (collector : β) (rest : List β) (taken : Bool) (began : List Bool) :
    takers (collector :: rest) (taken :: began) = (if taken then [collector] else []) ++ takers rest began := by
  cases taken <;> rfl

theorem heard_of_asked {collectors : List (Collector σ)} {openings closings : List (Request σ)}
    (opens : ∀ opening ∈ openings, opening.Opens) (closes : ∀ closing ∈ closings, closing.Closes)
    (opened : openings.map (·.collector.cleared) = collectors.map Collector.cleared)
    (closed : closings.map (·.collector.cleared) =
      (takers collectors (openings.map (·.answer.isOk))).map Collector.cleared) :
    Heard collectors openings closings := by
  induction collectors generalizing openings closings with
  | nil =>
    rw [List.map_nil, List.map_eq_nil_iff] at opened
    subst opened
    have none : closings = [] := List.map_eq_nil_iff.mp closed
    subst none
    exact .nobody
  | cons collector rest ih =>
    cases openings with
    | nil => cases opened
    | cons opening openings =>
      obtain ⟨own, opened⟩ := List.cons.inj opened
      have first := opens opening List.mem_cons_self
      have others := fun other member => opens other (List.mem_cons_of_mem _ member)
      rw [List.map_cons, takers_cons] at closed
      cases answer : opening.answer with
      | error error =>
        simp only [answer, Except.isOk, Except.toBool] at closed
        exact .refused first own answer (ih others closes opened closed)
      | ok value =>
        simp only [answer, Except.isOk, Except.toBool] at closed
        cases closings with
        | nil => cases closed
        | cons closing closings =>
          obtain ⟨own', closed⟩ := List.cons.inj closed
          exact .taken first (closes closing List.mem_cons_self) own' answer
            (ih others (fun other member => closes other (List.mem_cons_of_mem _ member)) opened closed)

end Session

end CallProfile
