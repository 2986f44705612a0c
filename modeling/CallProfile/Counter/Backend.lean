import CallProfile.Count
import CallProfile.Device

namespace CallProfile

structure ThreadId where
  number : Nat
deriving DecidableEq, Inhabited

namespace ThreadId

instance : Ord ThreadId := ⟨compareOn number⟩

instance : Std.TransOrd ThreadId := inferInstanceAs (Std.TransCmp (compareOn number))

instance : Std.LawfulEqOrd ThreadId where
  eq_of_compare {left right} same := by
    have same : compare left.number right.number = .eq := same
    have : left.number = right.number := Std.LawfulEqCmp.eq_of_compare same
    cases left; cases right; simp_all

end ThreadId

inductive CounterError where
  | unknownCounter (counter : String) (device : Device)
  | deviceUnavailable (backend : String) (device : Device)
  | failed (reason : String)
deriving DecidableEq

def CounterError.message : CounterError → String
  | unknownCounter counter device => "counter `" ++ counter ++ "` is not available on " ++ device.text
  | deviceUnavailable backend device =>
    "backend `" ++ backend ++ "` has no counters for device " ++ device.text
  | failed reason => reason

structure Backend (σ : Type) where
  name : String
  /-- Whether a value belongs to the thread that reads it. -/
  perThread : Bool
  available : σ → Device → List String
  read : ThreadId → Device → List String → σ → Except CounterError (List Count) × σ

namespace Backend

variable {σ : Type}

def supports (backend : Backend σ) (world : σ) (device : Device) (counter : String) : Bool :=
  (backend.available world device).contains counter

end Backend

end CallProfile
