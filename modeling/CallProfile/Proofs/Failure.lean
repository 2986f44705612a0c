import CallProfile.Failure

namespace CallProfile

theorem mapError_eq_ok {α ε δ : Type} {change : ε → δ} {result : Except ε α} {value : α}
    (done : result.mapError change = .ok value) : result = .ok value := by
  cases result with
  | error error => cases done
  | ok other => exact congrArg Except.ok (Except.ok.inj done)

theorem attempting_eq_ok {α ε : Type} {attempts : List Attempt} {cause : ε → Cause} {result : Except ε α} {value : α}
    (done : attempting attempts cause result = .ok value) : result = .ok value := mapError_eq_ok done

theorem bind_eq_ok {α β ε : Type} {first : Except ε α} {next : α → Except ε β} {value : β}
    (done : (first >>= next) = .ok value) : ∃ middle, first = .ok middle ∧ next middle = .ok value := by
  cases first with
  | error error => cases done
  | ok middle => exact ⟨middle, rfl, done⟩

theorem map_eq_error {α β ε : Type} {change : α → β} {result : Except ε α} {error : ε} :
    result.map change = .error error ↔ result = .error error := by
  cases result with
  | error other => simp [Except.map]
  | ok value => simp [Except.map]

end CallProfile
