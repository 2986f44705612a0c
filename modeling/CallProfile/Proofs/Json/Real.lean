import CallProfile.Proofs.Decimal.Double
import CallProfile.Proofs.Json.Nested

namespace CallProfile.Json.Reader

variable {before after : List Symbol}

theorem reads_finite {x : Float} {negative : Bool} {significand : Nat} {exponent : Int}
    (same : Decimal.nearest negative significand exponent = x) (finite : x.isFinite) :
    Reads (Reader.finite negative significand exponent) before (.real x) before := by
  simp only [Reader.finite, same, finite, if_true]
  exact reads_pure

theorem exists_positive_cons (layout : Positional) (significand : Nat) (exponent : Int) :
    ∃ c rest, positive layout significand exponent = c :: rest ∧ c.isDigit := by
  obtain ⟨first, rest, split, digit⟩ := exists_digits_cons significand
  unfold positive
  dsimp only
  rw [split]
  split
  · cases rest with
    | nil => exact ⟨first, _, rfl, digit⟩
    | cons second rest => exact ⟨first, _, rfl, digit⟩
  split
  · exact ⟨first, _, rfl, digit⟩
  split
  · exact ⟨first, _, rfl, digit⟩
  · exact ⟨'0', _, rfl, rfl⟩

theorem undoes_real {x : Float} (finite : x.isFinite) : Undoes real (Json.real x) x := by
  intro gap after blank stop
  obtain ⟨negative, mantissa, exponent, decoded, canonical, -⟩ := Binary64.ofFloat_of_isFinite finite
  have number {body : List Char} (form : Json.real x = if negative then '-' :: body else body)
      (first : ∃ c rest, body = c :: rest ∧ c.isDigit)
      (reads : Reads (number negative) (written body ++ after) (.real x) after) :
      Reads real (gap ++ (written (Json.real x) ++ after)) x after := by
    rw [form]
    refine ((reads_number? blank first reads).bind ?_).placed
    exact reads_pure
  by_cases zero : mantissa = 0
  · subst zero
    have form : Json.real x = if negative then '-' :: ['0', '.', '0'] else ['0', '.', '0'] := by
      simp [Json.real, finite?, decoded]
    refine number form ⟨'0', _, rfl, rfl⟩ ?_
    have number : Decimal.value (['0'] ++ ['0']) = 0 := rfl
    refine @reads_number_fraction after ['0'] ['0'] negative _ Whole.zero (by simp) (by simp) stop ?_
    rw [number]
    exact reads_finite (Decimal.nearest_zero finite decoded _) finite
  · have form : Json.real x = if negative
        then '-' :: positive plain (Decimal.shortest mantissa exponent).1 (Decimal.shortest mantissa exponent).2
        else positive plain (Decimal.shortest mantissa exponent).1 (Decimal.shortest mantissa exponent).2 := by
      simp [Json.real, finite?, decoded, zero]
    refine number form (exists_positive_cons _ _ _) ?_
    have canonical := canonical.resolve_left fun least => zero least.1
    have bound := Decimal.leading_shortest canonical
    refine reads_positive stop (fun more => ?_) plain (Decimal.shortest_spec canonical).1
      (Nat.le_trans bound (by decide))
    exact reads_finite (Decimal.nearest_shortest finite decoded zero more) finite

theorem gives_finite (negative : Bool) (significand : Nat) (exponent : Int) :
    Gives (Reader.finite negative significand exponent) fun number => number.toFloat.isFinite := by
  unfold Reader.finite
  dsimp only
  split
  next finite => exact gives_pure finite
  next => exact gives_failHere _

theorem gives_whole (negative : Bool) (size : Nat) :
    Gives (whole negative size) fun number => number.toFloat.isFinite := by
  unfold whole
  cases negative with
  | true =>
    simp only [if_true]
    split
    next bound => exact gives_pure (Decimal.isFinite_nearest true (Nat.lt_of_le_of_lt bound.2 (by decide)))
    next => exact gives_finite _ _ _
  | false =>
    simp only [Bool.false_eq_true, if_false]
    split
    next bound => exact gives_pure (Decimal.isFinite_nearest false (Nat.lt_of_le_of_lt bound (by decide)))
    next => exact gives_finite _ _ _

theorem gives_withExponent (negative : Bool) (significand shift : Nat) :
    Gives (withExponent negative significand shift) fun number => number.toFloat.isFinite := by
  refine Gives.after fun _ => Gives.after fun below => Gives.after fun symbol => ?_
  split
  · exact gives_failHere _
  split
  · refine Gives.after fun exponent => ?_
    split
    · exact gives_finite _ _ _
    split
    · exact gives_failHere _
    · refine Gives.after fun _ => gives_pure ?_
      cases negative <;> decide
  · exact gives_failAhead _

theorem gives_number (negative : Bool) : Gives (number negative) fun number => number.toFloat.isFinite := by
  refine Gives.after fun run => Gives.after fun symbol => ?_
  split
  · refine Gives.after fun _ => Gives.after fun fraction => ?_
    split
    · refine Gives.after fun symbol => ?_
      split <;> exact gives_failAhead _
    · refine Gives.after fun scientific => ?_
      split
      · exact gives_withExponent _ _ _
      · exact gives_finite _ _ _
  · refine Gives.after fun scientific => ?_
    split
    · exact gives_withExponent _ _ _
    · exact gives_whole _ _

theorem gives_real : Gives real fun x => x.isFinite := by
  have number : Gives number? fun number => ∀ found ∈ number, found.toFloat.isFinite := by
    refine Gives.after fun symbol => ?_
    split
    · exact gives_failAhead _
    · refine Gives.after fun _ => (gives_number true).map fun number finite found same => ?_
      exact Option.some.inj same ▸ finite
    · split
      · exact (gives_number false).map fun number finite found same => Option.some.inj same ▸ finite
      · exact gives_pure fun found same => nomatch same
  refine (number.bind fun found finite => ?_).placed
  split
  · exact gives_mismatch _
  · exact gives_pure (finite _ rfl)

end CallProfile.Json.Reader
