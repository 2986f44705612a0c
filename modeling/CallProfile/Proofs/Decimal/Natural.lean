import Mathlib.Algebra.Group.Nat.Defs
import CallProfile.Decimal.Natural

namespace CallProfile.Decimal

theorem value_eq_ofDigitChars (run : List Char) : value run = Nat.ofDigitChars 10 run 0 :=
  Nat.ofDigitChars_eq_foldl.symm

@[simp] theorem value_digits (number : Nat) : value (digits number) = number := by
  rw [value_eq_ofDigitChars, digits, Nat.ofDigitChars_toDigits (by decide) (by decide)]

theorem value_append (front back : List Char) :
    value (front ++ back) = 10 ^ back.length * value front + value back := by
  simp only [value_eq_ofDigitChars]
  rw [Nat.ofDigitChars_append, Nat.ofDigitChars_eq_ofDigitChars_zero]

theorem value_zeros (count : Nat) : value (List.replicate count '0') = 0 := by
  rw [value_eq_ofDigitChars, Nat.ofDigitChars_replicate_zero, Nat.mul_zero]

theorem digits_ne_nil (number : Nat) : digits number ≠ [] := Nat.toDigits_ne_nil

theorem isDigit_of_mem_digits {number : Nat} {c : Char} (member : c ∈ digits number) : c.isDigit :=
  Nat.isDigit_of_mem_toDigits (by decide) (by decide) member

theorem natural?_digits (number : Nat) : natural? (digits number) = some number := by
  have all : (digits number).all Char.isDigit := List.all_eq_true.mpr fun c member => isDigit_of_mem_digits member
  have some : (digits number).isEmpty = false := by
    rw [List.isEmpty_eq_false_iff]
    exact digits_ne_nil number
  simp [natural?, all, some]

theorem natural?_eq_some_iff {text : List Char} {number : Nat} :
    natural? text = some number ↔ text ≠ [] ∧ (∀ c ∈ text, c.isDigit) ∧ number = Nat.ofDigitChars 10 text 0 := by
  rw [natural?, value_eq_ofDigitChars]
  by_cases bad : text.isEmpty || !text.all Char.isDigit
  · rw [if_pos bad]
    simp only [reduceCtorEq, false_iff]
    rintro ⟨some, digits, -⟩
    simp [some, List.all_eq_true.mpr digits] at bad
  · rw [if_neg bad, Option.some.injEq]
    simp only [Bool.or_eq_true, List.isEmpty_iff, Bool.not_eq_true', not_or, Bool.not_eq_false, List.all_eq_true] at bad
    exact ⟨fun same => ⟨bad.1, bad.2, same.symm⟩, fun spelled => spelled.2.2.symm⟩

theorem lt_pow_length_digits (number : Nat) : number < 10 ^ (digits number).length :=
  (Nat.length_toDigits_le_iff (by decide) Nat.length_toDigits_pos).mp (Nat.le_refl _)

theorem pow_length_digits_le {number : Nat} (positive : 0 < number) : 10 ^ ((digits number).length - 1) ≤ number := by
  have someDigits : 0 < (digits number).length := Nat.length_toDigits_pos
  by_cases one : (digits number).length = 1
  · rw [one]
    exact positive
  · refine Nat.le_of_not_lt fun less => ?_
    have fewer := (Nat.length_toDigits_le_iff (by decide) (by omega)).mpr less
    rw [← digits] at fewer
    omega

theorem digits_head {number : Nat} (positive : 0 < number) :
    ∃ first rest, digits number = first :: rest ∧ first ≠ '0' := by
  induction number using Nat.strongRecOn with
  | ind number ih =>
    by_cases small : number < 10
    · refine ⟨number.digitChar, [], Nat.toDigits_of_lt_base small, ?_⟩
      have nonzero : ∀ digit < 10, 0 < digit → digit.digitChar ≠ '0' := by decide
      exact nonzero number small positive
    · obtain ⟨first, rest, split, nonzero⟩ := ih (number / 10) (by omega) (by omega)
      refine ⟨first, rest ++ [(number % 10).digitChar], ?_, nonzero⟩
      rw [digits, Nat.toDigits_of_base_le (by decide) (by omega), ← digits, split]
      rfl

end CallProfile.Decimal
