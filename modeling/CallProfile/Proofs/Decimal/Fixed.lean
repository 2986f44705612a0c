import CallProfile.Decimal.Fixed
import CallProfile.Proofs.Decimal.Natural
import CallProfile.Proofs.Decimal.Rounding

namespace CallProfile.Decimal

/-- The number of units of the last place that a text with so many places stands for. -/
def units? (places : Nat) (text : List Char) : Option Nat :=
  match text.dropWhile (· ≠ '.') with
  | [] => none
  | _ :: fraction => if fraction.length = places then natural? (text.takeWhile (· ≠ '.') ++ fraction) else none

theorem units?_split {whole fraction : List Char} (nonempty : whole ≠ []) (wholeDigits : ∀ c ∈ whole, c.isDigit)
    (fractionDigits : ∀ c ∈ fraction, c.isDigit) :
    units? fraction.length (whole ++ '.' :: fraction) = some (value (whole ++ fraction)) := by
  have before : ∀ c ∈ whole, decide (c ≠ '.') = true := by
    intro c member
    refine decide_eq_true fun same => ?_
    have digit := wholeDigits c member
    rw [same] at digit
    exact absurd digit (by decide)
  have text : natural? (whole ++ fraction) = some (value (whole ++ fraction)) := by
    refine natural?_eq_some_iff.mpr ⟨List.append_ne_nil_of_left_ne_nil nonempty _, fun c member => ?_, ?_⟩
    · exact (List.mem_append.mp member).elim (wholeDigits c) (fractionDigits c)
    · exact value_eq_ofDigitChars _
  simp only [units?, List.dropWhile_append_of_pos before, List.takeWhile_append_of_pos before]
  simp [text]

theorem units?_pointed {places : Nat} (some : places ≠ 0) (units : Nat) :
    units? places (pointed places units).toList = units := by
  have scale : 0 < 10 ^ places := Nat.pow_pos (by decide)
  have short : (digits (units % 10 ^ places)).length ≤ places :=
    (Nat.length_toDigits_le_iff (by decide) (Nat.pos_of_ne_zero some)).mpr (Nat.mod_lt _ scale)
  have padded : (List.replicate (places - (digits (units % 10 ^ places)).length) '0' ++
      digits (units % 10 ^ places)).length = places := by
    rw [List.length_append, List.length_replicate]
    omega
  have paddedDigits : ∀ c ∈ List.replicate (places - (digits (units % 10 ^ places)).length) '0' ++
      digits (units % 10 ^ places), c.isDigit := by
    intro c member
    rcases List.mem_append.mp member with member | member
    · rw [List.eq_of_mem_replicate member]
      decide
    · exact isDigit_of_mem_digits member
  have text := units?_split (digits_ne_nil (units / 10 ^ places)) (fun c => isDigit_of_mem_digits) paddedDigits
  rw [padded, value_append, padded, value_append, value_zeros, value_digits, value_digits, Nat.mul_zero, Nat.zero_add,
    Nat.div_add_mod] at text
  rw [pointed, if_neg some, String.toList_ofList, List.append_assoc]
  exact text

section Rounding

variable {numerator denominator : Nat}

theorem roundHalfEven_mul_left {factor : Nat} (positive : 0 < factor) :
    roundHalfEven (factor * numerator) (factor * denominator) = roundHalfEven numerator denominator := by
  have whole := Nat.mul_div_mul_left numerator denominator positive
  have rest := Nat.mul_mod_mul_left factor numerator denominator
  have twice : 2 * (factor * (numerator % denominator)) = factor * (2 * (numerator % denominator)) :=
    Nat.mul_left_comm _ _ _
  simp only [roundHalfEven, whole, rest, twice, Nat.mul_lt_mul_left positive,
    Nat.mul_right_inj (Nat.pos_iff_ne_zero.mp positive)]

theorem roundHalfEven_congr {numerator' denominator' : Nat} (positive : 0 < denominator) (positive' : 0 < denominator')
    (same : numerator * denominator' = numerator' * denominator) :
    roundHalfEven numerator denominator = roundHalfEven numerator' denominator' := by
  rw [← roundHalfEven_mul_left positive', Nat.mul_comm denominator', same, Nat.mul_comm numerator',
    Nat.mul_comm denominator', roundHalfEven_mul_left positive]

theorem roundHalfEven_one (numerator : Nat) : roundHalfEven numerator 1 = numerator := by
  simp [roundHalfEven, Nat.mod_one]

theorem le_roundHalfEven_iff (positive : 0 < denominator) {bound : Nat} (even : bound % 2 = 0) :
    bound ≤ roundHalfEven numerator denominator ↔ 2 * (bound * denominator) ≤ 2 * numerator + denominator := by
  have split := Nat.div_add_mod' numerator denominator
  have rest := Nat.mod_lt numerator positive
  unfold roundHalfEven
  dsimp only
  generalize numerator / denominator = whole at split ⊢
  generalize numerator % denominator = remainder at split rest ⊢
  rcases Nat.lt_trichotomy bound (whole + 1) with below | same | above
  · have := Nat.mul_le_mul_right denominator (Nat.le_of_lt_succ below)
    split_ifs <;> omega
  · rw [same, Nat.add_one_mul whole]
    split_ifs <;> omega
  · have := Nat.mul_le_mul_right denominator (Nat.succ_le_of_lt above)
    simp only [Nat.succ_mul] at this
    split_ifs <;> omega

end Rounding

theorem scaled_eq (places mantissa : Nat) (exponent : Int) : scaled places mantissa exponent =
    roundHalfEven (mantissa * 2 ^ exponent.toNat * 10 ^ places) (2 ^ (-exponent).toNat) := rfl

theorem scaled_mul_two_pow (places mantissa zeros : Nat) (exponent : Int) :
    scaled places (mantissa * 2 ^ zeros) (exponent - zeros) = scaled places mantissa exponent := by
  have powers : 2 ^ zeros * 2 ^ (exponent - zeros).toNat * 2 ^ (-exponent).toNat =
      2 ^ exponent.toNat * 2 ^ (-(exponent - zeros)).toNat := by
    rw [← Nat.pow_add, ← Nat.pow_add, ← Nat.pow_add]
    congr 1
    omega
  rw [scaled_eq, scaled_eq]
  refine roundHalfEven_congr (Nat.two_pow_pos _) (Nat.two_pow_pos _) ?_
  calc mantissa * 2 ^ zeros * 2 ^ (exponent - zeros).toNat * 10 ^ places * 2 ^ (-exponent).toNat
      = mantissa * (2 ^ zeros * 2 ^ (exponent - zeros).toNat * 2 ^ (-exponent).toNat) * 10 ^ places := by ring
    _ = mantissa * (2 ^ exponent.toNat * 2 ^ (-(exponent - zeros)).toNat) * 10 ^ places := by rw [powers]
    _ = mantissa * 2 ^ exponent.toNat * 10 ^ places * 2 ^ (-(exponent - zeros)).toNat := by ring

theorem scaled_whole (mantissa zeros : Nat) : scaled 0 mantissa zeros = mantissa * 2 ^ zeros := by
  have none : (-(zeros : Int)).toNat = 0 := by omega
  rw [scaled_eq, none, Int.toNat_natCast, Nat.pow_zero, Nat.mul_one, Nat.pow_zero, roundHalfEven_one]

theorem scaled_exact (number zeros : Nat) : scaled 0 (number * 2 ^ zeros) (-zeros) = number := by
  have shorter := scaled_mul_two_pow 0 number zeros (0 : Nat)
  rwa [scaled_whole, Nat.pow_zero, Nat.mul_one, Nat.cast_zero, Int.zero_sub] at shorter

end CallProfile.Decimal
