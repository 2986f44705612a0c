import Mathlib.Algebra.Order.Field.Power
import Mathlib.Data.Int.Log
import Mathlib.Data.Rat.Floor
import Mathlib.Tactic.FieldSimp
import Mathlib.Tactic.Linarith
import Mathlib.Tactic.NormNum
import Mathlib.Tactic.Positivity
import Mathlib.Tactic.Ring
import CallProfile.Decimal.Shortest

namespace CallProfile.Decimal

open Binary64 (fractions)

theorem powerParts_pos (base : Nat) (positive : 0 < base) (exponent : Int) :
    0 < (powerParts base exponent).1 ∧ 0 < (powerParts base exponent).2 :=
  ⟨Nat.pow_pos positive, Nat.pow_pos positive⟩

theorem powerParts_div (base : Nat) (positive : 0 < base) (exponent : Int) :
    ((powerParts base exponent).1 : ℚ) / (powerParts base exponent).2 = (base : ℚ) ^ exponent := by
  have nonzero : (base : ℚ) ≠ 0 := by positivity
  rcases exponent.eq_nat_or_neg with ⟨size, rfl | rfl⟩
  · simp [powerParts]
  · simp [powerParts]

section Nearest

variable {numerator denominator nearest : Nat}

theorem nearest_eq_or (positive : 0 < denominator)
    (lower : 2 * (nearest * denominator) ≤ 2 * numerator + denominator)
    (upper : 2 * numerator ≤ 2 * (nearest * denominator) + denominator) :
    nearest = numerator / denominator ∨ nearest = numerator / denominator + 1 := by
  have split := Nat.div_add_mod' numerator denominator
  have rest := Nat.mod_lt numerator positive
  rcases Nat.lt_trichotomy nearest (numerator / denominator) with less | same | more
  · have := Nat.mul_le_mul_right denominator (Nat.succ_le_of_lt less)
    rw [Nat.succ_mul] at this
    omega
  · exact .inl same
  · rcases Nat.eq_or_lt_of_le (Nat.succ_le_of_lt more) with same | more
    · exact .inr same.symm
    · have := Nat.mul_le_mul_right denominator (Nat.succ_le_of_lt more)
      simp only [Nat.succ_mul] at this
      omega

theorem roundHalfEven_eq_of_twice (positive : 0 < denominator)
    (lower : 2 * (nearest * denominator) ≤ 2 * numerator + denominator)
    (upper : 2 * numerator ≤ 2 * (nearest * denominator) + denominator)
    (tie : nearest % 2 = 1 → 2 * (nearest * denominator) < 2 * numerator + denominator ∧
      2 * numerator < 2 * (nearest * denominator) + denominator) :
    roundHalfEven numerator denominator = nearest := by
  have near := nearest_eq_or positive lower upper
  have split := Nat.div_add_mod' numerator denominator
  have rest := Nat.mod_lt numerator positive
  unfold roundHalfEven
  dsimp only
  generalize numerator / denominator = whole at near split ⊢
  generalize numerator % denominator = remainder at split rest ⊢
  rcases near with rfl | rfl
  · split_ifs <;> omega
  · simp only [Nat.add_mul, Nat.one_mul] at lower upper tie
    split_ifs <;> omega

theorem roundHalfEven_eq (positive : 0 < denominator)
    (lower : (nearest : ℚ) - 1 / 2 ≤ numerator / denominator)
    (upper : (numerator : ℚ) / denominator ≤ nearest + 1 / 2)
    (tie : nearest % 2 = 1 →
      (nearest : ℚ) - 1 / 2 < numerator / denominator ∧ (numerator : ℚ) / denominator < nearest + 1 / 2) :
    roundHalfEven numerator denominator = nearest := by
  have positive' : (0 : ℚ) < denominator := by exact_mod_cast positive
  rw [le_div_iff₀ positive'] at lower
  rw [div_le_iff₀ positive'] at upper
  rw [lt_div_iff₀ positive', div_lt_iff₀ positive'] at tie
  refine roundHalfEven_eq_of_twice positive ?_ ?_ fun odd => ?_
  · have : 2 * ((nearest : ℚ) * denominator) ≤ 2 * numerator + denominator := by linarith
    exact_mod_cast this
  · have : 2 * (numerator : ℚ) ≤ 2 * (nearest * denominator) + denominator := by linarith
    exact_mod_cast this
  · obtain ⟨below, above⟩ := tie odd
    have below : 2 * ((nearest : ℚ) * denominator) < 2 * numerator + denominator := by linarith
    have above : 2 * (numerator : ℚ) < 2 * (nearest * denominator) + denominator := by linarith
    exact ⟨by exact_mod_cast below, by exact_mod_cast above⟩

theorem quotient_div_zpow (numerator denominator : Nat) (exponent : Int) :
    ((numerator * (powerParts 2 exponent).2 : Nat) : ℚ) / (denominator * (powerParts 2 exponent).1 : Nat) =
      numerator / denominator / 2 ^ exponent := by
  have power := powerParts_div 2 (by decide) exponent
  push_cast at power ⊢
  rw [← power]
  field_simp

theorem roundHalfEven_scaled (positive : 0 < denominator) (scale : Int)
    (bounds : (nearest : ℚ) - 1 / 2 ≤ numerator / denominator / 2 ^ scale ∧
      (numerator : ℚ) / denominator / 2 ^ scale ≤ nearest + 1 / 2)
    (tie : nearest % 2 = 1 → (nearest : ℚ) - 1 / 2 < numerator / denominator / 2 ^ scale ∧
      (numerator : ℚ) / denominator / 2 ^ scale < nearest + 1 / 2) :
    roundHalfEven (numerator * (powerParts 2 scale).2) (denominator * (powerParts 2 scale).1) = nearest := by
  rw [← quotient_div_zpow] at bounds tie
  exact roundHalfEven_eq (Nat.mul_pos positive (powerParts_pos _ (by decide) scale).1) bounds.1 bounds.2 tie

theorem roundHalfEven_le (numerator denominator : Nat) :
    roundHalfEven numerator denominator ≤ numerator / denominator + 1 := by
  unfold roundHalfEven
  dsimp only
  split_ifs <;> omega

end Nearest

/-- The mantissa and the exponent of a positive double, which has only one of each. -/
structure Canonical (mantissa : Nat) (exponent : Int) : Prop where
  positive : 0 < mantissa
  fits : mantissa < 2 * fractions
  least : -1074 ≤ exponent
  greatest : exponent ≤ 971
  normal : fractions ≤ mantissa ∨ exponent = -1074

theorem Interval.around_low (mantissa : Nat) (exponent : Int) :
    4 * mantissa ≤ (around mantissa exponent).low + 2 ∧ (around mantissa exponent).low ≤ 4 * mantissa := by
  simp only [around]
  split <;> omega

theorem Canonical.low_pos {mantissa : Nat} {exponent : Int} (canonical : Canonical mantissa exponent) :
    0 < (Interval.around mantissa exponent).low := by
  have positive := canonical.positive
  have := Interval.around_low mantissa exponent
  omega

/-- Whether a number lies in an interval whose unit is a quarter of `2 ^ exponent`. -/
def Interval.Contains (interval : Interval) (exponent : Int) (number : ℚ) : Prop :=
  if interval.closed then
    interval.low * (2 : ℚ) ^ (exponent - 2) ≤ number ∧ number ≤ interval.high * (2 : ℚ) ^ (exponent - 2)
  else interval.low * (2 : ℚ) ^ (exponent - 2) < number ∧ number < interval.high * (2 : ℚ) ^ (exponent - 2)

theorem Interval.Contains.bounds {interval : Interval} {exponent : Int} {number : ℚ}
    (h : interval.Contains exponent number) :
    interval.low * (2 : ℚ) ^ (exponent - 2) ≤ number ∧ number ≤ interval.high * (2 : ℚ) ^ (exponent - 2) := by
  unfold Contains at h
  split at h
  · exact h
  · exact ⟨h.1.le, h.2.le⟩

def bitsOf (mantissa : Nat) (exponent : Int) : Nat := (exponent + 1074).toNat * fractions + mantissa

theorem Canonical.bitsOf_lt {mantissa : Nat} {exponent : Int} (canonical : Canonical mantissa exponent) :
    bitsOf mantissa exponent < infinity := by
  have fits := canonical.fits
  have greatest := canonical.greatest
  have steps : (exponent + 1074).toNat ≤ 2045 := by omega
  have := Nat.mul_le_mul_right fractions steps
  unfold bitsOf infinity Binary64.topExponent
  omega

theorem log2_bounds {number : Nat} (positive : 0 < number) :
    (2 : ℚ) ^ (number.log2 : Int) ≤ number ∧ (number : ℚ) < 2 ^ ((number.log2 : Int) + 1) := by
  have lower := Nat.log2_self_le (Nat.pos_iff_ne_zero.mp positive)
  have upper := @Nat.lt_log2_self number
  constructor
  · exact_mod_cast lower
  · have : (number : ℚ) < ((2 ^ (number.log2 + 1) : Nat) : ℚ) := by exact_mod_cast upper
    simpa [zpow_add₀, pow_succ] using this

theorem exponent_lt_of_zpow_lt {low high : Int} (h : (2 : ℚ) ^ low < 2 ^ high) : low < high :=
  (zpow_lt_zpow_iff_right₀ (by norm_num)).mp h

theorem exists_magnitude {number : ℚ} (positive : 0 < number) :
    ∃ magnitude : Int, (2 : ℚ) ^ magnitude ≤ number ∧ number < 2 ^ (magnitude + 1) := by
  refine ⟨Int.log 2 number, ?_, ?_⟩
  · exact_mod_cast Int.zpow_log_le_self (b := 2) (by decide) positive
  · exact_mod_cast Int.lt_zpow_succ_log_self (b := 2) (by decide) number

theorem quotient_lt_zpow_iff {numerator denominator : Nat} (positive : 0 < denominator) (exponent : Int) :
    numerator * (powerParts 2 exponent).2 < denominator * (powerParts 2 exponent).1 ↔
      (numerator : ℚ) / denominator < 2 ^ exponent := by
  have down : (0 : ℚ) < (powerParts 2 exponent).2 := by exact_mod_cast (powerParts_pos _ (by decide) exponent).2
  have positive' : (0 : ℚ) < denominator := by exact_mod_cast positive
  have power := powerParts_div 2 (by decide) exponent
  push_cast at power
  rw [← power, div_lt_div_iff₀ positive' down, mul_comm ((powerParts 2 exponent).1 : ℚ)]
  exact_mod_cast Iff.rfl

theorem quotient_bounds {numerator denominator : Nat} (positive : 0 < numerator) (positive' : 0 < denominator)
    {places : Int} (difference : (numerator.log2 : Int) - denominator.log2 = places) :
    (2 : ℚ) ^ (places - 1) < numerator / denominator ∧ (numerator : ℚ) / denominator < 2 ^ (places + 1) := by
  obtain ⟨numeratorLow, numeratorHigh⟩ := log2_bounds positive
  obtain ⟨denominatorLow, denominatorHigh⟩ := log2_bounds positive'
  have quotient : (0 : ℚ) < denominator := by exact_mod_cast positive'
  constructor
  · rw [lt_div_iff₀ quotient]
    calc (2 : ℚ) ^ (places - 1) * denominator
        < 2 ^ (places - 1) * 2 ^ ((denominator.log2 : Int) + 1) := by gcongr
      _ = 2 ^ (numerator.log2 : Int) := by
        rw [← zpow_add₀ (by norm_num)]
        congr 1
        omega
      _ ≤ numerator := numeratorLow
  · rw [div_lt_iff₀ quotient]
    calc (numerator : ℚ) < 2 ^ ((numerator.log2 : Int) + 1) := numeratorHigh
      _ = 2 ^ (places + 1) * 2 ^ (denominator.log2 : Int) := by
        rw [← zpow_add₀ (by norm_num)]
        congr 1
        omega
      _ ≤ 2 ^ (places + 1) * denominator := by gcongr

theorem nearestBits_eq_of_magnitude {numerator denominator : Nat} (positive : 0 < numerator)
    (positive' : 0 < denominator) {magnitude : Int} (lower : (2 : ℚ) ^ magnitude ≤ numerator / denominator)
    (upper : (numerator : ℚ) / denominator < 2 ^ (magnitude + 1)) :
    nearestBits numerator denominator =
      min (bitsOf (roundHalfEven (numerator * (powerParts 2 (max (magnitude - 52) (-1074))).2)
        (denominator * (powerParts 2 (max (magnitude - 52) (-1074))).1)) (max (magnitude - 52) (-1074))) infinity := by
  obtain ⟨guess, guessed⟩ : ∃ guess, (numerator.log2 : Int) - denominator.log2 = guess := ⟨_, rfl⟩
  obtain ⟨guessLow, guessHigh⟩ := quotient_bounds positive positive' guessed
  have found : (if numerator * (powerParts 2 guess).2 < denominator * (powerParts 2 guess).1 then guess - 1
      else guess) = magnitude := by
    split_ifs with tooHigh
    · rw [quotient_lt_zpow_iff positive'] at tooHigh
      have := exponent_lt_of_zpow_lt (lower.trans_lt tooHigh)
      have := exponent_lt_of_zpow_lt (guessLow.trans upper)
      omega
    · rw [quotient_lt_zpow_iff positive', not_lt] at tooHigh
      have := exponent_lt_of_zpow_lt (tooHigh.trans_lt upper)
      have := exponent_lt_of_zpow_lt (lower.trans_lt guessHigh)
      omega
  rw [← found, ← guessed]
  rfl

theorem cast_fractions : (fractions : ℚ) = 2 ^ (52 : Int) := by
  have : fractions = 2 ^ 52 := rfl
  rw [this]
  norm_num

theorem Interval.Contains.scaled {mantissa : Nat} {exponent : Int} {number : ℚ}
    (inside : (Interval.around mantissa exponent).Contains exponent number) :
    ((mantissa : ℚ) - 1 / 2 ≤ number / 2 ^ exponent ∧ number / 2 ^ exponent ≤ mantissa + 1 / 2) ∧
      (mantissa % 2 = 1 →
        (mantissa : ℚ) - 1 / 2 < number / 2 ^ exponent ∧ number / 2 ^ exponent < mantissa + 1 / 2) := by
  have unit : (0 : ℚ) < 2 ^ exponent := by positivity
  have quarter : (2 : ℚ) ^ (exponent - 2) = 2 ^ exponent / 4 := by
    rw [zpow_sub₀ (by norm_num)]
    norm_num
  have lowEnd : 4 * (mantissa : ℚ) ≤ (Interval.around mantissa exponent).low + 2 := by
    exact_mod_cast (Interval.around_low mantissa exponent).1
  have highEnd : ((Interval.around mantissa exponent).high : ℚ) = 4 * mantissa + 2 := by
    simp only [Interval.around]
    push_cast
    ring
  rw [le_div_iff₀ unit, div_le_iff₀ unit, lt_div_iff₀ unit, div_lt_iff₀ unit]
  have lower : ((mantissa : ℚ) - 1 / 2) * 2 ^ exponent ≤
      (Interval.around mantissa exponent).low * 2 ^ (exponent - 2) := by
    rw [quarter]
    nlinarith
  have upper : ((Interval.around mantissa exponent).high : ℚ) * 2 ^ (exponent - 2) =
      (mantissa + 1 / 2) * 2 ^ exponent := by
    rw [quarter, highEnd]
    ring
  obtain ⟨low, high⟩ := inside.bounds
  rw [upper] at high
  refine ⟨⟨lower.trans low, high⟩, fun odd => ?_⟩
  have notClosed : (Interval.around mantissa exponent).closed = false := by simp [Interval.around, odd]
  simp only [Interval.Contains, notClosed, Bool.false_eq_true, if_false] at inside
  exact ⟨lower.trans_lt inside.1, upper ▸ inside.2⟩

theorem Canonical.pos_of_contains {mantissa : Nat} {exponent : Int} (canonical : Canonical mantissa exponent)
    {number : ℚ} (inside : (Interval.around mantissa exponent).Contains exponent number) : 0 < number := by
  have low : (0 : ℚ) < (Interval.around mantissa exponent).low := by exact_mod_cast canonical.low_pos
  calc (0 : ℚ) < (Interval.around mantissa exponent).low * 2 ^ (exponent - 2) := by positivity
    _ ≤ number := inside.bounds.1

theorem Canonical.lt_zpow {mantissa : Nat} {exponent : Int} (canonical : Canonical mantissa exponent) {number : ℚ}
    (inside : (Interval.around mantissa exponent).Contains exponent number) : number < 2 ^ (exponent + 53) := by
  have unit : (0 : ℚ) < 2 ^ exponent := by positivity
  have small : (mantissa : ℚ) + 1 ≤ 2 ^ (53 : Int) := by
    have : (mantissa : ℚ) + 1 ≤ 2 * fractions := by exact_mod_cast canonical.fits
    rw [cast_fractions] at this
    norm_num at this ⊢
    exact this
  have upper := inside.scaled.1.2
  rw [div_le_iff₀ unit] at upper
  rw [add_comm exponent, zpow_add₀ (by norm_num)]
  calc number ≤ (mantissa + 1 / 2) * 2 ^ exponent := upper
    _ < 2 ^ (53 : Int) * 2 ^ exponent := mul_lt_mul_of_pos_right (by linarith) unit

theorem Canonical.below_power {mantissa : Nat} {exponent : Int} (canonical : Canonical mantissa exponent)
    (notLeast : -1074 < exponent) {number : ℚ}
    (inside : (Interval.around mantissa exponent).Contains exponent number)
    (below : number < fractions * 2 ^ exponent) :
    mantissa = fractions ∧ ((fractions : ℚ) - 1 / 4) * 2 ^ exponent ≤ number := by
  have unit : (0 : ℚ) < 2 ^ exponent := by positivity
  have power : mantissa = fractions := by
    have normal := canonical.normal
    have lower := inside.scaled.1.1
    rw [le_div_iff₀ unit] at lower
    have : (mantissa : ℚ) - 1 / 2 < fractions := lt_of_mul_lt_mul_right (lower.trans_lt below) unit.le
    have : (mantissa : ℚ) < fractions + 1 := by linarith
    have : mantissa < fractions + 1 := by exact_mod_cast this
    omega
  refine ⟨power, ?_⟩
  have low : (Interval.around mantissa exponent).low = 4 * fractions - 1 := by
    simp only [Interval.around, power, notLeast, and_self, if_true]
  have bound := inside.bounds.1
  rw [low, Nat.cast_sub (by decide), zpow_sub₀ (by norm_num)] at bound
  push_cast at bound
  linarith

theorem bitsOf_carry {exponent : Int} (notLeast : -1074 < exponent) :
    bitsOf (2 * fractions) (exponent - 1) = bitsOf fractions exponent := by
  have steps : (exponent + 1074).toNat = (exponent - 1 + 1074).toNat + 1 := by omega
  rw [bitsOf, bitsOf, steps, Nat.add_one_mul (exponent - 1 + 1074).toNat]
  omega

theorem scale_of_gap {exponent magnitude : Int} {number : ℚ}
    (near : ((fractions : ℚ) - 1 / 4) * 2 ^ exponent ≤ number) (high : number < 2 ^ (magnitude + 1)) :
    exponent + 51 < magnitude + 1 := by
  refine exponent_lt_of_zpow_lt (lt_of_le_of_lt (le_trans ?_ near) high)
  rw [add_comm, zpow_add₀ (by norm_num), cast_fractions]
  gcongr
  norm_num

theorem bounds_of_gap {exponent : Int} {number : ℚ} (near : ((fractions : ℚ) - 1 / 4) * 2 ^ exponent ≤ number)
    (below : number < fractions * 2 ^ exponent) :
    ((2 * fractions : Nat) : ℚ) - 1 / 2 ≤ number / 2 ^ (exponent - 1) ∧
      number / 2 ^ (exponent - 1) ≤ (2 * fractions : Nat) + 1 / 2 := by
  have unit : (0 : ℚ) < 2 ^ (exponent - 1) := by positivity
  have half : (2 : ℚ) ^ exponent = 2 * 2 ^ (exponent - 1) := by
    rw [zpow_sub₀ (by norm_num)]
    ring
  rw [half] at near below
  rw [le_div_iff₀ unit, div_le_iff₀ unit]
  push_cast
  constructor <;> linarith

/-- A quotient in the rounding interval of a double is rounded to the double. -/
theorem nearestBits_eq {numerator denominator mantissa : Nat} {exponent : Int} (positive : 0 < denominator)
    (canonical : Canonical mantissa exponent)
    (inside : (Interval.around mantissa exponent).Contains exponent (numerator / denominator)) :
    nearestBits numerator denominator = bitsOf mantissa exponent := by
  have quotient := canonical.pos_of_contains inside
  have denominator' : (0 : ℚ) < denominator := by exact_mod_cast positive
  have numerator' : 0 < numerator := by
    rw [div_pos_iff_of_pos_right denominator'] at quotient
    exact_mod_cast quotient
  have least := canonical.least
  have fits := canonical.bitsOf_lt.le
  obtain ⟨magnitude, magnitudeLow, magnitudeHigh⟩ := exists_magnitude quotient
  have magnitudeLt := exponent_lt_of_zpow_lt (magnitudeLow.trans_lt (canonical.lt_zpow inside))
  rw [nearestBits_eq_of_magnitude numerator' positive magnitudeLow magnitudeHigh]
  by_cases same : max (magnitude - 52) (-1074) = exponent
  · obtain ⟨bounds, tie⟩ := inside.scaled
    rw [same, roundHalfEven_scaled positive exponent bounds tie]
    exact Nat.min_eq_left fits
  · -- the quotient lies in the gap before a power of two
    have notLeast : -1074 < exponent := by omega
    have below : (numerator : ℚ) / denominator < fractions * 2 ^ exponent := by
      rw [cast_fractions, ← zpow_add₀ (by norm_num)]
      exact magnitudeHigh.trans_le (zpow_le_zpow_right₀ (by norm_num) (by omega))
    obtain ⟨rfl, near⟩ := canonical.below_power notLeast inside below
    have scale : max (magnitude - 52) (-1074) = exponent - 1 := by
      have := scale_of_gap near magnitudeHigh
      omega
    have rounded := roundHalfEven_scaled positive (exponent - 1) (bounds_of_gap near below) (by omega)
    rw [scale, rounded, bitsOf_carry notLeast]
    exact Nat.min_eq_left fits

theorem nearestBits_lt {numerator denominator : Nat} (positive : 0 < numerator) (positive' : 0 < denominator)
    (bound : (numerator : ℚ) / denominator < 2 ^ (64 : Int)) : nearestBits numerator denominator < infinity := by
  have quotient : (0 : ℚ) < numerator / denominator := by positivity
  obtain ⟨magnitude, magnitudeLow, magnitudeHigh⟩ := exists_magnitude quotient
  have magnitudeLt := exponent_lt_of_zpow_lt (magnitudeLow.trans_lt bound)
  rw [nearestBits_eq_of_magnitude positive positive' magnitudeLow magnitudeHigh]
  obtain ⟨scale, scaled⟩ : ∃ scale, max (magnitude - 52) (-1074) = scale := ⟨_, rfl⟩
  rw [scaled]
  refine Nat.lt_of_le_of_lt (Nat.min_le_left _ _) ?_
  have scaledDenominator := Nat.mul_pos positive' (powerParts_pos 2 (by decide) scale).1
  have floor : numerator * (powerParts 2 scale).2 / (denominator * (powerParts 2 scale).1) < 2 * fractions := by
    have scaledDenominator' : (0 : ℚ) < (denominator * (powerParts 2 scale).1 : Nat) := by
      exact_mod_cast scaledDenominator
    have unit : (0 : ℚ) < 2 ^ scale := by positivity
    have fits : (numerator : ℚ) / denominator < 2 * fractions * 2 ^ scale := by
      have two : (2 : ℚ) * fractions = 2 ^ (53 : Int) := by
        rw [cast_fractions]
        norm_num
      rw [two, ← zpow_add₀ (by norm_num)]
      exact magnitudeHigh.trans_le (zpow_le_zpow_right₀ (by norm_num) (by omega))
    rw [← div_lt_iff₀ unit, ← quotient_div_zpow, div_lt_iff₀ scaledDenominator'] at fits
    rw [Nat.div_lt_iff_lt_mul scaledDenominator]
    exact_mod_cast fits
  have rounded := roundHalfEven_le (numerator * (powerParts 2 scale).2) (denominator * (powerParts 2 scale).1)
  have steps : (scale + 1074).toNat ≤ 1085 := by omega
  have := Nat.mul_le_mul_right fractions steps
  have : 0 < fractions := by decide
  unfold bitsOf infinity Binary64.topExponent
  omega

end CallProfile.Decimal
