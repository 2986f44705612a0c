import CallProfile.Proofs.Decimal.Natural
import CallProfile.Proofs.Decimal.Rounding

namespace CallProfile.Decimal

open Binary64 (fractions)

variable {mantissa : Nat} {exponent : Int}

theorem exists_scale (exponent grid : Int) : ∃ scale : ℚ, 0 < scale ∧
    (∀ number : Nat, ((number * ((powerParts 2 exponent).1 * (powerParts 10 grid).2) : Nat) : ℚ) =
      number * 2 ^ exponent * scale) ∧
    ∀ number : Nat, ((number * ((powerParts 10 grid).1 * (powerParts 2 exponent).2) : Nat) : ℚ) =
      number * 10 ^ grid * scale := by
  have two := powerParts_div 2 (by decide) exponent
  have ten := powerParts_div 10 (by decide) grid
  have twoDown : (0 : ℚ) < (powerParts 2 exponent).2 := by exact_mod_cast (powerParts_pos _ (by decide) exponent).2
  have tenDown : (0 : ℚ) < (powerParts 10 grid).2 := by exact_mod_cast (powerParts_pos _ (by decide) grid).2
  refine ⟨(powerParts 2 exponent).2 * (powerParts 10 grid).2, by positivity, fun number => ?_, fun number => ?_⟩
  · push_cast at two ⊢
    rw [← two]
    field_simp
  · push_cast at ten ⊢
    rw [← ten]
    field_simp

theorem Interval.holds_iff (interval : Interval) (exponent grid : Int) (candidate : Nat) :
    interval.holds ((powerParts 2 (exponent - 2)).1 * (powerParts 10 grid).2)
        ((powerParts 10 grid).1 * (powerParts 2 (exponent - 2)).2) candidate ↔
      interval.Contains exponent (candidate * 10 ^ grid) := by
  obtain ⟨scale, positive, units, grids⟩ := exists_scale (exponent - 2) grid
  unfold Interval.holds Interval.Contains
  dsimp only
  split
  · rw [Bool.and_eq_true, decide_eq_true_eq, decide_eq_true_eq, ← @Nat.cast_le ℚ, ← @Nat.cast_le ℚ, units, units, grids,
      mul_le_mul_iff_left₀ positive, mul_le_mul_iff_left₀ positive]
  · rw [Bool.and_eq_true, decide_eq_true_eq, decide_eq_true_eq, ← @Nat.cast_lt ℚ, ← @Nat.cast_lt ℚ, units, units, grids,
      mul_lt_mul_iff_left₀ positive, mul_lt_mul_iff_left₀ positive]

theorem Interval.holds_of_pick {interval : Interval} {unit grid candidate : Nat}
    (picked : interval.pick unit grid = some candidate) :
    interval.holds unit grid candidate ∧ 0 < candidate := by
  unfold Interval.pick at picked
  dsimp only at picked
  split at picked
  next below above =>
    obtain ⟨below, positive⟩ : interval.holds unit grid (interval.value * unit / grid) ∧
      0 < interval.value * unit / grid := by simpa using below
    have both : candidate = interval.value * unit / grid ∨ candidate = interval.value * unit / grid + 1 := by
      have chosen := Option.some.inj picked
      split_ifs at chosen <;> omega
    rcases both with rfl | rfl
    · exact ⟨below, positive⟩
    · exact ⟨above, Nat.succ_pos _⟩
  next below above =>
    rw [← Option.some.inj picked]
    simpa using below
  next below above =>
    rw [← Option.some.inj picked]
    exact ⟨above, Nat.succ_pos _⟩
  next => cases picked

theorem Interval.exists_pick {unit grid : Nat} (positive : 0 < grid) (fine : grid < 2 * unit) :
    ∃ candidate, (Interval.around mantissa exponent).pick unit grid = some candidate := by
  have value : (Interval.around mantissa exponent).value = 4 * mantissa := rfl
  have high : (Interval.around mantissa exponent).high = 4 * mantissa + 2 := rfl
  have lowEnd := Nat.mul_le_mul_right unit (Interval.around_low mantissa exponent).2
  have past := Nat.lt_mul_div_succ (4 * mantissa * unit) positive
  have within := Nat.mul_div_le (4 * mantissa * unit) grid
  have above : (Interval.around mantissa exponent).holds unit grid
      ((Interval.around mantissa exponent).value * unit / grid + 1) := by
    simp only [Interval.holds, value, high]
    rw [Nat.mul_comm grid] at past within
    rw [Nat.add_one_mul (4 * mantissa * unit / grid)] at past ⊢
    rw [Nat.add_mul (4 * mantissa)]
    split <;> simp only [Bool.and_eq_true, decide_eq_true_eq] <;> omega
  unfold Interval.pick
  dsimp only
  rw [above]
  split <;> first | exact ⟨_, rfl⟩ | contradiction

theorem exists_pick_of_lt (mantissa : Nat) {grid : Int} (fine : (10 : ℚ) ^ grid < 2 ^ (exponent - 1)) :
    ∃ candidate, (Interval.around mantissa exponent).pick ((powerParts 2 (exponent - 2)).1 * (powerParts 10 grid).2)
      ((powerParts 10 grid).1 * (powerParts 2 (exponent - 2)).2) = some candidate := by
  obtain ⟨scale, positive, units, grids⟩ := exists_scale (exponent - 2) grid
  refine Interval.exists_pick (Nat.mul_pos (powerParts_pos _ (by decide) _).1 (powerParts_pos _ (by decide) _).2) ?_
  have half : (2 : ℚ) ^ (exponent - 1) = 2 * 2 ^ (exponent - 2) := by
    rw [show exponent - 1 = 1 + (exponent - 2) by omega, zpow_add₀ (by norm_num), zpow_one]
  have one := grids 1
  rw [Nat.one_mul, Nat.cast_one, one_mul] at one
  rw [← @Nat.cast_lt ℚ, one, units, Nat.cast_ofNat, ← half]
  exact mul_lt_mul_of_pos_right fine positive

theorem shortestFrom_succ (interval : Interval) (exponent : Int) (steps : Nat) (grid : Int) :
    shortestFrom interval exponent (steps + 1) grid =
      match interval.pick ((powerParts 2 (exponent - 2)).1 * (powerParts 10 grid).2)
        ((powerParts 10 grid).1 * (powerParts 2 (exponent - 2)).2) with
      | some candidate => (candidate, grid)
      | none => shortestFrom interval exponent steps (grid - 1) := rfl

/-- The search comes to a decimal in the interval, if it comes to a grid that is fine enough. -/
theorem shortestFrom_spec (mantissa : Nat) {exponent : Int} (steps : Nat) (grid : Int)
    (fine : ∃ step : Nat, step < steps ∧ (10 : ℚ) ^ (grid - step) < 2 ^ (exponent - 1)) :
    0 < (shortestFrom (Interval.around mantissa exponent) exponent steps grid).1 ∧
      (Interval.around mantissa exponent).Contains exponent
        ((shortestFrom (Interval.around mantissa exponent) exponent steps grid).1 *
          10 ^ (shortestFrom (Interval.around mantissa exponent) exponent steps grid).2) := by
  induction steps generalizing grid with
  | zero => obtain ⟨step, less, -⟩ := fine; exact absurd less (Nat.not_lt_zero step)
  | succ steps ih =>
    rw [shortestFrom_succ]
    split
    next candidate picked =>
      obtain ⟨holds, positive⟩ := Interval.holds_of_pick picked
      exact ⟨positive, (Interval.holds_iff _ _ _ _).mp holds⟩
    next missed =>
      refine ih _ ?_
      obtain ⟨step, less, finer⟩ := fine
      cases step with
      | zero =>
        obtain ⟨candidate, picked⟩ := exists_pick_of_lt mantissa (by simpa using finer)
        rw [picked] at missed
        cases missed
      | succ step =>
        refine ⟨step, by omega, ?_⟩
        have shift : grid - 1 - step = grid - (step + 1 : Nat) := by omega
        rwa [shift]

theorem trimZeros_spec (steps significand : Nat) (exponent : Int) (positive : 0 < significand) :
    0 < (trimZeros steps significand exponent).1 ∧
      ((trimZeros steps significand exponent).1 : ℚ) * 10 ^ (trimZeros steps significand exponent).2 =
        significand * 10 ^ exponent := by
  induction steps generalizing significand exponent with
  | zero => exact ⟨positive, rfl⟩
  | succ steps ih =>
    rw [trimZeros]
    split
    next even =>
      obtain ⟨positiveTail, same⟩ := ih (significand / 10) (exponent + 1) (by omega)
      refine ⟨positiveTail, same.trans ?_⟩
      have whole : (significand : ℚ) = 10 * (significand / 10 : Nat) := by
        have : significand = 10 * (significand / 10) := by omega
        exact_mod_cast this
      rw [whole, zpow_add₀ (by norm_num), zpow_one]
      ring
    next => exact ⟨positive, rfl⟩

theorem ten_pow_le (tens twos : Nat) (enough : 10 * tens ≤ 3 * twos) : 10 ^ tens ≤ 2 ^ twos := by
  refine (Nat.pow_le_pow_iff_left (n := 3) (by decide)).mp ?_
  calc (10 ^ tens) ^ 3 = (10 ^ 3) ^ tens := by rw [← Nat.pow_mul, ← Nat.pow_mul, Nat.mul_comm]
    _ ≤ (2 ^ 10) ^ tens := Nat.pow_le_pow_left (by decide) tens
    _ = 2 ^ (10 * tens) := by rw [Nat.pow_mul]
    _ ≤ 2 ^ (3 * twos) := Nat.pow_le_pow_right (by decide) enough
    _ = (2 ^ twos) ^ 3 := by rw [← Nat.pow_mul, Nat.mul_comm]

theorem two_pow_lt (tens twos : Nat) (enough : 28 * twos < 93 * tens) : 2 ^ twos < 10 ^ tens := by
  refine (Nat.pow_lt_pow_iff_left (n := 28) (by decide)).mp ?_
  calc (2 ^ twos) ^ 28 = 2 ^ (28 * twos) := by rw [← Nat.pow_mul, Nat.mul_comm]
    _ < 2 ^ (93 * tens) := Nat.pow_lt_pow_right (by decide) enough
    _ = (2 ^ 93) ^ tens := by rw [Nat.pow_mul]
    _ ≤ (10 ^ 28) ^ tens := Nat.pow_le_pow_left (by decide) tens
    _ = (10 ^ tens) ^ 28 := by rw [← Nat.pow_mul, ← Nat.pow_mul, Nat.mul_comm]

theorem bound_lt_of_natural {size : Nat} (bound : size ≤ 1100) :
    (10 : ℚ) ^ ((size : Int) * 30103 / 100000 + 1 - 21) < 2 ^ ((size : Int) - 54) := by
  obtain ⟨tens, places⟩ : ∃ tens : Nat, (size : Int) * 30103 / 100000 = tens := ⟨size * 30103 / 100000, by omega⟩
  have less : 10 ^ tens * 2 ^ 54 < 2 ^ size * 10 ^ 20 := by
    calc 10 ^ tens * 2 ^ 54 ≤ 2 ^ (size + 11) * 2 ^ 54 :=
          Nat.mul_le_mul_right _ (ten_pow_le tens (size + 11) (by omega))
      _ = 2 ^ size * 2 ^ 65 := by rw [Nat.pow_add, Nat.mul_assoc, ← Nat.pow_add]
      _ < 2 ^ size * 10 ^ 20 := Nat.mul_lt_mul_of_pos_left (by decide) (Nat.pow_pos (by decide))
  have shift : (tens : Int) + 1 - 21 = tens - (20 : Nat) := by omega
  rw [places, shift, zpow_sub₀ (by norm_num), show (54 : Int) = (54 : Nat) from rfl, zpow_sub₀ (by norm_num),
    zpow_natCast, zpow_natCast, zpow_natCast, zpow_natCast, div_lt_div_iff₀ (by positivity) (by positivity)]
  exact_mod_cast less

theorem bound_lt_of_negative {size : Nat} (bound : size ≤ 1100) :
    (10 : ℚ) ^ (-((size : Int) * 30102 / 100000) + 1 - 21) < 2 ^ (-(size : Int) - 54) := by
  obtain ⟨tens, places⟩ : ∃ tens : Nat, (size : Int) * 30102 / 100000 = tens := ⟨size * 30102 / 100000, by omega⟩
  have less := two_pow_lt (tens + 20) (size + 54) (by omega)
  have tensShift : -(tens : Int) + 1 - 21 = -((tens + 20 : Nat) : Int) := by omega
  have twosShift : -(size : Int) - 54 = -((size + 54 : Nat) : Int) := by omega
  rw [places, tensShift, twosShift, zpow_neg, zpow_neg, zpow_natCast, zpow_natCast,
    inv_lt_inv₀ (by positivity) (by positivity)]
  exact_mod_cast less

theorem magnitudeBound_fine (canonical : Canonical mantissa exponent) :
    (10 : ℚ) ^ (magnitudeBound mantissa exponent - 21) < 2 ^ (exponent - 1) := by
  have size : mantissa.log2 < 53 := (Nat.log2_lt (Nat.pos_iff_ne_zero.mp canonical.positive)).mpr canonical.fits
  have least := canonical.least
  have greatest := canonical.greatest
  obtain ⟨bits, total⟩ : ∃ bits : Int, (mantissa.log2 : Int) + 1 + exponent = bits := ⟨_, rfl⟩
  have finer : (10 : ℚ) ^ (magnitudeBound mantissa exponent - 21) < 2 ^ (bits - 54) := by
    unfold magnitudeBound
    dsimp only
    rw [total]
    split
    next above =>
      obtain ⟨size, rfl⟩ := Int.eq_ofNat_of_zero_le above
      exact bound_lt_of_natural (by omega)
    next below =>
      obtain ⟨size, rfl⟩ : ∃ size : Nat, bits = -(size : Int) := ⟨bits.natAbs, by omega⟩
      rw [Int.neg_neg]
      exact bound_lt_of_negative (by omega)
  exact finer.trans_le (zpow_le_zpow_right₀ (by norm_num) (by omega))

/-- The decimal that is printed for a positive double rounds to that double. -/
theorem shortest_spec (canonical : Canonical mantissa exponent) :
    0 < (shortest mantissa exponent).1 ∧
      (Interval.around mantissa exponent).Contains exponent
        ((shortest mantissa exponent).1 * 10 ^ (shortest mantissa exponent).2) := by
  obtain ⟨positive, inside⟩ := shortestFrom_spec mantissa 22 (magnitudeBound mantissa exponent)
    ⟨21, by decide, magnitudeBound_fine canonical⟩
  obtain ⟨positiveTrimmed, same⟩ := trimZeros_spec 22 _ (shortestFrom (Interval.around mantissa exponent) exponent 22
    (magnitudeBound mantissa exponent)).2 positive
  exact ⟨positiveTrimmed, same ▸ inside⟩

theorem decimal_bounds {significand : Nat} (positive : 0 < significand) (power : Int) :
    (10 : ℚ) ^ (power + (digits significand).length - 1) ≤ significand * 10 ^ power ∧
      (significand : ℚ) * 10 ^ power < 10 ^ (power + (digits significand).length) := by
  have ten : (0 : ℚ) < 10 ^ power := by positivity
  constructor
  · have bound := pow_length_digits_le positive
    have someDigits : 0 < (digits significand).length := Nat.length_toDigits_pos
    obtain ⟨more, length⟩ : ∃ more, (digits significand).length = more + 1 :=
      ⟨(digits significand).length - 1, by omega⟩
    have shift : power + ((more + 1 : Nat) : Int) - 1 = more + power := by omega
    rw [length, Nat.add_sub_cancel] at bound
    rw [length, shift, zpow_add₀ (by norm_num), zpow_natCast]
    have : (10 : ℚ) ^ more ≤ significand := by exact_mod_cast bound
    gcongr
  · rw [add_comm, zpow_add₀ (by norm_num), zpow_natCast]
    have : (significand : ℚ) < 10 ^ (digits significand).length := by exact_mod_cast lt_pow_length_digits significand
    gcongr

theorem Canonical.zpow_le (canonical : Canonical mantissa exponent) {number : ℚ}
    (inside : (Interval.around mantissa exponent).Contains exponent number) : (2 : ℚ) ^ (-1076 : Int) ≤ number := by
  have least := canonical.least
  have low : (1 : ℚ) ≤ (Interval.around mantissa exponent).low := by exact_mod_cast canonical.low_pos
  calc (2 : ℚ) ^ (-1076 : Int) ≤ 2 ^ (exponent - 2) := zpow_le_zpow_right₀ (by norm_num) (by omega)
    _ = 1 * 2 ^ (exponent - 2) := (one_mul _).symm
    _ ≤ (Interval.around mantissa exponent).low * 2 ^ (exponent - 2) := by gcongr
    _ ≤ number := inside.bounds.1

theorem Canonical.magnitude_bounds (canonical : Canonical mantissa exponent) {significand : Nat} {power : Int}
    (positive : 0 < significand)
    (inside : (Interval.around mantissa exponent).Contains exponent (significand * 10 ^ power)) :
    -330 ≤ power + (digits significand).length ∧ power + (digits significand).length ≤ 310 := by
  have greatest := canonical.greatest
  obtain ⟨upper, lower⟩ := decimal_bounds positive power
  have great : (significand : ℚ) * 10 ^ power < 2 ^ (1024 : Int) :=
    (canonical.lt_zpow inside).trans_le (zpow_le_zpow_right₀ (by norm_num) (by omega))
  have tenLow : (10 : ℚ) ^ (-331 : Int) < 2 ^ (-1076 : Int) := by
    have less := two_pow_lt 331 1076 (by decide)
    rw [zpow_neg, zpow_neg, inv_lt_inv₀ (by positivity) (by positivity)]
    exact_mod_cast less
  have tenHigh : (2 : ℚ) ^ (1024 : Int) < 10 ^ (310 : Int) := by
    have less := two_pow_lt 310 1024 (by decide)
    exact_mod_cast less
  have ordered {low high : Int} (h : (10 : ℚ) ^ low < 10 ^ high) : low < high :=
    (zpow_lt_zpow_iff_right₀ (by norm_num)).mp h
  have := ordered ((tenLow.trans_le (canonical.zpow_le inside)).trans lower)
  have := ordered ((upper.trans_lt great).trans tenHigh)
  constructor <;> omega

/-- Reading rounds a decimal to the double in whose interval it lies. -/
theorem nearest_eq (canonical : Canonical mantissa exponent) (negative : Bool) {significand : Nat} {power : Int}
    (positive : 0 < significand)
    (inside : (Interval.around mantissa exponent).Contains exponent (significand * 10 ^ power)) :
    nearest negative significand power =
      .ofBits (.ofNat (if negative then Binary64.signBit + bitsOf mantissa exponent else bitsOf mantissa exponent)) := by
  obtain ⟨low, high⟩ := canonical.magnitude_bounds positive inside
  have ratio : ((significand * (powerParts 10 power).1 : Nat) : ℚ) / (powerParts 10 power).2 =
      significand * 10 ^ power := by
    have ten := powerParts_div 10 (by decide) power
    push_cast at ten ⊢
    rw [← ten]
    ring
  have bits := nearestBits_eq (powerParts_pos 10 (by decide) power).2 canonical (ratio ▸ inside)
  have notSmall : ¬ (significand = 0 ∨ power + (digits significand).length < -330) := by omega
  have notGreat : ¬ 310 < power + (digits significand).length := by omega
  simp only [nearest, notSmall, notGreat, if_false, bits]

end CallProfile.Decimal
