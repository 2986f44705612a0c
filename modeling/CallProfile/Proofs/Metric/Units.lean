import CallProfile.Metric.Text
import CallProfile.Proofs.Decimal.Fixed
import CallProfile.Proofs.Decimal.Normal

namespace CallProfile.Count

open Binary64 (fractions)
open Decimal (Normal Approximates)

/-- The unit at `step` is the first that a number has fewer than 1024 of, or else the last one. -/
structure Suits (number step : Nat) : Prop where
  named : step < unitNames.length
  first : ∀ smaller < step, 1024 ^ (smaller + 1) ≤ number
  enough : step + 1 < unitNames.length → number < 1024 ^ (step + 1)

theorem Suits.unique {number step step' : Nat} (left : Suits number step) (right : Suits number step') :
    step = step' := by
  rcases Nat.lt_trichotomy step step' with less | same | more
  · exact absurd (left.enough (Nat.lt_of_le_of_lt less right.named)) (Nat.not_lt_of_le (right.first step less))
  · exact same
  · exact absurd (right.enough (Nat.lt_of_le_of_lt more left.named)) (Nat.not_lt_of_le (left.first step' more))

theorem Suits.pow_le {number step : Nat} (suits : Suits number step) (some : 0 < number) : 1024 ^ step ≤ number := by
  cases step with
  | zero => exact some
  | succ smaller => exact suits.first smaller (Nat.lt_succ_self smaller)

theorem Suits.exists_name {number step : Nat} (suits : Suits number step) : ∃ unit, unitNames[step]? = some unit :=
  ⟨_, List.getElem?_eq_getElem suits.named⟩

theorem Suits.eq_zero_iff {number step : Nat} (suits : Suits number step) : step = 0 ↔ number < 1024 := by
  constructor
  · rintro rfl
    exact suits.enough (by decide)
  · intro few
    refine Nat.eq_zero_of_not_pos fun some => ?_
    exact absurd (suits.first 0 some) (Nat.not_le_of_lt few)

theorem byteUnit_spec (number step : Nat) (units : List String) (nonempty : units ≠ []) :
    ∃ place unit, byteUnit number step units = (step + place, unit) ∧ units[place]? = some unit ∧
      (∀ smaller < place, 1024 ^ (step + smaller + 1) ≤ number) ∧
        (place + 1 < units.length → number < 1024 ^ (step + place + 1)) := by
  fun_induction byteUnit number step units with
  | case1 step => exact absurd rfl nonempty
  | case2 step unit =>
    refine ⟨0, unit, rfl, rfl, fun _ none => absurd none (Nat.not_lt_zero _), fun more => ?_⟩
    exact absurd more (Nat.lt_irrefl 1)
  | case3 step unit next larger fewer =>
    exact ⟨0, unit, rfl, rfl, fun _ none => absurd none (Nat.not_lt_zero _), fun _ => fewer⟩
  | case4 step unit next larger many ih =>
    obtain ⟨place, name, found, named, first, enough⟩ := ih (List.cons_ne_nil _ _)
    refine ⟨place + 1, name, ?_, named, fun smaller below => ?_, fun more => ?_⟩
    · rw [found, Nat.add_assoc, Nat.add_comm 1]
    · cases smaller with
      | zero => exact Nat.le_of_not_lt many
      | succ smaller =>
        have reached := first smaller (Nat.lt_of_succ_lt_succ below)
        rwa [Nat.add_assoc step, Nat.add_comm 1] at reached
    · have short := enough (Nat.lt_of_succ_lt_succ more)
      rwa [Nat.add_assoc step, Nat.add_comm 1] at short

theorem suits_byteUnit (number : Nat) : ∃ step unit, byteUnit number 0 unitNames = (step, unit) ∧
    unitNames[step]? = some unit ∧ Suits number step := by
  obtain ⟨step, unit, found, named, first, enough⟩ := byteUnit_spec number 0 unitNames (List.cons_ne_nil _ _)
  simp only [Nat.zero_add] at found first enough
  exact ⟨step, unit, found, named, (List.getElem?_eq_some_iff.mp named).1, first, enough⟩

/-- Divides a value by 1024 as long as it is 1024 or more and a larger unit is left. -/
def reduce (value : Float) (step : Nat) : Float × Nat :=
  if value ≥ 1024.0 ∧ step < unitNames.length - 1 then reduce (value / 1024.0) (step + 1) else (value, step)
termination_by unitNames.length - 1 - step

/-- The text of a number of bytes, for which a double is divided again and again. -/
def humanizedByDivision (count : Count) : String :=
  if count < 1024 then Decimal.natural count.toNat ++ "B"
  else
    let (value, step) := reduce count.toFloat 0
    Decimal.Fixed.text ⟨2, false⟩ value ++ unitNames.getD step ""

section Loop

/-- What the loop keeps: the mantissa is that of the count, and the units that it left are all too small. -/
structure Underway (count : Count) (mantissa : Nat) (exponent : Int) (value : Float) (step : Nat) : Prop where
  named : step < unitNames.length
  first : ∀ smaller < step, 1024 ^ (smaller + 1) ≤ count.toNat
  normal : Normal value mantissa (exponent - (10 * step : Nat))

variable {count : Count} {mantissa : Nat} {exponent : Int} {value : Float} {step : Nat}
  (underway : Underway count mantissa exponent value step) (near : Approximates count.toNat mantissa exponent)
include underway near

theorem Underway.thousand_le_iff : value ≥ 1024.0 ↔ 1024 ^ (step + 1) ≤ count.toNat := by
  have few : step < 5 := underway.named
  have full : fractions ≤ mantissa := underway.normal.full
  have power : 1024 ^ (step + 1) = 2 ^ (10 * (step + 1)) := by rw [Nat.pow_mul]
  rw [power, near.two_pow_le_iff full underway.normal.fits (by omega), ge_iff_le,
    Decimal.normal_1024.le_iff underway.normal]
  omega

theorem Underway.next (great : value ≥ 1024.0) (more : step < unitNames.length - 1) :
    Underway count mantissa exponent (value / 1024.0) (step + 1) where
  named := Nat.add_lt_of_lt_sub more
  first smaller below := by
    rcases Nat.lt_or_eq_of_le (Nat.le_of_lt_succ below) with less | rfl
    · exact underway.first smaller less
    · exact (underway.thousand_le_iff near).mp great
  normal := by
    have least := (Decimal.normal_1024.le_iff underway.normal).mp great
    have greatest := underway.normal.greatest
    have same : exponent - (10 * (step + 1) : Nat) = exponent - (10 * step : Nat) - (-42) - 52 := by omega
    rw [same]
    exact underway.normal.div_power Decimal.normal_1024 (by omega) (by omega)

theorem Underway.suits (stops : ¬ (value ≥ 1024.0 ∧ step < unitNames.length - 1)) :
    Suits count.toNat step where
  named := underway.named
  first := underway.first
  enough more := by
    have less : ¬ value ≥ 1024.0 := fun great => stops ⟨great, Nat.lt_sub_of_add_lt more⟩
    rw [underway.thousand_le_iff near] at less
    exact Nat.lt_of_not_le less

theorem Underway.run : Suits count.toNat (reduce value step).2 ∧
      Underway count mantissa exponent (reduce value step).1 (reduce value step).2 := by
  induction value, step using reduce.induct with
  | case1 value step turns ih =>
    rw [reduce, if_pos turns]
    exact ih (underway.next near turns.1 turns.2)
  | case2 value step stops =>
    rw [reduce, if_neg stops]
    exact ⟨underway.suits near stops, underway⟩

end Loop

theorem exists_reached {count : Count} (some : 0 < count.toNat) : ∃ mantissa exponent,
    Normal count.toFloat mantissa exponent ∧ Approximates count.toNat mantissa exponent ∧
      Suits count.toNat (reduce count.toFloat 0).2 ∧
        Normal (reduce count.toFloat 0).1 mantissa (exponent - (10 * (reduce count.toFloat 0).2 : Nat)) := by
  obtain ⟨mantissa, exponent, normal, near⟩ := Decimal.exists_normal_toFloat some
  have start : Underway count mantissa exponent count.toFloat 0 := by
    refine ⟨by decide, fun smaller none => absurd none (Nat.not_lt_zero smaller), ?_⟩
    rwa [Nat.mul_zero, Nat.cast_zero, Int.sub_zero]
  obtain ⟨suits, reached⟩ := start.run near
  exact ⟨mantissa, exponent, normal, near, suits, reached.normal⟩

theorem reduce_zero : reduce (0 : Count).toFloat 0 = ((0 : Count).toFloat, 0) := by
  rw [reduce, if_neg]
  decide

theorem eq_zero_or_toNat_pos (count : Count) : count = 0 ∨ 0 < count.toNat := by
  by_cases none : count = 0
  · exact .inl none
  · exact .inr (UInt64.lt_iff_toNat_lt.mp (UInt64.pos_iff_ne_zero.mpr none))

theorem suits_reduce (count : Count) : Suits count.toNat (reduce count.toFloat 0).2 := by
  rcases eq_zero_or_toNat_pos count with rfl | some
  · rw [reduce_zero]
    exact ⟨by decide, fun _ none => absurd none (Nat.not_lt_zero _), fun _ => by decide⟩
  · obtain ⟨-, -, -, -, suits, -⟩ := exists_reached some
    exact suits

section Rounding

variable {count : Count} {mantissa : Nat} {exponent : Int} {step : Nat}

theorem rounded_eq (normal : Normal count.toFloat mantissa exponent) :
    count.rounded = Decimal.scaled 0 mantissa exponent := by
  rw [rounded, normal.decoded]

theorem scaled_rounded (normal : Normal count.toFloat mantissa exponent)
    (near : Approximates count.toNat mantissa exponent) (places shift : Nat) :
    Decimal.scaled places mantissa (exponent - shift) = Decimal.scaled places count.rounded (-(shift : Int)) := by
  rw [rounded_eq normal]
  rcases near with ⟨zeros, rfl, rfl⟩ | ⟨great, positive⟩
  · have less := Decimal.scaled_mul_two_pow places count.toNat zeros (-shift)
    rw [Decimal.scaled_exact, ← less]
    congr 1
    omega
  · obtain ⟨zeros, rfl⟩ : ∃ zeros : Nat, exponent = zeros := ⟨exponent.toNat, by omega⟩
    have less := Decimal.scaled_mul_two_pow places mantissa zeros (zeros - shift)
    rw [Decimal.scaled_whole, ← less]
    congr 1
    omega

theorem rounded_cases (count : Count) :
    count.rounded = count.toNat ∨ 2 ^ 53 ≤ count.toNat ∧ 2 ^ 53 ≤ count.rounded := by
  rcases eq_zero_or_toNat_pos count with rfl | some
  · exact .inl (by decide +kernel)
  · obtain ⟨mantissa, exponent, normal, near⟩ := Decimal.exists_normal_toFloat some
    rw [rounded_eq normal]
    rcases near with ⟨zeros, rfl, rfl⟩ | ⟨great, positive⟩
    · exact .inl (Decimal.scaled_exact _ _)
    · obtain ⟨zeros, rfl⟩ : ∃ zeros : Nat, exponent = (zeros + 1 : Nat) := ⟨exponent.toNat - 1, by omega⟩
      have twice : 2 ^ 1 ≤ 2 ^ (zeros + 1) := Nat.pow_le_pow_right (by decide) (Nat.le_add_left 1 zeros)
      rw [Decimal.scaled_whole]
      exact .inr ⟨great, Nat.mul_le_mul normal.full twice⟩

/-- The hundredths of the unit at `step` that are shown. -/
def hundredths (count : Count) (step : Nat) : Nat := Decimal.scaled 2 count.rounded (-(10 * step : Nat))

theorem hundredths_eq (count : Count) (step : Nat) :
    count.hundredths step = Decimal.roundHalfEven (count.rounded * 100) (1024 ^ step) := by
  have none : (-((10 * step : Nat) : Int)).toNat = 0 := by omega
  rw [hundredths, Decimal.scaled_eq, none, Int.neg_neg, Int.toNat_natCast, Nat.pow_zero, Nat.mul_one, Nat.pow_mul]
  rfl

theorem pow_le_rounded (suits : Suits count.toNat step) (some : 0 < step) : 1024 ^ step ≤ count.rounded := by
  have few : step ≤ 4 := Nat.le_of_lt_succ suits.named
  have positive : 0 < count.toNat := Nat.lt_of_lt_of_le (Nat.pow_pos (by decide)) (suits.first 0 some)
  rcases count.rounded_cases with same | ⟨-, great⟩
  · rw [same]
    exact suits.pow_le positive
  · calc 1024 ^ step ≤ 1024 ^ 4 := Nat.pow_le_pow_right (by decide) few
      _ ≤ 2 ^ 53 := by decide
      _ ≤ count.rounded := great

theorem hundred_le_hundredths (suits : Suits count.toNat step) (some : 0 < step) : 100 ≤ count.hundredths step := by
  have whole := pow_le_rounded suits some
  rw [hundredths_eq, Decimal.le_roundHalfEven_iff (Nat.pow_pos (by decide)) (by decide)]
  omega

theorem rounded_of_more (suits : Suits count.toNat step) (more : step + 1 < unitNames.length) :
    count.rounded = count.toNat := by
  have few : step + 1 ≤ 4 := Nat.le_of_lt_succ more
  have small : count.toNat < 2 ^ 53 := by
    calc count.toNat < 1024 ^ (step + 1) := suits.enough more
      _ ≤ 1024 ^ 4 := Nat.pow_le_pow_right (by decide) few
      _ ≤ 2 ^ 53 := by decide
  exact count.rounded_cases.resolve_right fun great => Nat.not_le_of_lt small great.1

/-- Half a hundredth of the unit at `step`, or less, is missing to the next unit. -/
def NearlyNext (number step : Nat) : Prop := 200 * 1024 ^ (step + 1) ≤ 200 * number + 1024 ^ step

theorem hundredths_bounds (suits : Suits count.toNat step) (more : step + 1 < unitNames.length) :
    count.hundredths step ≤ 102400 ∧ (count.hundredths step < 102400 ↔ ¬ NearlyNext count.toNat step) := by
  have unit : 0 < 1024 ^ step := Nat.pow_pos (by decide)
  have fewer := suits.enough more
  rw [hundredths_eq, rounded_of_more suits more]
  rw [Nat.pow_succ] at fewer
  constructor
  · have whole : count.toNat * 100 / 1024 ^ step < 102400 := by
      rw [Nat.div_lt_iff_lt_mul unit]
      omega
    exact Nat.le_trans (Decimal.roundHalfEven_le _ _) whole
  · rw [← Nat.not_le, Decimal.le_roundHalfEven_iff unit (by decide), NearlyNext, Nat.pow_succ]
    omega

end Rounding

section Shown

variable {count : Count} {step : Nat}

theorem text_reduced (some : 0 < count.toNat) :
    Decimal.Fixed.text ⟨2, false⟩ (reduce count.toFloat 0).1 =
      Decimal.pointed 2 (count.hundredths (reduce count.toFloat 0).2) := by
  obtain ⟨mantissa, exponent, normal, near, -, reached⟩ := exists_reached some
  rw [hundredths, ← scaled_rounded normal near, Decimal.Fixed.text, reached.decoded]
  exact String.empty_append

theorem humanizedBytes_eq {unit : String} (suits : Suits count.toNat step) (named : unitNames[step]? = some unit) :
    count.humanizedBytes =
      (if step = 0 then Decimal.natural count.toNat else Decimal.pointed 2 (count.hundredths step)) ++ unit := by
  obtain ⟨step', unit', found, named', suits'⟩ := suits_byteUnit count.toNat
  obtain rfl := suits'.unique suits
  obtain rfl := Option.some.inj (named'.symm.trans named)
  rw [humanizedBytes, found]
  rfl

/-- Dividing doubles and comparing whole numbers give the same text. -/
theorem humanizedByDivision_eq (count : Count) : count.humanizedByDivision = count.humanizedBytes := by
  have suits := suits_reduce count
  obtain ⟨unit, named⟩ := suits.exists_name
  have small : count < 1024 ↔ (reduce count.toFloat 0).2 = 0 := by
    rw [UInt64.lt_iff_toNat_lt, suits.eq_zero_iff]
    rfl
  rw [humanizedBytes_eq suits named, humanizedByDivision]
  by_cases less : count < 1024
  · have first := small.mp less
    rw [first] at named
    rw [if_pos less, if_pos first]
    cases named
    rfl
  · have some : 0 < count.toNat := by
      rw [UInt64.lt_iff_toNat_lt] at less
      exact Nat.lt_of_lt_of_le (by decide) (Nat.le_of_not_lt less)
    rw [if_neg less, if_neg (mt small.mpr less)]
    dsimp only
    rw [text_reduced some, List.getD_eq_getElem?_getD, named, Option.getD_some]

theorem exact_reduce (small : count.toNat < 2 ^ 53) : ∃ mantissa exponent,
    Binary64.ofFloat (reduce count.toFloat 0).1 = .finite false mantissa exponent ∧
      (mantissa : ℚ) * 2 ^ exponent = count.toNat / 1024 ^ (reduce count.toFloat 0).2 := by
  rcases eq_zero_or_toNat_pos count with rfl | some
  · rw [reduce_zero]
    exact ⟨0, -1074, by decide, by simp⟩
  · obtain ⟨mantissa, exponent, -, near, -, reached⟩ := exists_reached some
    refine ⟨_, _, reached.decoded, ?_⟩
    rcases near with ⟨zeros, rfl, rfl⟩ | ⟨great, -⟩
    · rw [zpow_sub₀ two_ne_zero, zpow_neg, zpow_natCast, zpow_natCast, pow_mul]
      push_cast
      field_simp
      norm_num
    · exact absurd small (Nat.not_lt_of_le great)

/-- How a number of bytes is shown: as `value` in the unit at `step`, with `number` before the name of the unit. -/
structure ShownAs (count : Count) (value : Float) (step : Nat) (number : String) : Prop where
  suits : Suits count.toNat step
  /-- Below `2 ^ 53`, which is far into the last unit, no division loses anything. -/
  lossless : count.toNat < 2 ^ 53 → ∃ mantissa exponent, Binary64.ofFloat value = .finite false mantissa exponent ∧
    (mantissa : ℚ) * 2 ^ exponent = count.toNat / 1024 ^ step
  bytes : step = 0 → number = Decimal.natural count.toNat
  rounded : 0 < step → number = Decimal.Fixed.text ⟨2, false⟩ value
  reads : 0 < step → ∃ shown, Decimal.units? 2 number.toList = some shown ∧ 100 ≤ shown ∧
    (step + 1 < unitNames.length → shown ≤ 1024 * 100 ∧ (shown < 1024 * 100 ↔ ¬ NearlyNext count.toNat step))

/--
A number of bytes is shown in the first unit that it has fewer than 1024 of, or else in the last one. Of a unit other
than the byte 1.00 or more are shown, and of one that is not the last fewer than 1024.00; save that a number which is
nearly the next unit is rounded up to 1024.00 of its own.
-/
theorem bytes_fit_their_unit_unless_rounded_up (count : Count) :
    (Metric.bytes count).humanized = count.humanizedByDivision ∧
      ∃ value step unit number, reduce count.toFloat 0 = (value, step) ∧ unitNames[step]? = some unit ∧
        (Metric.bytes count).humanized = number ++ unit ∧ ShownAs count value step number := by
  have suits := suits_reduce count
  obtain ⟨unit, named⟩ := suits.exists_name
  refine ⟨(humanizedByDivision_eq count).symm, _, _, unit, _, rfl, named, humanizedBytes_eq suits named, suits,
    exact_reduce, fun first => if_pos first, fun more => ?_, fun more => ?_⟩
  · have some : 0 < count.toNat := Nat.lt_of_lt_of_le (by decide) (suits.first 0 more)
    rw [if_neg (Nat.pos_iff_ne_zero.mp more), text_reduced some]
  · rw [if_neg (Nat.pos_iff_ne_zero.mp more)]
    exact ⟨_, Decimal.units?_pointed (by decide) _, hundred_le_hundredths suits more, hundredths_bounds suits⟩

/-- One byte short of the next unit, 1024 of the unit before are shown. -/
theorem bytes_round_up_to_thousand :
    (Metric.bytes 1048575).humanized = "1024.00" ++ "KiB" ∧ Suits 1048575 1 ∧ unitNames[1]? = some "KiB" ∧
      Decimal.units? 2 "1024.00".toList = some (1024 * 100) ∧ (Metric.bytes 1048576).humanized = "1.00" ++ "MiB" :=
  ⟨by decide +kernel, ⟨by decide, by decide, by decide⟩, rfl, by decide +kernel, by decide +kernel⟩

end Shown

end CallProfile.Count
