import CallProfile.Proofs.Decimal.Double

namespace CallProfile

open Float.Model (Format UnpackedFloat totalExponent)
open Float.Model.UnpackedFloat

namespace Binary64

def ofUnpacked : UnpackedFloat → Binary64
  | .notANumber => .nan
  | .infinity sign => .infinite (sign == .negative)
  | .zero sign => .finite (sign == .negative) 0 (-1074)
  | .finite sign mantissa exponent _ => .finite (sign == .negative) mantissa exponent

section Fields

variable (bits : BitVec Format.binary64.numBits)

theorem toNat_unpackMantissa : (unpackMantissa bits).toNat = bits.toNat % fractions := by
  rw [unpackMantissa_def, BitVec.extractLsb'_toNat]
  rfl

theorem unpackMantissa_eq_zero_iff : unpackMantissa bits = 0#_ ↔ bits.toNat % fractions = 0 := by
  rw [← BitVec.toNat_inj, toNat_unpackMantissa]
  rfl

theorem unpackExponent_eq_zero_iff : unpackExponent bits = 0#_ ↔ bits.toNat / fractions % (topExponent + 1) = 0 := by
  rw [← BitVec.toNat_inj, toNat_unpackExponent]
  rfl

theorem negative_iff : (Sign.ofBitVec (unpackSign bits) == .negative) = decide (bits.toNat / signBit % 2 = 1) := by
  have sign : (unpackSign bits).toNat = bits.toNat / signBit % 2 := by
    rw [unpackSign_def, BitVec.extractLsb'_toNat, Nat.shiftRight_eq_div_pow]
    rfl
  rw [← sign]
  generalize unpackSign bits = sign
  revert sign
  decide

end Fields

theorem toNat_one_append (mantissa : BitVec 52) : (1#1 ++ mantissa).toNat = fractions + mantissa.toNat := by
  rw [BitVec.toNat_append, ← Nat.shiftLeft_add_eq_or_of_lt mantissa.isLt]
  rfl

theorem ofFloat_eq (x : Float) : ofFloat x = ofUnpacked x.toModel.unpack := by
  show ofBits x.toBits.toBitVec.toNat = ofUnpacked (unpack Format.binary64 x.toBits.toBitVec)
  generalize x.toBits.toBitVec = bits
  have sign := negative_iff bits
  have mantissa := toNat_unpackMantissa bits
  have exponent := toNat_unpackExponent bits
  unfold ofBits unpack
  dsimp only
  by_cases top : bits.toNat / fractions % (topExponent + 1) = topExponent
  · rw [if_pos top, if_pos ((unpackExponent_eq_iff bits).mpr top)]
    by_cases none : bits.toNat % fractions = 0
    · rw [if_pos none, if_pos ((unpackMantissa_eq_zero_iff bits).mpr none), ofUnpacked, sign]
    · rw [if_neg none, if_neg (mt (unpackMantissa_eq_zero_iff bits).mp none), ofUnpacked]
  · rw [if_neg top, if_neg (mt (unpackExponent_eq_iff bits).mp top)]
    by_cases least : bits.toNat / fractions % (topExponent + 1) = 0
    · rw [if_pos least, if_pos ((unpackExponent_eq_zero_iff bits).mpr least)]
      by_cases none : bits.toNat % fractions = 0
      · rw [dif_pos ((unpackMantissa_eq_zero_iff bits).mpr none), none, ofUnpacked, sign]
      · rw [dif_neg (mt (unpackMantissa_eq_zero_iff bits).mp none), ofUnpacked, sign, mantissa, exponent, least]
        rfl
    · rw [if_neg least, if_neg (mt (unpackExponent_eq_zero_iff bits).mp least), ofUnpacked, sign, toNat_one_append,
        mantissa, exponent]
      rfl

end Binary64

namespace Decimal

open Binary64 (fractions)

/-- A positive double all of whose 53 bits count. -/
structure Normal (x : Float) (mantissa : Nat) (exponent : Int) : Prop where
  full : fractions ≤ mantissa
  fits : mantissa < 2 * fractions
  least : -1074 ≤ exponent
  greatest : exponent ≤ 971
  unpacked : x.toModel.unpack = .finite .positive mantissa exponent (Nat.lt_of_lt_of_le (by decide) full)

variable {x y : Float} {mantissa mantissa' : Nat} {exponent exponent' : Int}

theorem Normal.decoded (normal : Normal x mantissa exponent) :
    Binary64.ofFloat x = .finite false mantissa exponent := by
  rw [Binary64.ofFloat_eq, normal.unpacked]
  rfl

theorem Normal.le_iff (lower : Normal x mantissa exponent) (upper : Normal y mantissa' exponent') :
    x ≤ y ↔ exponent < exponent' ∨ exponent = exponent' ∧ mantissa ≤ mantissa' := by
  show decide (x.toModel ≤ y.toModel) = true ↔ _
  rw [decide_eq_true_iff]
  show UnpackedFloat.le x.toModel.unpack y.toModel.unpack = true ↔ _
  rw [lower.unpacked, upper.unpacked]
  show ((compare exponent exponent').then (compare mantissa mantissa')).isLE = true ↔ _
  rcases Int.lt_trichotomy exponent exponent' with less | same | more
  · rw [Int.compare_eq_lt.mpr less]
    exact iff_of_true rfl (.inl less)
  · rw [Int.compare_eq_eq.mpr same, Ordering.eq_then, Nat.isLE_compare]
    exact ⟨fun le => .inr ⟨same, le⟩, fun le => by omega⟩
  · rw [Int.compare_eq_gt.mpr more]
    exact iff_of_false Bool.false_ne_true (by omega)

section Full

variable (full : fractions ≤ mantissa) (fits : mantissa < 2 * fractions)
include full fits

theorem log2_full : mantissa.log2 = 52 := by
  have positive : mantissa ≠ 0 := Nat.pos_iff_ne_zero.mp (Nat.lt_of_lt_of_le (by decide) full)
  exact (Nat.log2_eq_iff positive).mpr ⟨full, fits⟩

theorem targetExponent_full (least : -1074 ≤ exponent) :
    Format.binary64.targetExponent (totalExponent mantissa exponent) = exponent := by
  have size := log2_full full fits
  simp only [Format.targetExponent, totalExponent, Format.mantissaBits, Format.minExponent, size]
  omega

theorem pack_full (least : -1074 ≤ exponent) (greatest : exponent ≤ 971) (positive : 0 < mantissa) :
    pack Format.binary64 (.finite .positive mantissa exponent positive) =
      packComponents Format.binary64 .positive (BitVec.ofNat 11 (exponent + 1075).toNat)
        (BitVec.ofNat 52 mantissa) := by
  have biased : exponent + Format.binary64.exponentBias + (52 : Nat) = exponent + 1075 := by
    simp only [Format.exponentBias]
    omega
  have size : mantissa.log2 + 1 = Format.binary64.mantissaBits := by rw [log2_full full fits]; rfl
  simp only [pack]
  rw [if_neg, if_pos size, biased]
  rw [biased]
  show ¬ 2048 ≤ _
  omega

theorem unpack_pack (least : -1074 ≤ exponent) (greatest : exponent ≤ 971) (positive : 0 < mantissa) :
    unpack Format.binary64 (pack Format.binary64 (.finite .positive mantissa exponent positive)) =
      .finite .positive mantissa exponent positive := by
  have biased : (BitVec.ofNat 11 (exponent + 1075).toNat).toNat = (exponent + 1075).toNat := by
    rw [BitVec.toNat_ofNat]
    omega
  have notTop : BitVec.ofNat 11 (exponent + 1075).toNat ≠ -1#_ := by
    rw [ne_eq, ← BitVec.toNat_inj, biased]
    show ¬ _ = 2047
    omega
  have notLeast : BitVec.ofNat 11 (exponent + 1075).toNat ≠ 0#_ := by
    rw [ne_eq, ← BitVec.toNat_inj, biased]
    show ¬ _ = 0
    omega
  have leading : (1#1 ++ BitVec.ofNat 52 mantissa).toNat = mantissa := by
    rw [Binary64.toNat_one_append, BitVec.toNat_ofNat]
    rw [(Binary64.sizes).1] at full fits ⊢
    omega
  rw [pack_full full fits least greatest]
  simp only [unpack, unpackMantissa_packComponents, unpackExponent_packComponents, unpackSign_packComponents,
    Sign.ofBitVec_toBitVec, notTop, notLeast, if_false, leading, biased, Format.exponentBias]
  congr 1
  omega

theorem normal_pack (least : -1074 ≤ exponent) (greatest : exponent ≤ 971) (positive : 0 < mantissa) :
    Normal (.ofModel (.pack (.finite .positive mantissa exponent positive))) mantissa exponent :=
  ⟨full, fits, least, greatest, unpack_pack full fits least greatest positive⟩

theorem log2_mul_two_pow (zeros : Nat) : (mantissa * 2 ^ zeros).log2 = 52 + zeros := by
  have positive : 0 < mantissa := Nat.lt_of_lt_of_le (by decide) full
  have some : mantissa * 2 ^ zeros ≠ 0 := Nat.mul_ne_zero (Nat.pos_iff_ne_zero.mp positive) (Nat.two_pow_pos _).ne'
  rw [Nat.log2_eq_iff some, Nat.pow_add, Nat.add_right_comm, Nat.pow_add]
  exact ⟨Nat.mul_le_mul_right _ full, Nat.mul_lt_mul_of_pos_right fits (Nat.two_pow_pos _)⟩

end Full

theorem shiftRight_zeros (mantissa zeros : Nat) :
    (⟨mantissa * 2 ^ zeros, false, false⟩ : ExtendedMantissa) >>> zeros = ⟨mantissa, false, false⟩ := by
  show zeros.repeat ExtendedMantissa.shiftRightOne _ = _
  induction zeros generalizing mantissa with
  | zero => rw [Nat.pow_zero, Nat.mul_one]; rfl
  | succ zeros ih =>
    rw [Nat.repeat, Nat.pow_succ', ← Nat.mul_assoc, ih]
    simp [ExtendedMantissa.shiftRightOne]

theorem mantissa_shiftRight (extended : ExtendedMantissa) (places : Nat) :
    (extended >>> places).mantissa = extended.mantissa / 2 ^ places := by
  show (places.repeat ExtendedMantissa.shiftRightOne extended).mantissa = _
  induction places with
  | zero => rw [Nat.pow_zero, Nat.div_one]; rfl
  | succ places ih =>
    rw [Nat.repeat, ExtendedMantissa.shiftRightOne, ih, Nat.div_div_eq_div_mul, Nat.pow_succ]

theorem roundedMantissa_bounds (extended : ExtendedMantissa) :
    extended.mantissa ≤ extended.roundedMantissa ∧ extended.roundedMantissa ≤ extended.mantissa + 1 := by
  obtain ⟨mantissa, roundBit, stickyBit⟩ := extended
  cases roundBit <;> cases stickyBit <;>
    simp only [ExtendedMantissa.roundedMantissa, ExtendedMantissa.accuracy, Accuracy.roundToNearestEven] <;> omega

section Full

variable (full : fractions ≤ mantissa) (fits : mantissa < 2 * fractions) (least : -1074 ≤ exponent)
include full fits least

theorem shiftToTargetExponent_zeros (zeros : Nat) :
    shiftToTargetExponent Format.binary64 (mantissa * 2 ^ zeros) (exponent - zeros) .exact =
      (⟨mantissa, false, false⟩, exponent) := by
  have same : totalExponent (mantissa * 2 ^ zeros) (exponent - zeros) = totalExponent mantissa exponent := by
    rw [totalExponent, totalExponent, log2_mul_two_pow full fits, log2_full full fits]
    omega
  have target := targetExponent_full full fits least
  have places : (exponent - (exponent - zeros)).toNat = zeros := by omega
  simp only [shiftToTargetExponent, shiftToExponent, same, target, places, ExtendedMantissa.ofMantissaAndAccuracy,
    shiftRight_zeros]
  congr 1
  omega

theorem roundWithAccuracy_zeros (zeros : Nat) (positive : 0 < mantissa) :
    roundWithAccuracy Format.binary64 .positive (mantissa * 2 ^ zeros) (exponent - zeros) .exact =
      .finite .positive mantissa exponent positive := by
  have again := shiftToTargetExponent_zeros full fits least 0
  rw [Nat.pow_zero, Nat.mul_one, Nat.cast_zero, Int.sub_zero] at again
  unfold roundWithAccuracy
  rw [shiftToTargetExponent_zeros full fits least]
  simp only [ExtendedMantissa.roundedMantissa, ExtendedMantissa.accuracy, Accuracy.roundToNearestEven, again]
  rw [dif_neg (Nat.pos_iff_ne_zero.mp positive)]

end Full

theorem targetExponent_number (number : Nat) :
    Format.binary64.targetExponent (totalExponent number 0) = (number.log2 : Int) - 52 := by
  simp only [Format.targetExponent, totalExponent, Format.mantissaBits, Format.minExponent]
  omega

theorem shiftToTargetExponent_great {number : Nat} (great : 2 ^ 53 ≤ number) (bound : number < 2 ^ 64) :
    ∃ (extended : ExtendedMantissa) (places : Nat), 0 < places ∧ places ≤ 11 ∧
      shiftToTargetExponent Format.binary64 number 0 .exact = (extended, (places : Int)) ∧
        fractions ≤ extended.roundedMantissa ∧ extended.roundedMantissa ≤ 2 * fractions := by
  have positive : number ≠ 0 := Nat.pos_iff_ne_zero.mp (Nat.lt_of_lt_of_le (by decide) great)
  have low : 53 ≤ number.log2 := (Nat.le_log2 positive).mpr great
  have high : number.log2 < 64 := (Nat.log2_lt positive).mpr bound
  obtain ⟨places, size⟩ : ∃ places, number.log2 = places + 52 := ⟨number.log2 - 52, by omega⟩
  have target : Format.binary64.targetExponent (totalExponent number 0) = places := by
    rw [targetExponent_number, size]
    omega
  have shifted : shiftToTargetExponent Format.binary64 number 0 .exact =
      ((⟨number, false, false⟩ : ExtendedMantissa) >>> places, (places : Int)) := by
    simp only [shiftToTargetExponent, shiftToExponent, target, ExtendedMantissa.ofMantissaAndAccuracy, Int.sub_zero,
      Int.toNat_natCast, Int.zero_add]
  refine ⟨_, places, by omega, by omega, shifted, ?_⟩
  obtain ⟨atLeast, atMost⟩ := (Nat.log2_eq_iff positive).mp size
  obtain ⟨floor, ceiling⟩ := roundedMantissa_bounds ((⟨number, false, false⟩ : ExtendedMantissa) >>> places)
  rw [mantissa_shiftRight] at floor ceiling
  have unit : 0 < 2 ^ places := Nat.two_pow_pos places
  have lower : fractions ≤ number / 2 ^ places := by
    rw [Nat.le_div_iff_mul_le unit, Nat.mul_comm]
    rwa [Nat.pow_add] at atLeast
  have upper : number / 2 ^ places < 2 * fractions := by
    rw [Nat.div_lt_iff_lt_mul unit, Nat.mul_comm]
    rwa [Nat.add_assoc, Nat.pow_add] at atMost
  exact ⟨Nat.le_trans lower floor, Nat.le_trans ceiling upper⟩

theorem round_small {number : Nat} (some : 0 < number) (small : number < 2 ^ 53) :
    ∃ zeros : Nat, ∃ positive : 0 < number * 2 ^ zeros, zeros ≤ 52 ∧
      fractions ≤ number * 2 ^ zeros ∧ number * 2 ^ zeros < 2 * fractions ∧
        UnpackedFloat.round Format.binary64 .positive number 0 =
          .finite .positive (number * 2 ^ zeros) (-zeros) positive := by
  have nonzero : number ≠ 0 := Nat.pos_iff_ne_zero.mp some
  have size : number.log2 < 53 := (Nat.log2_lt nonzero).mpr small
  obtain ⟨zeros, total⟩ : ∃ zeros, number.log2 + zeros = 52 := ⟨52 - number.log2, by omega⟩
  obtain ⟨atLeast, atMost⟩ := (Nat.log2_eq_iff nonzero).mp rfl
  have full : fractions ≤ number * 2 ^ zeros := by
    have scaled := Nat.mul_le_mul_right (2 ^ zeros) atLeast
    rwa [← Nat.pow_add, total] at scaled
  have fits : number * 2 ^ zeros < 2 * fractions := by
    have scaled := Nat.mul_lt_mul_of_pos_right atMost (Nat.two_pow_pos zeros)
    rwa [← Nat.pow_add, Nat.add_right_comm, total] at scaled
  have positive : 0 < number * 2 ^ zeros := Nat.mul_pos some (Nat.two_pow_pos zeros)
  refine ⟨zeros, positive, by omega, full, fits, ?_⟩
  have target : (number.log2 : Int) - 52 = -zeros := by omega
  have least : -1074 ≤ (-zeros : Int) := by omega
  have exact := roundWithAccuracy_zeros full fits least 0 positive
  rw [Nat.pow_zero, Nat.mul_one, Nat.cast_zero, Int.sub_zero] at exact
  simp only [UnpackedFloat.round, targetExponent_number, target, decreaseExponent, Int.sub_neg, Int.zero_add,
    Int.toNat_natCast, Nat.shiftLeft_eq, Int.zero_sub, exact]

theorem round_great {number : Nat} (great : 2 ^ 53 ≤ number) (bound : number < 2 ^ 64) :
    ∃ mantissa exponent, ∃ positive : 0 < mantissa,
      fractions ≤ mantissa ∧ mantissa < 2 * fractions ∧ 0 < exponent ∧ exponent ≤ 12 ∧
        UnpackedFloat.round Format.binary64 .positive number 0 = .finite .positive mantissa exponent positive := by
  have size : 53 ≤ number.log2 :=
    (Nat.le_log2 (Nat.pos_iff_ne_zero.mp (Nat.lt_of_lt_of_le (by decide) great))).mpr great
  have none : (0 - ((number.log2 : Int) - 52)).toNat = 0 := by omega
  obtain ⟨extended, places, some, few, first, low, high⟩ := shiftToTargetExponent_great great bound
  -- Rounding up may carry into a 54th bit, which the second shift takes off again.
  obtain ⟨mantissa, zeros, full, fits, carried, split⟩ : ∃ mantissa zeros, fractions ≤ mantissa ∧
      mantissa < 2 * fractions ∧ zeros ≤ 1 ∧ extended.roundedMantissa = mantissa * 2 ^ zeros := by
    rcases Nat.lt_or_eq_of_le high with less | same
    · exact ⟨_, 0, low, less, by decide, (Nat.mul_one _).symm⟩
    · exact ⟨fractions, 1, Nat.le_refl _, by decide, by decide, by rw [same, Nat.mul_comm, Nat.pow_one]⟩
  have positive : 0 < mantissa := Nat.lt_of_lt_of_le (by decide) full
  have least : -1074 ≤ (places : Int) + zeros := by omega
  have second := shiftToTargetExponent_zeros full fits least zeros
  rw [← split, Int.add_sub_cancel] at second
  refine ⟨mantissa, places + zeros, positive, full, fits, by omega, by omega, ?_⟩
  simp only [UnpackedFloat.round, targetExponent_number, decreaseExponent, none, Nat.shiftLeft_zero, Nat.cast_zero,
    Int.sub_zero, roundWithAccuracy, first, second]
  rw [dif_neg (Nat.pos_iff_ne_zero.mp positive)]

theorem toFloat_eq {number : UInt64} (some : 0 < number.toNat) :
    number.toFloat = .ofModel (.pack (UnpackedFloat.round Format.binary64 .positive number.toNat 0)) := by
  show Float.ofModel (.pack (UnpackedFloat.normalize Format.binary64 (number.toNat : Int) 0 .positive)) = _
  rw [UnpackedFloat.normalize, Int.compare_eq_gt.mpr (by omega), Int.toNat_natCast]

/-- What is known of a whole number and the double nearest to it: they are equal, or both need more than 53 bits. -/
def Approximates (number mantissa : Nat) (exponent : Int) : Prop :=
  (∃ zeros : Nat, mantissa = number * 2 ^ zeros ∧ exponent = -zeros) ∨ 2 ^ 53 ≤ number ∧ 0 < exponent

theorem exists_normal_toFloat {number : UInt64} (some : 0 < number.toNat) :
    ∃ mantissa exponent, Normal number.toFloat mantissa exponent ∧ Approximates number.toNat mantissa exponent := by
  rw [toFloat_eq some]
  by_cases great : 2 ^ 53 ≤ number.toNat
  · obtain ⟨mantissa, exponent, positive, full, fits, low, high, rounded⟩ := round_great great number.toNat_lt
    rw [rounded]
    exact ⟨mantissa, exponent, normal_pack full fits (by omega) (by omega) positive, .inr ⟨great, low⟩⟩
  · obtain ⟨zeros, positive, few, full, fits, rounded⟩ := round_small some (Nat.lt_of_not_le great)
    rw [rounded]
    exact ⟨_, _, normal_pack full fits (by omega) (by omega) positive, .inl ⟨zeros, rfl, rfl⟩⟩

theorem Approximates.two_pow_le_iff {number : Nat} (near : Approximates number mantissa exponent)
    (full : fractions ≤ mantissa) (fits : mantissa < 2 * fractions) {power : Nat} (bound : power ≤ 53) :
    2 ^ power ≤ number ↔ (power : Int) ≤ exponent + 52 := by
  rcases near with ⟨zeros, rfl, rfl⟩ | ⟨great, positive⟩
  · have scaled : 2 ^ power ≤ number ↔ 2 ^ (power + zeros) ≤ number * 2 ^ zeros := by
      rw [Nat.pow_add, Nat.mul_le_mul_right_iff (Nat.two_pow_pos zeros)]
    rw [scaled]
    constructor
    · intro reached
      have places : power + zeros < 53 := (Nat.pow_lt_pow_iff_right (by decide)).mp (Nat.lt_of_le_of_lt reached fits)
      omega
    · intro places
      have below : 2 ^ (power + zeros) ≤ fractions := Nat.pow_le_pow_right (by decide) (by omega : _ ≤ 52)
      exact Nat.le_trans below full
  · exact iff_of_true (Nat.le_trans (Nat.pow_le_pow_right (by decide) bound) great) (by omega)

theorem divCore_power (full : fractions ≤ mantissa) (fits : mantissa < 2 * fractions)
    (least : -1074 < exponent - exponent' - 52) :
    divCore Format.binary64 mantissa exponent fractions exponent' =
      (mantissa * 2 ^ 1, exponent - exponent' - 52 - (1 : Nat), .exact) := by
  have size := log2_full full fits
  have size' := log2_full (Nat.le_refl fractions) (by decide)
  have target : min (exponent - exponent') (Format.binary64.targetExponent
      (totalExponent mantissa exponent - totalExponent fractions exponent')) =
        exponent - exponent' - 52 - (1 : Nat) := by
    simp only [Format.targetExponent, totalExponent, Format.mantissaBits, Format.minExponent, size, size']
    omega
  have places : (exponent - exponent' - (exponent - exponent' - 52 - (1 : Nat))).toNat = 53 := by omega
  have quotient : mantissa <<< 53 = fractions * (mantissa * 2) := by
    rw [Nat.shiftLeft_eq, (Binary64.sizes).1]
    omega
  simp only [divCore, target, places, quotient, Nat.mul_mod_right, accuracyOfFraction, if_true, Nat.pow_one]
  rw [Nat.mul_div_cancel_left _ (by decide)]

theorem Normal.div_power (normal : Normal x mantissa exponent) (power : Normal y fractions exponent')
    (least : -1074 < exponent - exponent' - 52) (greatest : exponent - exponent' - 52 ≤ 971) :
    Normal (x / y) mantissa (exponent - exponent' - 52) := by
  have positive : 0 < mantissa := Nat.lt_of_lt_of_le (by decide) normal.full
  have quotient : UnpackedFloat.div Format.binary64 x.toModel.unpack y.toModel.unpack =
      .finite .positive mantissa (exponent - exponent' - 52) positive := by
    rw [normal.unpacked, power.unpacked]
    simp only [UnpackedFloat.div, divCore_power normal.full normal.fits least]
    exact roundWithAccuracy_zeros normal.full normal.fits (by omega) 1 positive
  show Normal (.ofModel (.pack (UnpackedFloat.div Format.binary64 x.toModel.unpack y.toModel.unpack))) _ _
  rw [quotient]
  exact normal_pack normal.full normal.fits (by omega) greatest positive

theorem normal_1024 : Normal 1024.0 fractions (-42) where
  full := Nat.le_refl _
  fits := by decide
  least := by decide
  greatest := by decide
  unpacked := rfl

end Decimal
end CallProfile
