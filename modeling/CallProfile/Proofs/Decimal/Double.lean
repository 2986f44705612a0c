import Mathlib
import CallProfile.Double
import CallProfile.Proofs.Decimal.Shortest

-- `pack_unpack` and its like come with the whole library only: no smaller file of it imports them.

namespace CallProfile

open Binary64 (fractions signBit topExponent)
open Float.Model (Format)
open Float.Model.UnpackedFloat

theorem toNat_unpackExponent (bits : BitVec Format.binary64.numBits) :
    (unpackExponent bits).toNat = bits.toNat / fractions % (topExponent + 1) := by
  rw [unpackExponent_def, BitVec.extractLsb'_toNat, Nat.shiftRight_eq_div_pow]
  rfl

theorem unpackExponent_eq_iff (bits : BitVec Format.binary64.numBits) :
    unpackExponent bits = -1#_ ↔ bits.toNat / fractions % (topExponent + 1) = topExponent := by
  rw [← BitVec.toNat_inj, toNat_unpackExponent]
  rfl

theorem isFinite_iff (x : Float) : x.isFinite ↔ x.toBits.toNat / fractions % (topExponent + 1) ≠ topExponent := by
  have exponent := unpackExponent_eq_iff x.toBits.toBitVec
  rw [ne_eq, ← UInt64.toNat_toBitVec, ← exponent]
  show (unpack Format.binary64 x.toBits.toBitVec).isFinite = true ↔ _
  unfold unpack
  dsimp only
  split_ifs with top zero least zero
  · exact iff_of_false Bool.false_ne_true (not_not_intro top)
  · exact iff_of_false Bool.false_ne_true (not_not_intro top)
  · exact iff_of_true rfl top
  · exact iff_of_true rfl top
  · exact iff_of_true rfl top

theorem toBitVec_ofBits (bits : UInt64) :
    (Float.ofBits bits).toBits.toBitVec =
      if @isNaNBits .binary64 bits.toBitVec then packedNaN .binary64 else bits.toBitVec :=
  @pack_unpack .binary64 bits.toBitVec (by decide)

theorem toBits_ofBits {bits : UInt64} (finite : bits.toNat / fractions % (topExponent + 1) ≠ topExponent) :
    (Float.ofBits bits).toBits = bits := by
  rw [← UInt64.toNat_toBitVec, ne_eq, ← unpackExponent_eq_iff] at finite
  have packed := toBitVec_ofBits bits
  rw [if_neg fun nan => finite (of_decide_eq_true nan).1] at packed
  exact UInt64.toBitVec_inj.mp packed

namespace Double

theorem toFloat_ofFloat (x : Float) : (ofFloat x).toFloat = x := Float.ofBits_toBits x

theorem isFinite_ofFloat (x : Float) : (ofFloat x).isFinite = x.isFinite := by rw [isFinite, toFloat_ofFloat]

theorem isNaN_iff_isNaNBits (x : Double) : x.isNaN ↔ @isNaNBits .binary64 x.bits.toBitVec := by
  have packed := toBitVec_ofBits x.bits
  have same : x.toFloat = .nan ↔ x.toFloat.toBits.toBitVec = packedNaN .binary64 := by
    rw [← Float.toBits_inj, ← UInt64.toBitVec_inj]
    rfl
  rw [isNaN, Float.isNaN_eq_decide_eq_nan, decide_eq_true_eq, same, toFloat, packed]
  split
  next nan => exact iff_of_true rfl nan
  next number => exact iff_of_false (fun same => number (same ▸ isNaNBits_packedNaN)) number

/-- Only bits of what is no number are lost in a float. -/
theorem ofFloat_toFloat {x : Double} (number : ¬ x.isNaN) : ofFloat x.toFloat = x := by
  have packed := toBitVec_ofBits x.bits
  rw [isNaN_iff_isNaNBits] at number
  rw [if_neg number] at packed
  exact congrArg mk (UInt64.toBitVec_inj.mp packed)

theorem isNaN_quiet {x : Double} (nan : x.isNaN) : x.quiet.isNaN := by
  rw [isNaN_iff_isNaNBits, isNaNBits, decide_eq_true_eq, unpackExponent_def, unpackMantissa_def] at nan ⊢
  rw [quiet, UInt64.toBitVec_or, BitVec.extractLsb'_or, BitVec.extractLsb'_or, nan.1]
  refine ⟨by decide, fun zero => ?_⟩
  have bit := congrArg (·.getLsbD 51) zero
  rw [BitVec.getLsbD_or] at bit
  exact Bool.false_ne_true (bit.symm.trans (Bool.or_eq_true_iff.mpr (.inr rfl)))

theorem toFloat_of_isNaN {x : Double} (nan : x.isNaN) : x.toFloat = .nan := by
  rwa [isNaN, Float.isNaN_eq_decide_eq_nan, decide_eq_true_eq] at nan

theorem not_isNaN_of_isFinite {x : Double} (finite : x.isFinite) : ¬ x.isNaN := by
  intro nan
  rw [isFinite, toFloat_of_isNaN nan] at finite
  exact absurd finite (by decide)

theorem unpack_nan : Float.nan.toModel.unpack = .notANumber := @unpack_packedNaN .binary64

/-- An operation on bits gives the value that it gives on floats. -/
theorem toFloat_apply {operation : Float → Float → Float}
    {unpacked : Float.Model.UnpackedFloat → Float.Model.UnpackedFloat → Float.Model.UnpackedFloat}
    (unpacks : ∀ x y, operation x y = .ofModel (.pack (unpacked x.toModel.unpack y.toModel.unpack)))
    (left : ∀ x, unpacked .notANumber x = .notANumber) (right : ∀ x, unpacked x .notANumber = .notANumber)
    (x y : Double) : (apply operation x y).toFloat = operation x.toFloat y.toFloat := by
  rw [apply]
  split
  next nan =>
    rw [toFloat_of_isNaN (isNaN_quiet nan), toFloat_of_isNaN nan, unpacks, unpack_nan, left]
    rfl
  next =>
    split
    next nan =>
      rw [toFloat_of_isNaN (isNaN_quiet nan), toFloat_of_isNaN nan, unpacks, unpack_nan, right]
      rfl
    next =>
      dsimp only
      split
      next nan =>
        rw [Float.isNaN_eq_decide_eq_nan, decide_eq_true_eq] at nan
        rw [nan]
        rfl
      next => exact toFloat_ofFloat _

theorem toFloat_add (x y : Double) : (x + y).toFloat = x.toFloat + y.toFloat :=
  toFloat_apply (fun _ _ => rfl) (fun _ => rfl) (fun x => by cases x <;> rfl) x y

theorem toFloat_sub (x y : Double) : (x - y).toFloat = x.toFloat - y.toFloat :=
  toFloat_apply (fun _ _ => rfl) (fun _ => rfl) (fun x => by cases x <;> rfl) x y

end Double

theorem Binary64.sizes : fractions = 4503599627370496 ∧ signBit = 9223372036854775808 ∧ topExponent = 2047 := by decide

namespace Decimal

theorem isFinite_ofBits (negative : Bool) {bits : Nat} (bound : bits < infinity) :
    (Float.ofBits (.ofNat (if negative then signBit + bits else bits))).isFinite := by
  obtain ⟨fractionsEq, signEq, topEq⟩ := Binary64.sizes
  rw [infinity, fractionsEq, topEq] at bound
  have word : (UInt64.ofNat (if negative then signBit + bits else bits)).toNat =
      if negative then signBit + bits else bits := by
    refine UInt64.toNat_ofNat_of_lt' ?_
    rw [signEq, UInt64.size]
    split <;> omega
  have below : (UInt64.ofNat (if negative then signBit + bits else bits)).toNat / fractions % (topExponent + 1) ≠
      topExponent := by
    rw [word, fractionsEq, signEq, topEq]
    split <;> omega
  rw [isFinite_iff, toBits_ofBits below]
  exact below

end Decimal

/-- A finite double is a zero or has a mantissa and an exponent, and its bits are those with its sign. -/
theorem Binary64.ofFloat_of_isFinite {x : Float} (finite : x.isFinite) :
    ∃ negative mantissa exponent, ofFloat x = .finite negative mantissa exponent ∧
      (mantissa = 0 ∧ exponent = -1074 ∨ Decimal.Canonical mantissa exponent) ∧
      x.toBits.toNat =
        if negative then signBit + Decimal.bitsOf mantissa exponent else Decimal.bitsOf mantissa exponent := by
  rw [isFinite_iff] at finite
  have word := x.toBits.toNat_lt
  unfold ofFloat ofBits
  dsimp only
  rw [if_neg finite]
  generalize x.toBits.toNat = bits at finite word ⊢
  obtain ⟨fractionsEq, signEq, topEq⟩ := sizes
  rw [topEq] at finite ⊢
  have fraction : bits % fractions < fractions := Nat.mod_lt bits (by decide)
  split_ifs with least
  · refine ⟨_, _, _, rfl, ?_, ?_⟩
    · rcases Nat.eq_zero_or_pos (bits % fractions) with zero | positive
      · exact .inl ⟨zero, rfl⟩
      · exact .inr ⟨positive, by omega, by omega, by omega, .inr rfl⟩
    · simp only [Decimal.bitsOf, fractionsEq, signEq, decide_eq_true_eq] at least ⊢
      split <;> omega
  · refine ⟨_, _, _, rfl, .inr ⟨by omega, by omega, by omega, by omega, .inl (Nat.le_add_right _ _)⟩, ?_⟩
    have exponent : ((bits / fractions % (2047 + 1) : Nat) - 1075 + 1074 : Int).toNat =
        bits / fractions % (2047 + 1) - 1 := by omega
    simp only [Decimal.bitsOf, exponent]
    simp only [fractionsEq, signEq, decide_eq_true_eq] at least ⊢
    split <;> omega

namespace Decimal

/-- The nearest double to the shortest decimal, or to that decimal with zeros at its end, is the double. -/
theorem nearest_shortest {x : Float} {negative : Bool} {mantissa : Nat} {exponent : Int} (finite : x.isFinite)
    (decoded : Binary64.ofFloat x = .finite negative mantissa exponent) (nonzero : mantissa ≠ 0) (more : Nat) :
    nearest negative ((shortest mantissa exponent).1 * 10 ^ more) ((shortest mantissa exponent).2 - more) = x := by
  obtain ⟨negative', mantissa', exponent', decoded', canonical, bits⟩ := Binary64.ofFloat_of_isFinite finite
  obtain ⟨rfl, rfl, rfl⟩ : negative' = negative ∧ mantissa' = mantissa ∧ exponent' = exponent := by
    rw [decoded] at decoded'
    cases decoded'
    exact ⟨rfl, rfl, rfl⟩
  have canonical := canonical.resolve_left fun zero => nonzero zero.1
  obtain ⟨positive, inside⟩ := shortest_spec canonical
  have same : (((shortest mantissa' exponent').1 * 10 ^ more : Nat) : ℚ) * 10 ^ ((shortest mantissa' exponent').2 - more) =
      (shortest mantissa' exponent').1 * 10 ^ (shortest mantissa' exponent').2 := by
    rw [zpow_sub₀ (by norm_num), zpow_natCast]
    push_cast
    field_simp
  rw [nearest_eq canonical negative' (Nat.mul_pos positive (Nat.pow_pos (by decide))) (same ▸ inside), ← bits,
    UInt64.ofNat_toNat, Float.ofBits_toBits]

theorem leading_shortest {mantissa : Nat} {exponent : Int} (canonical : Canonical mantissa exponent) :
    ((shortest mantissa exponent).2 + (digits (shortest mantissa exponent).1).length - 1).natAbs ≤ 331 := by
  obtain ⟨positive, inside⟩ := shortest_spec canonical
  have bounds := canonical.magnitude_bounds positive inside
  omega

theorem nearest_zero {x : Float} {negative : Bool} {exponent : Int} (finite : x.isFinite)
    (decoded : Binary64.ofFloat x = .finite negative 0 exponent) (power : Int) : nearest negative 0 power = x := by
  obtain ⟨negative', mantissa', exponent', decoded', canonical, bits⟩ := Binary64.ofFloat_of_isFinite finite
  rw [decoded] at decoded'
  cases decoded'
  obtain ⟨-, rfl⟩ := canonical.resolve_right fun canonical => Nat.lt_irrefl 0 canonical.positive
  have zero : bitsOf 0 (-1074) = 0 := rfl
  rw [zero] at bits
  simp only [nearest, true_or, if_true]
  rw [← bits, UInt64.ofNat_toNat, Float.ofBits_toBits]

theorem isFinite_nearest (negative : Bool) {number : Nat} (bound : number < 2 ^ 64) :
    (nearest negative number 0).isFinite := by
  refine isFinite_ofBits negative ?_
  dsimp only
  have small : (digits number).length ≤ 20 :=
    (Nat.length_toDigits_le_iff (by decide) (by decide)).mpr (Nat.lt_trans bound (by decide))
  split_ifs with zero great
  · decide
  · omega
  · have positive : 0 < number := Nat.pos_of_ne_zero fun same => zero (.inl same)
    have unit : powerParts 10 0 = (1, 1) := rfl
    rw [unit, Nat.mul_one]
    refine nearestBits_lt positive Nat.one_pos ?_
    rw [Nat.cast_one, div_one]
    exact_mod_cast bound

end Decimal

end CallProfile
