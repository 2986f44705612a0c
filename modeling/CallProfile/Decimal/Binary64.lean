import CallProfile.Decimal.Natural

namespace CallProfile

/-- What a double stands for: no number, an infinity, or `mantissa · 2 ^ exponent` with a sign. -/
inductive Binary64 where
  | nan
  | infinite (negative : Bool)
  | finite (negative : Bool) (mantissa : Nat) (exponent : Int)
deriving DecidableEq

namespace Binary64

def fractions : Nat := 1 <<< 52

def signBit : Nat := 1 <<< 63

def topExponent : Nat := 2047

def ofBits (bits : Nat) : Binary64 :=
  let negative := bits / signBit % 2 = 1
  let biased : Nat := bits / fractions % (topExponent + 1)
  let fraction := bits % fractions
  if biased = topExponent then
    if fraction = 0 then infinite negative else nan
  else if biased = 0 then finite negative fraction (-1074)
  else finite negative (fractions + fraction) ((biased : Int) - 1075)

def ofFloat (x : Float) : Binary64 := ofBits x.toBits.toNat

end Binary64

namespace Decimal

def roundHalfEven (numerator denominator : Nat) : Nat :=
  let whole := numerator / denominator
  let twice := 2 * (numerator % denominator)
  if twice < denominator then whole
  else if twice = denominator then whole + whole % 2
  else whole + 1

def powerParts (base : Nat) (exponent : Int) : Nat × Nat :=
  (base.pow exponent.toNat, base.pow (-exponent).toNat)

def infinity : Nat := Binary64.topExponent * Binary64.fractions

def nearestBits (numerator denominator : Nat) : Nat :=
  let guess : Int := (numerator.log2 : Int) - denominator.log2
  let tooHigh := let (up, down) := powerParts 2 guess; numerator * down < denominator * up
  let magnitude := if tooHigh then guess - 1 else guess
  let exponent := max (magnitude - 52) (-1074)
  let (up, down) := powerParts 2 exponent
  let mantissa := roundHalfEven (numerator * down) (denominator * up)
  let bits := (exponent + 1074).toNat * Binary64.fractions + mantissa
  min bits infinity

/-- The double nearest to `significand · 10 ^ exponent`; infinite beyond the largest. -/
def nearest (negative : Bool) (significand : Nat) (exponent : Int) : Float :=
  let magnitude := exponent + (digits significand).length
  let bits :=
    if significand = 0 ∨ magnitude < -330 then 0
    else if 310 < magnitude then infinity
    else
      let (up, down) := powerParts 10 exponent
      nearestBits (significand * up) down
  .ofBits (.ofNat (if negative then Binary64.signBit + bits else bits))

end Decimal

end CallProfile
