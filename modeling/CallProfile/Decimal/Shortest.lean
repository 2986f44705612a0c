import CallProfile.Decimal.Binary64

namespace CallProfile.Decimal

/-- The numbers that round to `mantissa · 2 ^ exponent`, measured in quarters of its unit. -/
structure Interval where
  low : Nat
  value : Nat
  high : Nat
  closed : Bool

/-- Just above a power of two the doubles below stand twice as close. -/
def Interval.around (mantissa : Nat) (exponent : Int) : Interval where
  low := if mantissa = Binary64.fractions ∧ -1074 < exponent then 4 * mantissa - 1 else 4 * mantissa - 2
  value := 4 * mantissa
  high := 4 * mantissa + 2
  closed := mantissa % 2 = 0

def Interval.holds (interval : Interval) (unit grid candidate : Nat) : Bool :=
  let position := candidate * grid
  let low := interval.low * unit
  let high := interval.high * unit
  if interval.closed then low ≤ position && position ≤ high else low < position && position < high

def Interval.pick (interval : Interval) (unit grid : Nat) : Option Nat :=
  let value := interval.value * unit
  let below := value / grid
  let above := below + 1
  match interval.holds unit grid below && 0 < below, interval.holds unit grid above with
  | true, true =>
    let down := value - below * grid
    let up := above * grid - value
    some (if down < up then below else if up < down then above else below + below % 2)
  | true, false => some below
  | false, true => some above
  | false, false => none

/-- The first grid with a hit, from coarse to fine, with the exponent of ten of its spacing. -/
def shortestFrom (interval : Interval) (exponent : Int) : Nat → Int → Nat × Int
  | 0, grid => (0, grid)
  | steps + 1, grid =>
    let (unitUp, unitDown) := powerParts 2 (exponent - 2)
    let (gridUp, gridDown) := powerParts 10 grid
    match interval.pick (unitUp * gridDown) (gridUp * unitDown) with
    | some candidate => (candidate, grid)
    | none => shortestFrom interval exponent steps (grid - 1)

def magnitudeBound (mantissa : Nat) (exponent : Int) : Int :=
  let bits : Int := mantissa.log2 + 1 + exponent
  if 0 ≤ bits then (bits * 30103 / 100000) + 1 else -((-bits) * 30102 / 100000) + 1

def trimZeros : Nat → Nat → Int → Nat × Int
  | 0, significand, exponent => (significand, exponent)
  | steps + 1, significand, exponent =>
    if significand % 10 = 0 then trimZeros steps (significand / 10) (exponent + 1) else (significand, exponent)

def shortest (mantissa : Nat) (exponent : Int) : Nat × Int :=
  let interval := Interval.around mantissa exponent
  let (significand, grid) := shortestFrom interval exponent 22 (magnitudeBound mantissa exponent)
  trimZeros 22 significand grid

end CallProfile.Decimal
