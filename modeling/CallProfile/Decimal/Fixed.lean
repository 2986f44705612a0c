import CallProfile.Decimal.Binary64

namespace CallProfile.Decimal

structure Fixed where
  places : Nat
  plus : Bool := false

/-- `mantissa · 2 ^ exponent · 10 ^ places`, rounded to a whole number. -/
def scaled (places mantissa : Nat) (exponent : Int) : Nat :=
  let (up, down) := powerParts 2 exponent
  roundHalfEven (mantissa * up * Nat.pow 10 places) down

def pointed (places units : Nat) : String :=
  if places = 0 then .ofList (digits units)
  else
    let unitsOfOne := Nat.pow 10 places
    let fraction := digits (units % unitsOfOne)
    .ofList (digits (units / unitsOfOne) ++ '.' :: List.replicate (places - fraction.length) '0' ++ fraction)

def Fixed.text (layout : Fixed) (x : Float) : String :=
  let sign (negative : Bool) := if negative then "-" else if layout.plus then "+" else ""
  match Binary64.ofFloat x with
  | .nan => "NaN"
  | .infinite negative => sign negative ++ "inf"
  | .finite negative mantissa exponent =>
    sign negative ++ pointed layout.places (scaled layout.places mantissa exponent)

end CallProfile.Decimal
