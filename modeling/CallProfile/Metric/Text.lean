import CallProfile.Metric
import CallProfile.Decimal.Fixed

namespace CallProfile

namespace Count

def unitNames : List String := ["B", "KiB", "MiB", "GiB", "TiB"]

def rounded (count : Count) : Nat :=
  match Binary64.ofFloat count.toFloat with
  | .finite _ mantissa exponent => Decimal.scaled 0 mantissa exponent
  | _ => 0

/--
The first of the units, which begin at `1024 ^ step`, of which `number` has fewer than 1024, or else the
last one; with its exponent of 1024.
-/
def byteUnit (number : Nat) : Nat → List String → Nat × String
  | step, [] => (step, "")
  | step, [unit] => (step, unit)
  | step, unit :: next :: larger =>
    if number < Nat.pow 1024 (step + 1) then (step, unit) else byteUnit number (step + 1) (next :: larger)

def humanizedBytes (count : Count) : String :=
  let (step, unit) := byteUnit count.toNat 0 unitNames
  let number :=
    if step = 0 then Decimal.natural count.toNat
    else Decimal.pointed 2 (Decimal.scaled 2 count.rounded (-(10 * step : Nat) : Int))
  number ++ unit

end Count

namespace Metric

def plainText : Metric → String
  | duration seconds => Decimal.Fixed.text ⟨9, false⟩ seconds
  | count number => Decimal.natural number.toNat
  | percent share => Decimal.Fixed.text ⟨2, false⟩ share
  | bytes number => Decimal.natural number.toNat
  | ratio share => Decimal.Fixed.text ⟨6, false⟩ share
  | text content => content

def microseconds (seconds : Float) : String := Decimal.Fixed.text ⟨2, false⟩ (seconds * 1000000.0)

def humanized : Metric → String
  | duration seconds => microseconds seconds ++ "us"
  | percent share => Decimal.Fixed.text ⟨2, false⟩ share ++ "%"
  | bytes number => number.humanizedBytes
  | other => other.plainText

end Metric

end CallProfile
