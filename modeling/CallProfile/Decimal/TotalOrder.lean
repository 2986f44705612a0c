import CallProfile.Decimal.Binary64
import CallProfile.Double

namespace CallProfile.Decimal

def rank (x : Double) : Int :=
  let bits := x.bits.toNat
  if bits < Binary64.signBit then bits else -1 - ((bits - Binary64.signBit : Nat) : Int)

/-- Sorts by descending keys; what has the same key keeps its order. -/
def sortDescending {α : Type} (key : α → Double) (items : List α) : List α :=
  items.mergeSort fun before after => rank (key after) ≤ rank (key before)

end CallProfile.Decimal
