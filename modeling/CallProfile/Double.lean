namespace CallProfile

/-- A double by its bits: unlike a `Float`, it can be no number in many ways. -/
structure Double where
  bits : UInt64
deriving DecidableEq, Inhabited

namespace Double

def ofFloat (x : Float) : Double := ⟨x.toBits⟩

def toFloat (x : Double) : Float := .ofBits x.bits

instance : Coe Float Double := ⟨ofFloat⟩

instance : Coe Double Float := ⟨toFloat⟩

instance : OfScientific Double := ⟨fun mantissa negative exponent => ofFloat (.ofScientific mantissa negative exponent)⟩

instance : BEq Double := ⟨fun left right => left.toFloat == right.toFloat⟩

instance : LE Double := ⟨fun left right => left.toFloat ≤ right.toFloat⟩

instance (left right : Double) : Decidable (left ≤ right) := inferInstanceAs (Decidable (left.toFloat ≤ right.toFloat))

def isNaN (x : Double) : Bool := x.toFloat.isNaN

def isFinite (x : Double) : Bool := x.toFloat.isFinite

def quiet (x : Double) : Double := ⟨x.bits ||| 0x0008000000000000⟩

def indefinite : Double := ⟨0xFFF8000000000000⟩

/-- What is no number passes through an operation, the left operand before the right one. -/
def apply (operation : Float → Float → Float) (left right : Double) : Double :=
  if left.isNaN then left.quiet
  else if right.isNaN then right.quiet
  else
    let result := operation left.toFloat right.toFloat
    if result.isNaN then indefinite else result

instance : Add Double := ⟨apply (· + ·)⟩

instance : Sub Double := ⟨apply (· - ·)⟩

def abs (x : Double) : Double := ⟨x.bits &&& 0x7FFFFFFFFFFFFFFF⟩

end Double

end CallProfile
