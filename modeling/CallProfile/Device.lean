import CallProfile.Decimal.Natural

namespace CallProfile

inductive Device.Kind where
  | cpu
  | gpu
  | other (name : String)
deriving DecidableEq, Inhabited

structure Device where
  kind : Device.Kind
  index : UInt32
deriving DecidableEq, Inhabited

namespace Device

namespace Kind

def name : Kind → String
  | cpu => "cpu"
  | gpu => "gpu"
  | other name => name

def rank : Kind → Nat
  | cpu => 0
  | gpu => 1
  | other _ => 2

instance : Ord Kind := ⟨compareLex (compareOn rank) (compareOn name)⟩

instance : Std.TransOrd Kind :=
  inferInstanceAs (Std.TransCmp (compareLex (compareOn rank) (compareOn name)))

instance : Std.LawfulEqOrd Kind where
  eq_of_compare {left right} same := by
    obtain ⟨sameRank, sameName⟩ := compareLex_eq_eq.mp same
    have sameRank : left.rank = right.rank := Std.LawfulEqCmp.eq_of_compare sameRank
    have sameName : left.name = right.name := Std.LawfulEqCmp.eq_of_compare sameName
    cases left <;> cases right <;> simp_all [rank, name]

end Kind

def cpu (index : UInt32) : Device := ⟨.cpu, index⟩

def gpu (index : UInt32) : Device := ⟨.gpu, index⟩

def isCpu (device : Device) : Bool := device.kind = .cpu

instance : Ord Device := ⟨compareLex (compareOn kind) (compareOn index)⟩

instance : Std.TransOrd Device :=
  inferInstanceAs (Std.TransCmp (compareLex (compareOn kind) (compareOn index)))

instance : Std.LawfulEqOrd Device where
  eq_of_compare {left right} same := by
    obtain ⟨sameKind, sameIndex⟩ := compareLex_eq_eq.mp same
    have sameKind : left.kind = right.kind := Std.LawfulEqCmp.eq_of_compare sameKind
    have sameIndex : left.index = right.index := Std.LawfulEqCmp.eq_of_compare sameIndex
    cases left; cases right; simp_all

def text (device : Device) : String := device.kind.name ++ ":" ++ Decimal.natural device.index.toNat

instance : ToString Device := ⟨text⟩

end Device

end CallProfile
