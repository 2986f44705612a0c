namespace CallProfile

abbrev Count := UInt64

namespace Count

def limit : Nat := 18446744073709551615

def ofNat (number : Nat) : Count := UInt64.ofNat (min number limit)

def add (left right : Count) : Count := ofNat (left.toNat + right.toNat)

/-- How far a counter rose; a counter that fell rose by nothing. -/
def growth (before after : Count) : Count := ofNat (after.toNat - before.toNat)

@[simp] theorem toNat_ofNat (number : Nat) : (ofNat number).toNat = min number limit := by
  simp only [ofNat, UInt64.toNat_ofNat', limit]
  omega

theorem toNat_le_limit (count : Count) : count.toNat ≤ limit := by
  have := count.toNat_lt
  simp only [limit]
  omega

@[simp] theorem toNat_add (left right : Count) :
    (add left right).toNat = min (left.toNat + right.toNat) limit := toNat_ofNat _

@[simp] theorem toNat_growth (before after : Count) :
    (growth before after).toNat = after.toNat - before.toNat := by
  have := toNat_le_limit after
  simp only [growth, toNat_ofNat]
  omega

end Count

end CallProfile
