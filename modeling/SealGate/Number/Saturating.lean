/-! Saturating arithmetic on 64-bit numbers: a sum or product too large for 64 bits is the largest
64-bit number. A power of a natural number is the one of the core library, also where a larger
library that has powers of its own is at hand. -/

namespace SealGate.Number

@[default_instance 20000]
instance (priority := 1100) power : Pow Nat Nat := instPowNat

def largest : Nat := 2 ^ 64 - 1

def satAdd (a b : UInt64) : UInt64 := UInt64.ofNat (min (a.toNat + b.toNat) largest)

def satMul (a b : UInt64) : UInt64 := UInt64.ofNat (min (a.toNat * b.toNat) largest)

theorem toNat_ofNat_min (n : Nat) : (UInt64.ofNat (min n largest)).toNat = min n largest := by
  have h : largest < 2 ^ 64 := by decide
  rw [UInt64.toNat_ofNat', Nat.mod_eq_of_lt]
  omega

theorem toNat_satAdd (a b : UInt64) : (satAdd a b).toNat = min (a.toNat + b.toNat) largest :=
  toNat_ofNat_min _

theorem toNat_satMul (a b : UInt64) : (satMul a b).toNat = min (a.toNat * b.toNat) largest :=
  toNat_ofNat_min _

end SealGate.Number
