/-!
# Checked arithmetic

Sums and differences of 32-bit numbers that say so when the result is no such number.
-/

namespace FrontEnd

/-- The operation whose result does not fit 32 bits. -/
inductive Overflow where
  | add
  | subtract
  deriving DecidableEq

namespace Overflow

def message : Overflow → String
  | add => "attempt to add with overflow"
  | subtract => "attempt to subtract with overflow"

end Overflow

namespace Checked

def add (a b : UInt32) : Except Overflow UInt32 :=
  if a.toNat + b.toNat < UInt32.size then .ok (a + b) else .error .add

def sub (a b : UInt32) : Except Overflow UInt32 :=
  if b ≤ a then .ok (a - b) else .error .subtract

variable {a b : UInt32} {n : Nat}

/-- A sum is exact or it is refused. -/
theorem add_eq (h : a.toNat + b.toNat = n) :
    add a b = if n < UInt32.size then .ok (UInt32.ofNat n) else .error .add := by
  rw [add, h]
  by_cases hfits : n < UInt32.size
  · have hsum : a + b = UInt32.ofNat n := by
      rw [← UInt32.toNat_inj, UInt32.toNat_add, h, UInt32.toNat_ofNat_of_lt' hfits]
      exact Nat.mod_eq_of_lt hfits
    rw [if_pos hfits, if_pos hfits, hsum]
  · rw [if_neg hfits, if_neg hfits]

theorem sub_of_le (h : b ≤ a) : sub a b = .ok (a - b) := if_pos h

end Checked

end FrontEnd
