import Mathlib.Tactic

/-!
Contract: saturating arithmetic on 64-bit words.

Owns: the clamping of a natural number to a word, the saturating operations as the
clamped operations on the numbers, and their monotonicity.

Does not own: wrapping arithmetic, which is that of the words themselves.
-/

namespace Oxo.Foundation.U64

/-- The word nearest to a number. -/
def clamp (value : Nat) : UInt64 :=
  UInt64.ofNat (min value (2 ^ 64 - 1))

def saturatingAdd (left right : UInt64) : UInt64 :=
  clamp (left.toNat + right.toNat)

def saturatingSub (left right : UInt64) : UInt64 :=
  clamp (left.toNat - right.toNat)

def saturatingMul (left right : UInt64) : UInt64 :=
  clamp (left.toNat * right.toNat)

theorem clamp_toNat (value : Nat) : (clamp value).toNat = min value (2 ^ 64 - 1) := by
  have small : min value (2 ^ 64 - 1) < 2 ^ 64 := by omega
  rw [clamp, UInt64.toNat_ofNat', Nat.mod_eq_of_lt small]

theorem saturatingAdd_toNat (left right : UInt64) :
    (saturatingAdd left right).toNat = min (left.toNat + right.toNat) (2 ^ 64 - 1) :=
  clamp_toNat _

theorem saturatingMul_toNat (left right : UInt64) :
    (saturatingMul left right).toNat = min (left.toNat * right.toNat) (2 ^ 64 - 1) :=
  clamp_toNat _

theorem saturatingSub_toNat (left right : UInt64) :
    (saturatingSub left right).toNat = left.toNat - right.toNat := by
  have bound := left.toNat_lt
  rw [saturatingSub, clamp_toNat]
  omega

theorem saturatingSub_mono {left later : UInt64} (le : left ≤ later) (right : UInt64) :
    saturatingSub left right ≤ saturatingSub later right := by
  rw [UInt64.le_iff_toNat_le] at le ⊢
  rw [saturatingSub_toNat, saturatingSub_toNat]
  omega

end Oxo.Foundation.U64
