import Mathlib.Tactic

/-!
Contract: fixed-width little-endian words over byte lists.

Owns: the `width`-byte little-endian image of a natural number, its value map,
and the two inverse laws between them.

Does not own: any wire format. A format fixes its own widths and decides what
happens to a number that does not fit.
-/

namespace Oxo.Foundation

/-- The `width` least significant base-256 digits of `value`, lowest first. -/
def toLeBytes : Nat → Nat → List UInt8
  | 0, _ => []
  | width + 1, value => UInt8.ofNat value :: toLeBytes width (value / 256)

/-- The number denoted by little-endian bytes. -/
def ofLeBytes : List UInt8 → Nat
  | [] => 0
  | byte :: rest => byte.toNat + 256 * ofLeBytes rest

@[simp] theorem toLeBytes_length (width value : Nat) :
    (toLeBytes width value).length = width := by
  induction width generalizing value with
  | zero => rfl
  | succ width inductionHypothesis =>
      simp [toLeBytes, inductionHypothesis]

/-- Only the digits of the width count. -/
theorem toLeBytes_mod (width value : Nat) :
    toLeBytes width (value % 256 ^ width) = toLeBytes width value := by
  induction width generalizing value with
  | zero => rfl
  | succ width inductionHypothesis =>
      have lowDigit : UInt8.ofNat (value % 256 ^ (width + 1)) = UInt8.ofNat value := by
        apply UInt8.toNat.inj
        rw [UInt8.toNat_ofNat', UInt8.toNat_ofNat', pow_succ', Nat.mod_mul_right_mod]
      have quotient : value % 256 ^ (width + 1) / 256 = value / 256 % 256 ^ width := by
        rw [pow_succ', Nat.mod_mul_right_div_self]
      rw [toLeBytes, toLeBytes, lowDigit, quotient, inductionHypothesis]

/-- A number that fits the width survives the trip through its bytes. -/
theorem ofLeBytes_toLeBytes {width value : Nat} (fits : value < 256 ^ width) :
    ofLeBytes (toLeBytes width value) = value := by
  induction width generalizing value with
  | zero =>
      simp only [pow_zero, Nat.lt_one_iff] at fits
      simp [toLeBytes, ofLeBytes, fits]
  | succ width inductionHypothesis =>
      have quotientFits : value / 256 < 256 ^ width := by
        rw [pow_succ] at fits
        exact Nat.div_lt_of_lt_mul (by omega)
      have lowDigit : (UInt8.ofNat value).toNat = value % 256 := by simp
      rw [toLeBytes, ofLeBytes, inductionHypothesis quotientFits, lowDigit]
      omega

/-- Bytes are the image of their own value at their own length. -/
theorem toLeBytes_ofLeBytes (bytes : List UInt8) :
    toLeBytes bytes.length (ofLeBytes bytes) = bytes := by
  induction bytes with
  | nil => rfl
  | cons byte rest inductionHypothesis =>
      have bound := byte.toNat_lt
      have lowDigit : UInt8.ofNat (byte.toNat + 256 * ofLeBytes rest) = byte := by
        apply UInt8.toNat.inj
        simp only [UInt8.toNat_ofNat']
        omega
      have quotient : (byte.toNat + 256 * ofLeBytes rest) / 256 = ofLeBytes rest := by
        omega
      simp only [List.length_cons, toLeBytes, ofLeBytes]
      rw [lowDigit, quotient, inductionHypothesis]

theorem ofLeBytes_lt (bytes : List UInt8) : ofLeBytes bytes < 256 ^ bytes.length := by
  induction bytes with
  | nil => simp [ofLeBytes]
  | cons byte rest inductionHypothesis =>
      have bound := byte.toNat_lt
      simp only [ofLeBytes, List.length_cons, pow_succ]
      omega

end Oxo.Foundation
