/-
This file is about numbers written as bytes, the lowest byte first.
-/

import Mathlib.Data.Nat.Init
import Mathlib.Algebra.Ring.Nat

namespace Fleetbench.Library

/-- The lowest bytes of a number. -/
def littleEndian : Nat → Nat → List UInt8
  | 0, _ => []
  | count + 1, value => UInt8.ofNat value :: littleEndian count (value / 256)

def fromLittleEndian : List UInt8 → Nat
  | [] => 0
  | byte :: rest => byte.toNat + 256 * fromLittleEndian rest

theorem length_littleEndian (count value : Nat) : (littleEndian count value).length = count := by
  induction count generalizing value with
  | zero => rfl
  | succ count inductionHypothesis => rw [littleEndian, List.length_cons, inductionHypothesis]

theorem fromLittleEndian_littleEndian (count value : Nat) :
    fromLittleEndian (littleEndian count value) = value % 256 ^ count := by
  induction count generalizing value with
  | zero => rw [littleEndian, fromLittleEndian, Nat.pow_zero, Nat.mod_one]
  | succ count inductionHypothesis =>
    rw [littleEndian, fromLittleEndian, inductionHypothesis, UInt8.toNat_ofNat',
      Nat.pow_succ' (m := 256)]
    exact Nat.mod_mul.symm

theorem littleEndian_fromLittleEndian (bytes : List UInt8) :
    littleEndian bytes.length (fromLittleEndian bytes) = bytes := by
  induction bytes with
  | nil => rfl
  | cons byte rest inductionHypothesis =>
    have below : byte.toNat < 256 := byte.toNat_lt
    have low : UInt8.ofNat (byte.toNat + 256 * fromLittleEndian rest) = byte := by
      refine UInt8.toNat_inj.mp ?_
      rw [UInt8.toNat_ofNat']
      omega
    have high : (byte.toNat + 256 * fromLittleEndian rest) / 256 = fromLittleEndian rest := by
      omega
    rw [List.length_cons, fromLittleEndian, littleEndian, low, high, inductionHypothesis]

theorem fromLittleEndian_inj {first second : List UInt8} (length : first.length = second.length)
    (value : fromLittleEndian first = fromLittleEndian second) : first = second := by
  rw [← littleEndian_fromLittleEndian first, length, value, littleEndian_fromLittleEndian]

/-- Bytes that are read as a number are the lowest bytes of that number. -/
theorem fromLittleEndian_eq_iff {bytes : List UInt8} {count value : Nat}
    (length : bytes.length = count) :
    fromLittleEndian bytes = value % 256 ^ count ↔ bytes = littleEndian count value := by
  rw [← fromLittleEndian_littleEndian]
  constructor
  · intro read
    exact fromLittleEndian_inj (length.trans (length_littleEndian count value).symm) read
  · intro written
    rw [written]

end Fleetbench.Library
