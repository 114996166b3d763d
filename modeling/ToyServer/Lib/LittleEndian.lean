import Mathlib.Tactic

/-!
# Little-endian numbers

`ofBytes` reads a number off a list of bytes, lowest byte first; `toBytes k` writes one
as `k` bytes.  A number that fits is read back (`ofBytes_toBytes`).
-/

namespace LittleEndian

def ofBytes : List UInt8 → Nat
  | [] => 0
  | b :: bs => b.toNat + 256 * ofBytes bs

def toBytes : Nat → Nat → List UInt8
  | 0, _ => []
  | k + 1, n => UInt8.ofNat n :: toBytes k (n / 256)

@[simp] theorem toBytes_length (k n : Nat) : (toBytes k n).length = k := by
  induction k generalizing n with
  | zero => rfl
  | succ k ih => rw [toBytes, List.length_cons, ih]

theorem ofBytes_toBytes (k n : Nat) (h : n < 256 ^ k) : ofBytes (toBytes k n) = n := by
  induction k generalizing n with
  | zero =>
    rw [pow_zero] at h
    show 0 = n
    omega
  | succ k ih =>
    have hlt : n / 256 < 256 ^ k := by
      rw [pow_succ] at h
      omega
    rw [toBytes, ofBytes, ih (n / 256) hlt, UInt8.toNat_ofNat']
    omega

end LittleEndian
