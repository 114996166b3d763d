import ToyServer.Lib.Cbc
import ToyServer.Lib.Mem

/-!
# `IPacketEncryption` and `XorEncryption`

`Encrypt(src, dest, length)` and `Decrypt` read the memory at `src` and write from `dest` on.
The model gives what they write as a list, so how far a cipher reads and writes is visible.
`Exact` is what the interface asks of a call ("Decrypts 'length' bytes from src to dest"): it
reads and writes `length` bytes.

`XorEncryption` feeds each cipher byte into the next one; `xor_roundtrip` undoes it at every
length.
-/

namespace ToyServer

open Mem

structure IPacketEncryption where
  encrypt : (Nat → UInt8) → Nat → List UInt8
  decrypt : (Nat → UInt8) → Nat → List UInt8

variable (key : UInt8)

/-- A call with this length writes `length` bytes and reads no others. -/
structure Exact (f : (Nat → UInt8) → Nat → List UInt8) (length : Nat) : Prop where
  writes : ∀ src, (f src length).length = length
  reads : ∀ src src', (∀ i, i < length → src i = src' i) → f src length = f src' length

namespace XorEncryption

def encryptLoop (key : UInt8) : List UInt8 → List UInt8
  | [] => []
  | plain :: src =>
    let cipher := plain ^^^ key
    cipher :: encryptLoop cipher src

def decryptLoop (key : UInt8) : List UInt8 → List UInt8
  | [] => []
  | cipher :: src =>
    let plain := cipher ^^^ key
    plain :: decryptLoop cipher src

/-- The feedback is chaining with no block cipher. -/
theorem encryptLoop_eq (l : List UInt8) : encryptLoop key l = Cbc.encrypt (· ^^^ ·) id key l := by
  induction l generalizing key with
  | nil => rfl
  | cons x l ih => simp [encryptLoop, Cbc.encrypt, ih]

theorem decryptLoop_eq (l : List UInt8) : decryptLoop key l = Cbc.decrypt (· ^^^ ·) id key l := by
  induction l generalizing key with
  | nil => rfl
  | cons x l ih => simp [decryptLoop, Cbc.decrypt, ih]

theorem decryptLoop_encryptLoop (l : List UInt8) : decryptLoop key (encryptLoop key l) = l := by
  rw [decryptLoop_eq, encryptLoop_eq]
  refine Cbc.decrypt_encrypt _ _ _ (fun a b => ?_) (fun _ => rfl) key l
  show a ^^^ b ^^^ b = a
  rw [UInt8.xor_assoc, UInt8.xor_self, UInt8.xor_zero]

end XorEncryption

def xorEncryption (key : UInt8) : IPacketEncryption where
  encrypt src length := XorEncryption.encryptLoop key (slice src 0 length)
  decrypt src length := XorEncryption.decryptLoop key (slice src 0 length)

theorem xor_encrypt_exact (n : Nat) : Exact (xorEncryption key).encrypt n where
  writes src := by simp [xorEncryption, XorEncryption.encryptLoop_eq]
  reads src src' h := by
    show XorEncryption.encryptLoop key (slice src 0 n) =
      XorEncryption.encryptLoop key (slice src' 0 n)
    have hs : slice src 0 n = slice src' 0 n := slice_congr fun i hi => by simpa using h i hi
    rw [hs]

theorem xor_decrypt_exact (n : Nat) : Exact (xorEncryption key).decrypt n where
  writes src := by simp [xorEncryption, XorEncryption.decryptLoop_eq]
  reads src src' h := by
    show XorEncryption.decryptLoop key (slice src 0 n) =
      XorEncryption.decryptLoop key (slice src' 0 n)
    have hs : slice src 0 n = slice src' 0 n := slice_congr fun i hi => by simpa using h i hi
    rw [hs]

/-- A memory that starts with what `Encrypt` wrote decrypts to the plain bytes. -/
theorem xor_roundtrip {src dest : Nat → UInt8} {n : Nat}
    (h : slice dest 0 n = (xorEncryption key).encrypt src n) :
    (xorEncryption key).decrypt dest n = slice src 0 n := by
  show XorEncryption.decryptLoop key (slice dest 0 n) = _
  rw [h]
  exact XorEncryption.decryptLoop_encryptLoop key (slice src 0 n)

end ToyServer
