import Mathlib.Tactic

/-!
# Cipher block chaining

Chaining over any type of blocks with a masking operation `mask` and a block cipher `E`
with inverse `D`: each block is masked with the cipher block before it.  The rules are the
round trips (`decrypt_encrypt`, `encrypt_decrypt`) and that chaining keeps the number of blocks.
-/

namespace Cbc

variable {β : Type} (mask : β → β → β) (E D : β → β)

def encrypt : β → List β → List β
  | _, [] => []
  | iv, p :: ps => E (mask p iv) :: encrypt (E (mask p iv)) ps

def decrypt : β → List β → List β
  | _, [] => []
  | iv, c :: cs => mask (D c) iv :: decrypt c cs

@[simp] theorem encrypt_length (iv : β) (ps : List β) :
    (encrypt mask E iv ps).length = ps.length := by
  induction ps generalizing iv with
  | nil => rfl
  | cons p ps ih => simp [encrypt, ih]

@[simp] theorem decrypt_length (iv : β) (cs : List β) :
    (decrypt mask D iv cs).length = cs.length := by
  induction cs generalizing iv with
  | nil => rfl
  | cons c cs ih => simp [decrypt, ih]

/-- Both directions chain on the cipher block, so they stay in step. -/
theorem decrypt_encrypt (hmask : ∀ a b, mask (mask a b) b = a) (hD : ∀ x, D (E x) = x) (iv : β)
    (ps : List β) : decrypt mask D iv (encrypt mask E iv ps) = ps := by
  induction ps generalizing iv with
  | nil => rfl
  | cons p ps ih => simp [encrypt, decrypt, ih, hD, hmask]

theorem encrypt_decrypt (hmask : ∀ a b, mask (mask a b) b = a) (hE : ∀ x, E (D x) = x) (iv : β)
    (cs : List β) : encrypt mask E iv (decrypt mask D iv cs) = cs := by
  induction cs generalizing iv with
  | nil => rfl
  | cons c cs ih => simp [encrypt, decrypt, ih, hE, hmask]

end Cbc
