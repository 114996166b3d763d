import ToyServer.Network.Encryption

/-!
# `AesEncryption` (`System/Network/AesEncryption.cpp`)

AES-128 in CBC mode, as the source has it: the tables, the key schedule, the rounds with
SubBytes and ShiftRows in one assignment, `XTIME` as a macro on promoted integers, and the
block loops of `Encrypt` and `Decrypt`, which go in steps of 16 whatever `length` is.

* `decryptBlock_encryptBlock`: the block functions are inverse, for any round keys;
* `aes_encrypt_exact`, `aes_decrypt_exact`: a call keeps to `length` bytes if and only if `length`
is a multiple of 16;
* `aes_roundtrip`: at those lengths `Decrypt` undoes `Encrypt`.
-/

namespace ToyServer

variable (key : Block) (src : Nat → UInt8) (n : Nat) (iv : Block)

open Mem

namespace AesEncryption

/-! ## Tables -/

def sboxTable : List UInt8 :=
  [0x63, 0x7c, 0x77, 0x7b, 0xf2, 0x6b, 0x6f, 0xc5, 0x30, 0x01, 0x67, 0x2b, 0xfe, 0xd7, 0xab, 0x76,
   0xca, 0x82, 0xc9, 0x7d, 0xfa, 0x59, 0x47, 0xf0, 0xad, 0xd4, 0xa2, 0xaf, 0x9c, 0xa4, 0x72, 0xc0,
   0xb7, 0xfd, 0x93, 0x26, 0x36, 0x3f, 0xf7, 0xcc, 0x34, 0xa5, 0xe5, 0xf1, 0x71, 0xd8, 0x31, 0x15,
   0x04, 0xc7, 0x23, 0xc3, 0x18, 0x96, 0x05, 0x9a, 0x07, 0x12, 0x80, 0xe2, 0xeb, 0x27, 0xb2, 0x75,
   0x09, 0x83, 0x2c, 0x1a, 0x1b, 0x6e, 0x5a, 0xa0, 0x52, 0x3b, 0xd6, 0xb3, 0x29, 0xe3, 0x2f, 0x84,
   0x53, 0xd1, 0x00, 0xed, 0x20, 0xfc, 0xb1, 0x5b, 0x6a, 0xcb, 0xbe, 0x39, 0x4a, 0x4c, 0x58, 0xcf,
   0xd0, 0xef, 0xaa, 0xfb, 0x43, 0x4d, 0x33, 0x85, 0x45, 0xf9, 0x02, 0x7f, 0x50, 0x3c, 0x9f, 0xa8,
   0x51, 0xa3, 0x40, 0x8f, 0x92, 0x9d, 0x38, 0xf5, 0xbc, 0xb6, 0xda, 0x21, 0x10, 0xff, 0xf3, 0xd2,
   0xcd, 0x0c, 0x13, 0xec, 0x5f, 0x97, 0x44, 0x17, 0xc4, 0xa7, 0x7e, 0x3d, 0x64, 0x5d, 0x19, 0x73,
   0x60, 0x81, 0x4f, 0xdc, 0x22, 0x2a, 0x90, 0x88, 0x46, 0xee, 0xb8, 0x14, 0xde, 0x5e, 0x0b, 0xdb,
   0xe0, 0x32, 0x3a, 0x0a, 0x49, 0x06, 0x24, 0x5c, 0xc2, 0xd3, 0xac, 0x62, 0x91, 0x95, 0xe4, 0x79,
   0xe7, 0xc8, 0x37, 0x6d, 0x8d, 0xd5, 0x4e, 0xa9, 0x6c, 0x56, 0xf4, 0xea, 0x65, 0x7a, 0xae, 0x08,
   0xba, 0x78, 0x25, 0x2e, 0x1c, 0xa6, 0xb4, 0xc6, 0xe8, 0xdd, 0x74, 0x1f, 0x4b, 0xbd, 0x8b, 0x8a,
   0x70, 0x3e, 0xb5, 0x66, 0x48, 0x03, 0xf6, 0x0e, 0x61, 0x35, 0x57, 0xb9, 0x86, 0xc1, 0x1d, 0x9e,
   0xe1, 0xf8, 0x98, 0x11, 0x69, 0xd9, 0x8e, 0x94, 0x9b, 0x1e, 0x87, 0xe9, 0xce, 0x55, 0x28, 0xdf,
   0x8c, 0xa1, 0x89, 0x0d, 0xbf, 0xe6, 0x42, 0x68, 0x41, 0x99, 0x2d, 0x0f, 0xb0, 0x54, 0xbb, 0x16]

def rsboxTable : List UInt8 :=
  [0x52, 0x09, 0x6a, 0xd5, 0x30, 0x36, 0xa5, 0x38, 0xbf, 0x40, 0xa3, 0x9e, 0x81, 0xf3, 0xd7, 0xfb,
   0x7c, 0xe3, 0x39, 0x82, 0x9b, 0x2f, 0xff, 0x87, 0x34, 0x8e, 0x43, 0x44, 0xc4, 0xde, 0xe9, 0xcb,
   0x54, 0x7b, 0x94, 0x32, 0xa6, 0xc2, 0x23, 0x3d, 0xee, 0x4c, 0x95, 0x0b, 0x42, 0xfa, 0xc3, 0x4e,
   0x08, 0x2e, 0xa1, 0x66, 0x28, 0xd9, 0x24, 0xb2, 0x76, 0x5b, 0xa2, 0x49, 0x6d, 0x8b, 0xd1, 0x25,
   0x72, 0xf8, 0xf6, 0x64, 0x86, 0x68, 0x98, 0x16, 0xd4, 0xa4, 0x5c, 0xcc, 0x5d, 0x65, 0xb6, 0x92,
   0x6c, 0x70, 0x48, 0x50, 0xfd, 0xed, 0xb9, 0xda, 0x5e, 0x15, 0x46, 0x57, 0xa7, 0x8d, 0x9d, 0x84,
   0x90, 0xd8, 0xab, 0x00, 0x8c, 0xbc, 0xd3, 0x0a, 0xf7, 0xe4, 0x58, 0x05, 0xb8, 0xb3, 0x45, 0x06,
   0xd0, 0x2c, 0x1e, 0x8f, 0xca, 0x3f, 0x0f, 0x02, 0xc1, 0xaf, 0xbd, 0x03, 0x01, 0x13, 0x8a, 0x6b,
   0x3a, 0x91, 0x11, 0x41, 0x4f, 0x67, 0xdc, 0xea, 0x97, 0xf2, 0xcf, 0xce, 0xf0, 0xb4, 0xe6, 0x73,
   0x96, 0xac, 0x74, 0x22, 0xe7, 0xad, 0x35, 0x85, 0xe2, 0xf9, 0x37, 0xe8, 0x1c, 0x75, 0xdf, 0x6e,
   0x47, 0xf1, 0x1a, 0x71, 0x1d, 0x29, 0xc5, 0x89, 0x6f, 0xb7, 0x62, 0x0e, 0xaa, 0x18, 0xbe, 0x1b,
   0xfc, 0x56, 0x3e, 0x4b, 0xc6, 0xd2, 0x79, 0x20, 0x9a, 0xdb, 0xc0, 0xfe, 0x78, 0xcd, 0x5a, 0xf4,
   0x1f, 0xdd, 0xa8, 0x33, 0x88, 0x07, 0xc7, 0x31, 0xb1, 0x12, 0x10, 0x59, 0x27, 0x80, 0xec, 0x5f,
   0x60, 0x51, 0x7f, 0xa9, 0x19, 0xb5, 0x4a, 0x0d, 0x2d, 0xe5, 0x7a, 0x9f, 0x93, 0xc9, 0x9c, 0xef,
   0xa0, 0xe0, 0x3b, 0x4d, 0xae, 0x2a, 0xf5, 0xb0, 0xc8, 0xeb, 0xbb, 0x3c, 0x83, 0x53, 0x99, 0x61,
   0x17, 0x2b, 0x04, 0x7e, 0xba, 0x77, 0xd6, 0x26, 0xe1, 0x69, 0x14, 0x63, 0x55, 0x21, 0x0c, 0x7d]

def RconTable : List UInt8 :=
  [0x8d, 0x01, 0x02, 0x04, 0x08, 0x10, 0x20, 0x40, 0x80, 0x1b, 0x36]

def sbox (x : UInt8) : UInt8 := sboxTable.getD x.toNat 0

def rsbox (x : UInt8) : UInt8 := rsboxTable.getD x.toNat 0

def Rcon (i : Nat) : UInt8 := RconTable.getD i 0

/-! ## Blocks -/

abbrev Block := Vector UInt8 16

def xorBlock (a b : Block) : Block := Vector.zipWith (· ^^^ ·) a b

/-- The next round key of `KeyExpansion`: RotWord, SubWord and Rcon on the last column, then the
chain of the four columns. -/
def nextRoundKey (i : Nat) (k : Block) : Block :=
  let t0 := sbox k[13] ^^^ Rcon i
  let t1 := sbox k[14]
  let t2 := sbox k[15]
  let t3 := sbox k[12]
  let r0 := k[0] ^^^ t0
  let r1 := k[1] ^^^ t1
  let r2 := k[2] ^^^ t2
  let r3 := k[3] ^^^ t3
  let r4 := k[4] ^^^ r0
  let r5 := k[5] ^^^ r1
  let r6 := k[6] ^^^ r2
  let r7 := k[7] ^^^ r3
  let r8 := k[8] ^^^ r4
  let r9 := k[9] ^^^ r5
  let r10 := k[10] ^^^ r6
  let r11 := k[11] ^^^ r7
  #v[r0, r1, r2, r3, r4, r5, r6, r7, r8, r9, r10, r11, k[12] ^^^ r8, k[13] ^^^ r9, k[14] ^^^ r10,
    k[15] ^^^ r11]

def keyExpansion (key : Block) : Nat → Block
  | 0 => key
  | i + 1 => nextRoundKey (i + 1) (keyExpansion key i)

/-- The macro `XTIME`; its argument is promoted to `int` and the result is not cut to a byte. -/
def XTIME (x : UInt32) : UInt32 := (x <<< 1) ^^^ (((x >>> 7) &&& 1) * 0x1b)

def subShift (state : Block) : Block :=
  #v[sbox state[0], sbox state[5], sbox state[10], sbox state[15],
     sbox state[4], sbox state[9], sbox state[14], sbox state[3],
     sbox state[8], sbox state[13], sbox state[2], sbox state[7],
     sbox state[12], sbox state[1], sbox state[6], sbox state[11]]

def invShiftSub (state : Block) : Block :=
  #v[rsbox state[0], rsbox state[13], rsbox state[10], rsbox state[7],
     rsbox state[4], rsbox state[1], rsbox state[14], rsbox state[11],
     rsbox state[8], rsbox state[5], rsbox state[2], rsbox state[15],
     rsbox state[12], rsbox state[9], rsbox state[6], rsbox state[3]]

def mixColumn (s0 s1 s2 s3 : UInt32) : Vector UInt32 4 :=
  #v[XTIME s0 ^^^ XTIME s1 ^^^ s1 ^^^ s2 ^^^ s3,
     s0 ^^^ XTIME s1 ^^^ XTIME s2 ^^^ s2 ^^^ s3,
     s0 ^^^ s1 ^^^ XTIME s2 ^^^ XTIME s3 ^^^ s3,
     XTIME s0 ^^^ s0 ^^^ s1 ^^^ s2 ^^^ XTIME s3]

def invMixColumn (s0 s1 s2 s3 : UInt32) : Vector UInt32 4 :=
  #v[XTIME (XTIME (XTIME s0)) ^^^ XTIME (XTIME s0) ^^^ XTIME s0 ^^^ -- 0e
       XTIME (XTIME (XTIME s1)) ^^^ XTIME s1 ^^^ s1 ^^^ -- 0b
       XTIME (XTIME (XTIME s2)) ^^^ XTIME (XTIME s2) ^^^ s2 ^^^ -- 0d
       XTIME (XTIME (XTIME s3)) ^^^ s3, -- 09
     XTIME (XTIME (XTIME s1)) ^^^ XTIME (XTIME s1) ^^^ XTIME s1 ^^^
       XTIME (XTIME (XTIME s2)) ^^^ XTIME s2 ^^^ s2 ^^^
       XTIME (XTIME (XTIME s3)) ^^^ XTIME (XTIME s3) ^^^ s3 ^^^
       XTIME (XTIME (XTIME s0)) ^^^ s0,
     XTIME (XTIME (XTIME s2)) ^^^ XTIME (XTIME s2) ^^^ XTIME s2 ^^^
       XTIME (XTIME (XTIME s3)) ^^^ XTIME s3 ^^^ s3 ^^^
       XTIME (XTIME (XTIME s0)) ^^^ XTIME (XTIME s0) ^^^ s0 ^^^
       XTIME (XTIME (XTIME s1)) ^^^ s1,
     XTIME (XTIME (XTIME s3)) ^^^ XTIME (XTIME s3) ^^^ XTIME s3 ^^^
       XTIME (XTIME (XTIME s0)) ^^^ XTIME s0 ^^^ s0 ^^^
       XTIME (XTIME (XTIME s1)) ^^^ XTIME (XTIME s1) ^^^ s1 ^^^
       XTIME (XTIME (XTIME s2)) ^^^ s2]

/-- The loop over the four columns; the stores cut to `uint8_t`. -/
def onColumns (f : UInt32 → UInt32 → UInt32 → UInt32 → Vector UInt32 4) (t : Block) : Block :=
  let c0 := f t[0].toUInt32 t[1].toUInt32 t[2].toUInt32 t[3].toUInt32
  let c1 := f t[4].toUInt32 t[5].toUInt32 t[6].toUInt32 t[7].toUInt32
  let c2 := f t[8].toUInt32 t[9].toUInt32 t[10].toUInt32 t[11].toUInt32
  let c3 := f t[12].toUInt32 t[13].toUInt32 t[14].toUInt32 t[15].toUInt32
  #v[c0[0].toUInt8, c0[1].toUInt8, c0[2].toUInt8, c0[3].toUInt8,
     c1[0].toUInt8, c1[1].toUInt8, c1[2].toUInt8, c1[3].toUInt8,
     c2[0].toUInt8, c2[1].toUInt8, c2[2].toUInt8, c2[3].toUInt8,
     c3[0].toUInt8, c3[1].toUInt8, c3[2].toUInt8, c3[3].toUInt8]

/-! ## Block functions -/

/-- Rounds 1 to `n` of `EncryptBlock`. -/
def encryptRounds (roundKey : Nat → Block) : Nat → Block → Block
  | 0, state => state
  | n + 1, state =>
    xorBlock (onColumns mixColumn (subShift (encryptRounds roundKey n state))) (roundKey (n + 1))

def encryptBlock (roundKey : Nat → Block) (input : Block) : Block :=
  xorBlock (subShift (encryptRounds roundKey 9 (xorBlock input (roundKey 0)))) (roundKey 10)

/-- Rounds `n` to 1 of `DecryptBlock`. -/
def decryptRounds (roundKey : Nat → Block) : Nat → Block → Block
  | 0, state => state
  | n + 1, state =>
    decryptRounds roundKey n
      (onColumns invMixColumn (xorBlock (invShiftSub state) (roundKey (n + 1))))

def decryptBlock (roundKey : Nat → Block) (input : Block) : Block :=
  xorBlock (invShiftSub (decryptRounds roundKey 9 (xorBlock input (roundKey 10)))) (roundKey 0)

/-! ## CBC -/

def blockAt (p : Nat → UInt8) (off : Nat) : Block := Vector.ofFn fun j : Fin 16 => p (off + j)

/-- The loop of `Encrypt` from `i` on, `n` rounds of it. -/
def encryptLoop (roundKey : Nat → Block) (src : Nat → UInt8) :
    (n i : Nat) → (iv : Block) → List UInt8
  | 0, _, _ => []
  | n + 1, i, iv =>
    let out := encryptBlock roundKey (xorBlock (blockAt src i) iv)
    out.toList ++ encryptLoop roundKey src n (i + 16) out

/-- The loop of `Decrypt` from `i` on, `n` rounds of it. -/
def decryptLoop (roundKey : Nat → Block) (src : Nat → UInt8) :
    (n i : Nat) → (iv : Block) → List UInt8
  | 0, _, _ => []
  | n + 1, i, iv =>
    (xorBlock (decryptBlock roundKey (blockAt src i)) iv).toList ++
      decryptLoop roundKey src n (i + 16) (blockAt src i)

/-- Rounds of `for (size_t i = 0; i < length; i += 16)`. -/
def rounds (length : Nat) : Nat := (length + 15) / 16

/-! ## Bytes: the tables and `XTIME` -/

theorem rsbox_sbox_all : ∀ n, n < 256 → rsbox (sbox (UInt8.ofNat n)) = UInt8.ofNat n := by
  decide +kernel

theorem rsbox_sbox (x : UInt8) : rsbox (sbox x) = x := by
  have h := rsbox_sbox_all x.toNat x.toNat_lt
  rwa [UInt8.ofNat_toNat] at h

def xt (x : UInt8) : UInt8 := (XTIME x.toUInt32).toUInt8

theorem toNat_XTIME (x : UInt32) :
    (XTIME x).toNat % 256 = (2 * x.toNat % 256) ^^^ (x.toNat / 128 % 2 * 27) := by
  unfold XTIME
  rw [UInt32.toNat_xor, show 256 = 2 ^ 8 from rfl, Nat.xor_mod_two_pow]
  congr 1
  · simp [UInt32.toNat_shiftLeft, Nat.shiftLeft_eq]
    omega
  · rw [UInt32.toNat_mul, UInt32.toNat_and, UInt32.toNat_shiftRight]
    simp [Nat.shiftRight_eq_div_pow]
    omega

/-- The bits above the byte that nested `XTIME`s carry along never come back down. -/
theorem toUInt8_XTIME (x : UInt32) : (XTIME x).toUInt8 = xt x.toUInt8 := by
  rw [← UInt8.toNat_inj]
  unfold xt
  rw [UInt32.toNat_toUInt8, UInt32.toNat_toUInt8]
  have h1 := toNat_XTIME x
  have h2 := toNat_XTIME x.toUInt8.toUInt32
  rw [show x.toUInt8.toUInt32.toNat = x.toNat % 256 by simp] at h2
  rw [show 2 ^ 8 = 256 from rfl, h1, h2]
  congr 1 <;> omega

theorem xt_all : ∀ n, n < 256 →
    xt (UInt8.ofNat n) = (UInt8.ofNat n <<< 1) ^^^ ((UInt8.ofNat n >>> 7) * 0x1b) ∧
      (UInt8.ofNat n >>> 7 = 0 ∨ UInt8.ofNat n >>> 7 = 1) := by
  decide +kernel

theorem xt_eq (x : UInt8) : xt x = (x <<< 1) ^^^ ((x >>> 7) * 0x1b) ∧
    (x >>> 7 = 0 ∨ x >>> 7 = 1) := by
  have h := xt_all x.toNat x.toNat_lt
  rwa [UInt8.ofNat_toNat] at h

variable (roundKey : Nat → Block) (a b : UInt8) (i : Nat)

theorem xt_xor : xt (a ^^^ b) = xt a ^^^ xt b := by
  have hmul : ((a ^^^ b) >>> (7 : UInt8)) * (0x1b : UInt8) =
      ((a >>> (7 : UInt8)) * 0x1b) ^^^ ((b >>> (7 : UInt8)) * 0x1b) := by
    rw [UInt8.shiftRight_xor]
    rcases (xt_eq a).2 with ha | ha <;> rcases (xt_eq b).2 with hb | hb <;> rw [ha, hb] <;> rfl
  rw [(xt_eq (a ^^^ b)).1, (xt_eq a).1, (xt_eq b).1, UInt8.shiftLeft_xor, hmul]
  ac_rfl

/-! ## Columns -/

def mul14 (x : UInt8) : UInt8 := xt (xt (xt x)) ^^^ xt (xt x) ^^^ xt x

def mul11 (x : UInt8) : UInt8 := xt (xt (xt x)) ^^^ xt x ^^^ x

def mul13 (x : UInt8) : UInt8 := xt (xt (xt x)) ^^^ xt (xt x) ^^^ x

def mul9 (x : UInt8) : UInt8 := xt (xt (xt x)) ^^^ x

def mix (a b c d : UInt8) : UInt8 := xt a ^^^ (xt b ^^^ b) ^^^ c ^^^ d

/-- A map that respects `^^^`, on a mixed column. -/
theorem map_mix {f : UInt8 → UInt8} (hf : ∀ a b, f (a ^^^ b) = f a ^^^ f b) (a b c d : UInt8) :
    f (mix a b c d) = f (xt a) ^^^ f (xt b ^^^ b) ^^^ f c ^^^ f d := by
  unfold mix
  rw [hf, hf, hf]

theorem mul14_xor : mul14 (a ^^^ b) = mul14 a ^^^ mul14 b := by
  simp only [mul14, xt_xor]
  ac_rfl

theorem mul11_xor : mul11 (a ^^^ b) = mul11 a ^^^ mul11 b := by
  simp only [mul11, xt_xor]
  ac_rfl

theorem mul13_xor : mul13 (a ^^^ b) = mul13 a ^^^ mul13 b := by
  simp only [mul13, xt_xor]
  ac_rfl

theorem mul9_xor : mul9 (a ^^^ b) = mul9 a ^^^ mul9 b := by
  simp only [mul9, xt_xor]
  ac_rfl

/-- The products of the two matrices, one byte of the column at a time. -/
theorem matrix_all : ∀ n, n < 256 →
    let x := UInt8.ofNat n
    mul14 (xt x) ^^^ mul11 x ^^^ mul13 x ^^^ mul9 (xt x ^^^ x) = x ∧
    mul14 (xt x ^^^ x) ^^^ mul11 (xt x) ^^^ mul13 x ^^^ mul9 x = 0 ∧
    mul14 x ^^^ mul11 (xt x ^^^ x) ^^^ mul13 (xt x) ^^^ mul9 x = 0 ∧
    mul14 x ^^^ mul11 x ^^^ mul13 (xt x ^^^ x) ^^^ mul9 (xt x) = 0 := by
  decide +kernel

theorem matrix_rows (x : UInt8) :
    mul14 (xt x) ^^^ mul11 x ^^^ mul13 x ^^^ mul9 (xt x ^^^ x) = x ∧
    mul14 (xt x ^^^ x) ^^^ mul11 (xt x) ^^^ mul13 x ^^^ mul9 x = 0 ∧
    mul14 x ^^^ mul11 (xt x ^^^ x) ^^^ mul13 (xt x) ^^^ mul9 x = 0 ∧
    mul14 x ^^^ mul11 x ^^^ mul13 (xt x ^^^ x) ^^^ mul9 (xt x) = 0 := by
  have h := matrix_all x.toNat x.toNat_lt
  rwa [UInt8.ofNat_toNat] at h

theorem unmix (s0 s1 s2 s3 : UInt8) :
    mul14 (mix s0 s1 s2 s3) ^^^ mul11 (mix s1 s2 s3 s0) ^^^ mul13 (mix s2 s3 s0 s1) ^^^
      mul9 (mix s3 s0 s1 s2) = s0 := by
  rw [map_mix mul14_xor, map_mix mul11_xor, map_mix mul13_xor, map_mix mul9_xor]
  calc _ = (mul14 (xt s0) ^^^ mul11 s0 ^^^ mul13 s0 ^^^ mul9 (xt s0 ^^^ s0)) ^^^
        (mul14 (xt s1 ^^^ s1) ^^^ mul11 (xt s1) ^^^ mul13 s1 ^^^ mul9 s1) ^^^
        (mul14 s2 ^^^ mul11 (xt s2 ^^^ s2) ^^^ mul13 (xt s2) ^^^ mul9 s2) ^^^
        (mul14 s3 ^^^ mul11 s3 ^^^ mul13 (xt s3 ^^^ s3) ^^^ mul9 (xt s3)) := by ac_rfl
    _ = s0 := by
      rw [(matrix_rows s0).1, (matrix_rows s1).2.1, (matrix_rows s2).2.2.1, (matrix_rows s3).2.2.2]
      simp

theorem mixColumn_bytes (s0 s1 s2 s3 : UInt8) :
    let col := mixColumn s0.toUInt32 s1.toUInt32 s2.toUInt32 s3.toUInt32
    col[0].toUInt8 = mix s0 s1 s2 s3 ∧ col[1].toUInt8 = mix s1 s2 s3 s0 ∧
      col[2].toUInt8 = mix s2 s3 s0 s1 ∧ col[3].toUInt8 = mix s3 s0 s1 s2 := by
  refine ⟨?_, ?_, ?_, ?_⟩ <;> simp [mixColumn, mix, toUInt8_XTIME] <;> ac_rfl

theorem invMixColumn_bytes (s0 s1 s2 s3 : UInt8) :
    let col := invMixColumn s0.toUInt32 s1.toUInt32 s2.toUInt32 s3.toUInt32
    col[0].toUInt8 = mul14 s0 ^^^ mul11 s1 ^^^ mul13 s2 ^^^ mul9 s3 ∧
      col[1].toUInt8 = mul14 s1 ^^^ mul11 s2 ^^^ mul13 s3 ^^^ mul9 s0 ∧
      col[2].toUInt8 = mul14 s2 ^^^ mul11 s3 ^^^ mul13 s0 ^^^ mul9 s1 ∧
      col[3].toUInt8 = mul14 s3 ^^^ mul11 s0 ^^^ mul13 s1 ^^^ mul9 s2 := by
  refine ⟨?_, ?_, ?_, ?_⟩ <;>
    simp [invMixColumn, mul14, mul11, mul13, mul9, toUInt8_XTIME] <;> ac_rfl

theorem invMixColumn_mixColumn (s0 s1 s2 s3 : UInt8) :
    let m := mixColumn s0.toUInt32 s1.toUInt32 s2.toUInt32 s3.toUInt32
    let col := invMixColumn m[0].toUInt8.toUInt32 m[1].toUInt8.toUInt32 m[2].toUInt8.toUInt32
      m[3].toUInt8.toUInt32
    col[0].toUInt8 = s0 ∧ col[1].toUInt8 = s1 ∧ col[2].toUInt8 = s2 ∧ col[3].toUInt8 = s3 := by
  dsimp only
  obtain ⟨h0, h1, h2, h3⟩ := mixColumn_bytes s0 s1 s2 s3
  obtain ⟨i0, i1, i2, i3⟩ := invMixColumn_bytes (mix s0 s1 s2 s3) (mix s1 s2 s3 s0)
    (mix s2 s3 s0 s1) (mix s3 s0 s1 s2)
  rw [h0, h1, h2, h3, i0, i1, i2, i3]
  exact ⟨unmix s0 s1 s2 s3, unmix s1 s2 s3 s0, unmix s2 s3 s0 s1, unmix s3 s0 s1 s2⟩

/-! ## Blocks -/

theorem invMixColumns_mixColumns (t : Block) :
    onColumns invMixColumn (onColumns mixColumn t) = t := by
  obtain ⟨a0, a1, a2, a3⟩ := invMixColumn_mixColumn t[0] t[1] t[2] t[3]
  obtain ⟨b0, b1, b2, b3⟩ := invMixColumn_mixColumn t[4] t[5] t[6] t[7]
  obtain ⟨c0, c1, c2, c3⟩ := invMixColumn_mixColumn t[8] t[9] t[10] t[11]
  obtain ⟨d0, d1, d2, d3⟩ := invMixColumn_mixColumn t[12] t[13] t[14] t[15]
  refine Vector.ext fun j hj => ?_
  interval_cases j
  · exact a0
  · exact a1
  · exact a2
  · exact a3
  · exact b0
  · exact b1
  · exact b2
  · exact b3
  · exact c0
  · exact c1
  · exact c2
  · exact c3
  · exact d0
  · exact d1
  · exact d2
  · exact d3

theorem invShiftSub_subShift (t : Block) : invShiftSub (subShift t) = t := by
  refine Vector.ext fun j hj => ?_
  interval_cases j <;> exact rsbox_sbox _

theorem xorBlock_self_right (a k : Block) : xorBlock (xorBlock a k) k = a := by
  refine Vector.ext fun j hj => ?_
  simp only [xorBlock, Vector.getElem_zipWith]
  rw [UInt8.xor_assoc, UInt8.xor_self, UInt8.xor_zero]

/-- The rounds of `DecryptBlock` take back those of `EncryptBlock`, last first. -/
theorem decryptRounds_encryptRounds (n : Nat) (state : Block) :
    decryptRounds roundKey n (subShift (encryptRounds roundKey n state)) = subShift state := by
  induction n with
  | zero => rfl
  | succ n ih =>
    unfold encryptRounds decryptRounds
    rw [invShiftSub_subShift, xorBlock_self_right, invMixColumns_mixColumns]
    exact ih

theorem decryptBlock_encryptBlock (input : Block) :
    decryptBlock roundKey (encryptBlock roundKey input) = input := by
  unfold decryptBlock encryptBlock
  rw [xorBlock_self_right, decryptRounds_encryptRounds, invShiftSub_subShift, xorBlock_self_right]

/-! ## Whole calls -/

def blocksFrom (p : Nat → UInt8) : (n i : Nat) → List Block
  | 0, _ => []
  | n + 1, i => blockAt p i :: blocksFrom p n (i + 16)

theorem blockAt_toList (p : Nat → UInt8) (i : Nat) : (blockAt p i).toList = slice p i 16 := by
  apply List.ext_getElem
  · simp
  · intro j h1 h2
    simp [blockAt, slice]

@[simp] theorem blocksFrom_length (p : Nat → UInt8) (n i : Nat) :
    (blocksFrom p n i).length = n := by
  induction n generalizing i with
  | zero => rfl
  | succ n ih => simp [blocksFrom, ih]

theorem flatMap_blocksFrom (p : Nat → UInt8) (n i : Nat) :
    (blocksFrom p n i).flatMap Vector.toList = slice p i (16 * n) := by
  induction n generalizing i with
  | zero => rfl
  | succ n ih =>
    rw [show 16 * (n + 1) = 16 + 16 * n by omega, slice_add, ← ih (i + 16), ← blockAt_toList]
    rfl

theorem blocksFrom_congr {p p' : Nat → UInt8} {n i : Nat}
    (h : ∀ j, j < 16 * n → p (i + j) = p' (i + j)) : blocksFrom p n i = blocksFrom p' n i := by
  induction n generalizing i with
  | zero => rfl
  | succ n ih =>
    have hhead : blockAt p i = blockAt p' i := by
      unfold blockAt
      congr 1
      ext j
      exact congrArg _ (h j (by omega))
    have htail : blocksFrom p n (i + 16) = blocksFrom p' n (i + 16) := by
      refine ih fun j hj => ?_
      rw [Nat.add_assoc]
      exact h (16 + j) (by omega)
    unfold blocksFrom
    rw [hhead, htail]

theorem flatMap_toList_length (bs : List Block) :
    (bs.flatMap Vector.toList).length = 16 * bs.length := by
  induction bs with
  | nil => rfl
  | cons b bs ih =>
    simp [ih]
    omega

theorem flatMap_toList_inj {bs cs : List Block}
    (h : bs.flatMap Vector.toList = cs.flatMap Vector.toList) : bs = cs := by
  have hlen := congrArg List.length h
  rw [flatMap_toList_length, flatMap_toList_length] at hlen
  induction bs generalizing cs with
  | nil =>
    cases cs with
    | nil => rfl
    | cons c cs => simp at hlen
  | cons b bs ih =>
    cases cs with
    | nil => simp at hlen
    | cons c cs =>
      simp only [List.flatMap_cons] at h
      obtain ⟨hb, hbs⟩ := List.append_inj h (by simp)
      rw [Vector.toList_inj.mp hb, ih hbs (by simpa using hlen)]

theorem encryptLoop_eq (src : Nat → UInt8) (n i : Nat) (iv : Block) :
    encryptLoop roundKey src n i iv =
      (Cbc.encrypt xorBlock (encryptBlock roundKey) iv (blocksFrom src n i)).flatMap
      Vector.toList := by
  induction n generalizing i iv with
  | zero => rfl
  | succ n ih => simp [encryptLoop, blocksFrom, Cbc.encrypt, ih]

theorem decryptLoop_eq (src : Nat → UInt8) (n i : Nat) (iv : Block) :
    decryptLoop roundKey src n i iv =
      (Cbc.decrypt xorBlock (decryptBlock roundKey) iv (blocksFrom src n i)).flatMap
      Vector.toList := by
  induction n generalizing i iv with
  | zero => rfl
  | succ n ih => simp [decryptLoop, blocksFrom, Cbc.decrypt, ih]

@[simp] theorem encryptLoop_length (src : Nat → UInt8) (n i : Nat) (iv : Block) :
    (encryptLoop roundKey src n i iv).length = 16 * n := by
  rw [encryptLoop_eq, flatMap_toList_length, Cbc.encrypt_length, blocksFrom_length]

@[simp] theorem decryptLoop_length (src : Nat → UInt8) (n i : Nat) (iv : Block) :
    (decryptLoop roundKey src n i iv).length = 16 * n := by
  rw [decryptLoop_eq, flatMap_toList_length, Cbc.decrypt_length, blocksFrom_length]

theorem decryptLoop_encryptLoop {src dest : Nat → UInt8} {n : Nat} {iv : Block}
    (h : slice dest 0 (16 * n) = encryptLoop roundKey src n 0 iv) :
    decryptLoop roundKey dest n 0 iv = slice src 0 (16 * n) := by
  rw [encryptLoop_eq, ← flatMap_blocksFrom] at h
  rw [decryptLoop_eq, flatMap_toList_inj h, Cbc.decrypt_encrypt _ _ _ xorBlock_self_right
    (decryptBlock_encryptBlock roundKey), flatMap_blocksFrom]

theorem rounds_eq_iff : 16 * rounds n = n ↔ n % 16 = 0 := by
  unfold rounds
  omega

theorem le_rounds : n ≤ 16 * rounds n := by
  unfold rounds
  omega

end AesEncryption

open AesEncryption

def aesEncryption (key iv : Block) : IPacketEncryption where
  encrypt src length := encryptLoop (keyExpansion key) src (rounds length) 0 iv
  decrypt src length := decryptLoop (keyExpansion key) src (rounds length) 0 iv

theorem aes_encrypt_length (src : Nat → UInt8) (n : Nat) :
    ((aesEncryption key iv).encrypt src n).length = 16 * rounds n := encryptLoop_length ..

theorem aes_decrypt_length (src : Nat → UInt8) (n : Nat) :
    ((aesEncryption key iv).decrypt src n).length = 16 * rounds n := decryptLoop_length ..

/-- A call that goes over its blocks keeps to `length` at the multiples of 16 and at no other
length. -/
theorem exact_iff_of_blocks {f : (Nat → UInt8) → Nat → List UInt8}
    {g : List Block → List UInt8} {n : Nat} (hf : ∀ src, f src n = g (blocksFrom src (rounds n) 0))
    (hlen : ∀ src, (f src n).length = 16 * rounds n) : Exact f n ↔ n % 16 = 0 := by
  constructor
  · intro h
    have hwrites := h.writes fun _ => 0
    rw [hlen] at hwrites
    exact (rounds_eq_iff n).mp hwrites
  · intro h
    have hn := (rounds_eq_iff n).mpr h
    refine ⟨fun src => (hlen src).trans hn, fun src src' hsrc => ?_⟩
    have hblocks : blocksFrom src (rounds n) 0 = blocksFrom src' (rounds n) 0 := by
      refine blocksFrom_congr fun j hj => ?_
      rw [Nat.zero_add]
      exact hsrc j (by omega)
    rw [hf, hf, hblocks]

theorem aes_encrypt_exact (n : Nat) : Exact (aesEncryption key iv).encrypt n ↔ n % 16 = 0 :=
  exact_iff_of_blocks
    (g := fun bs => (Cbc.encrypt xorBlock (encryptBlock (keyExpansion key)) iv bs).flatMap
      Vector.toList)
    (fun src => encryptLoop_eq (keyExpansion key) src (rounds n) 0 iv) fun src =>
      aes_encrypt_length key iv src n

theorem aes_decrypt_exact (n : Nat) : Exact (aesEncryption key iv).decrypt n ↔ n % 16 = 0 :=
  exact_iff_of_blocks
    (g := fun bs => (Cbc.decrypt xorBlock (decryptBlock (keyExpansion key)) iv bs).flatMap
      Vector.toList)
    (fun src => decryptLoop_eq (keyExpansion key) src (rounds n) 0 iv) fun src =>
      aes_decrypt_length key iv src n

theorem aes_roundtrip {src dest : Nat → UInt8} {n : Nat} (hn : n % 16 = 0)
    (h : slice dest 0 n = (aesEncryption key iv).encrypt src n) :
    (aesEncryption key iv).decrypt dest n = slice src 0 n := by
  have hrounds := (rounds_eq_iff n).mpr hn
  show decryptLoop _ dest (rounds n) 0 iv = _
  have hslice : slice dest 0 (16 * rounds n) =
      encryptLoop (keyExpansion key) src (rounds n) 0 iv := by
    rw [hrounds]
    exact h
  rw [decryptLoop_encryptLoop _ hslice, hrounds]

end ToyServer
