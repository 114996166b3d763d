import ToyServer.Lib.Gf256
import ToyServer.Network.Aes

/-!
# `AesEncryption` and the standard

AES-128 as FIPS-197 defines it: a state of four rows and four columns, the S-box as an inverse in
GF(2⁸) and an affine map of the bits, MixColumns as products in the field, and the key schedule word
by word.

`AesEncryption` has its bytes in one array, column by column, and tables for the S-box and the round
constants.  `stateOf` reads the array as a state; the steps of the source are those of the standard
under it (`stateOf_subShift`, `stateOf_mixColumns`, `stateOf_keyExpansion`), and so is a block
(`encryptBlock_eq_cipher`).
-/

namespace ToyServer

open Mem

namespace Fips197

open Gf256
open AesEncryption (Block)

/-- The byte in row `r` and column `c`. -/
abbrev State := Fin 4 → Fin 4 → UInt8

abbrev Word := Fin 4 → UInt8

def stateOf (input : Block) : State := fun r c => input[r.val + 4 * c.val]

def output (s : State) : Block :=
  Vector.ofFn fun i => s ⟨i % 4, Nat.mod_lt _ (by decide)⟩ ⟨i / 4, by omega⟩

/-- The affine map of SUBBYTES. -/
def affine (b : UInt8) : UInt8 := ofBits fun i =>
  bit b i ^^ bit b ((i + 4) % 8) ^^ bit b ((i + 5) % 8) ^^ bit b ((i + 6) % 8) ^^ bit b
    ((i + 7) % 8) ^^ bit 0x63 i

noncomputable section

def sbox (b : UInt8) : UInt8 := affine (inv b)

def subBytes (s : State) : State := fun r c => sbox (s r c)

def shiftRows (s : State) : State := fun r c => s r (c + r)

def mixColumns (s : State) : State :=
  fun r c => mul 2 (s r c) ^^^ mul 3 (s (r + 1) c) ^^^ s (r + 2) c ^^^ s (r + 3) c

def addRoundKey (s k : State) : State := fun r c => s r c ^^^ k r c

def rotWord (w : Word) : Word := fun r => w (r + 1)

def subWord (w : Word) : Word := fun r => sbox (w r)

/-- The powers of `x` in the first byte. -/
def rcon (i : Nat) : Word := fun r => if r = 0 then (mul 2)^[i - 1] 1 else 0

/-- The words of KEYEXPANSION. -/
def word (key : Block) (i : Nat) : Word :=
  if h : i < 4 then fun r => key[r.val + 4 * i]
  else if i % 4 = 0 then fun r =>
    word key (i - 4) r ^^^ (subWord (rotWord (word key (i - 1))) r ^^^ rcon (i / 4) r)
  else fun r => word key (i - 4) r ^^^ word key (i - 1) r
termination_by i

def roundKey (key : Block) (round : Nat) : State := fun r c => word key (4 * round + c) r

def cipherRounds (key : Block) : Nat → State → State
  | 0, s => s
  | n + 1, s =>
    addRoundKey (mixColumns (shiftRows (subBytes (cipherRounds key n s)))) (roundKey key (n + 1))

def cipher (key input : Block) : Block :=
  output (addRoundKey
    (shiftRows (subBytes (cipherRounds key 9 (addRoundKey (stateOf input) (roundKey key 0)))))
    (roundKey key 10))

end

/-! ## The tables -/

/-- The affine map of INVSUBBYTES. -/
def invAffine (b : UInt8) : UInt8 := ofBits fun i =>
  bit b ((i + 2) % 8) ^^ bit b ((i + 5) % 8) ^^ bit b ((i + 7) % 8) ^^ bit 0x05 i

theorem sbox_all : ∀ n, n < 256 →
    let a := UInt8.ofNat n
    affine (invAffine (AesEncryption.sbox a)) = AesEncryption.sbox a ∧
      (a = 0 ∧ invAffine (AesEncryption.sbox a) = 0 ∨
        times a (invAffine (AesEncryption.sbox a)) = 1) := by
  decide +kernel

theorem sbox_eq (a : UInt8) : AesEncryption.sbox a = sbox a := by
  have h := sbox_all a.toNat a.toNat_lt
  rw [UInt8.ofNat_toNat] at h
  obtain ⟨haffine, hinv⟩ := h
  have hpre : inv a = invAffine (AesEncryption.sbox a) := by
    rcases hinv with ⟨rfl, hzero⟩ | hone
    · rw [hzero]
      exact if_pos rfl
    · exact inv_eq (mul_eq_times a _ ▸ hone)
  unfold sbox
  rw [hpre, haffine]

theorem xt_eq_mul (a : UInt8) : AesEncryption.xt a = mul 2 a := by
  rw [mul_two]
  exact (AesEncryption.xt_eq a).1

theorem rcon_all : ∀ i, i < 10 → AesEncryption.Rcon (i + 1) = double^[i] 1 := by
  decide +kernel

theorem rcon_zero {i : Nat} (h : i < 10) : rcon (i + 1) 0 = AesEncryption.Rcon (i + 1) := by
  rw [rcon_all i h]
  unfold rcon
  rw [if_pos rfl, Nat.add_sub_cancel, show mul 2 = double from funext mul_two]

/-! ## Steps -/

theorem output_stateOf (t : Block) : output (stateOf t) = t := by
  refine Vector.ext fun j hj => ?_
  unfold output stateOf
  rw [Vector.getElem_ofFn]
  congr 1
  exact Nat.mod_add_div j 4

theorem stateOf_xorBlock (a k : Block) :
    stateOf (AesEncryption.xorBlock a k) = addRoundKey (stateOf a) (stateOf k) := by
  funext r c
  unfold stateOf addRoundKey AesEncryption.xorBlock
  rw [Vector.getElem_zipWith]

theorem stateOf_subShift (t : Block) :
    stateOf (AesEncryption.subShift t) = shiftRows (subBytes (stateOf t)) := by
  funext r c
  fin_cases c <;> fin_cases r <;> exact sbox_eq _

theorem mix_eq (a b c d : UInt8) : AesEncryption.mix a b c d = mul 2 a ^^^ mul 3 b ^^^ c ^^^ d := by
  unfold AesEncryption.mix
  rw [xt_eq_mul, xt_eq_mul, mul_three, mul_two b]

theorem stateOf_mixColumns (t : Block) :
    stateOf (AesEncryption.onColumns AesEncryption.mixColumn t) = mixColumns (stateOf t) := by
  have hcolumn : ∀ (s0 s1 s2 s3 : UInt8),
      let col := AesEncryption.mixColumn s0.toUInt32 s1.toUInt32 s2.toUInt32 s3.toUInt32
      col[0].toUInt8 = mul 2 s0 ^^^ mul 3 s1 ^^^ s2 ^^^ s3 ∧
        col[1].toUInt8 = mul 2 s1 ^^^ mul 3 s2 ^^^ s3 ^^^ s0 ∧
        col[2].toUInt8 = mul 2 s2 ^^^ mul 3 s3 ^^^ s0 ^^^ s1 ∧
        col[3].toUInt8 = mul 2 s3 ^^^ mul 3 s0 ^^^ s1 ^^^ s2 := by
    intro s0 s1 s2 s3
    simp only [← mix_eq]
    exact AesEncryption.mixColumn_bytes s0 s1 s2 s3
  funext r c
  fin_cases c
  · obtain ⟨h0, h1, h2, h3⟩ := hcolumn t[0] t[1] t[2] t[3]
    fin_cases r
    · exact h0
    · exact h1
    · exact h2
    · exact h3
  · obtain ⟨h0, h1, h2, h3⟩ := hcolumn t[4] t[5] t[6] t[7]
    fin_cases r
    · exact h0
    · exact h1
    · exact h2
    · exact h3
  · obtain ⟨h0, h1, h2, h3⟩ := hcolumn t[8] t[9] t[10] t[11]
    fin_cases r
    · exact h0
    · exact h1
    · exact h2
    · exact h3
  · obtain ⟨h0, h1, h2, h3⟩ := hcolumn t[12] t[13] t[14] t[15]
    fin_cases r
    · exact h0
    · exact h1
    · exact h2
    · exact h3

/-! ## The key schedule -/

variable (key : Block)

theorem word_first (i : Nat) (r : Fin 4) :
    word key (4 * (i + 1)) r =
      word key (4 * i) r ^^^ (sbox (word key (4 * i + 3) (r + 1)) ^^^ rcon (i + 1) r) := by
  rw [word, dif_neg (by omega), if_pos (by omega)]
  rw [show 4 * (i + 1) - 4 = 4 * i by omega, show 4 * (i + 1) - 1 = 4 * i + 3 by omega,
    show 4 * (i + 1) / 4 = i + 1 by omega]
  rfl

theorem word_next (i : Nat) {c : Nat} (hc : c < 3) (r : Fin 4) :
    word key (4 * (i + 1) + (c + 1)) r =
      word key (4 * i + (c + 1)) r ^^^ word key (4 * (i + 1) + c) r := by
  rw [word, dif_neg (by omega), if_neg (by omega)]
  rw [show 4 * (i + 1) + (c + 1) - 4 = 4 * i + (c + 1) by omega,
    show 4 * (i + 1) + (c + 1) - 1 = 4 * (i + 1) + c by omega]

theorem nextRoundKey_first (i : Nat) (k : Block) (r : Fin 4) :
    stateOf (AesEncryption.nextRoundKey i k) r 0 =
      stateOf k r 0 ^^^ (AesEncryption.sbox (stateOf k (r + 1) 3) ^^^ if r = 0 then
        AesEncryption.Rcon i else 0) := by
  fin_cases r
  · rfl
  · exact congrArg (k[1] ^^^ ·) (UInt8.xor_zero).symm
  · exact congrArg (k[2] ^^^ ·) (UInt8.xor_zero).symm
  · exact congrArg (k[3] ^^^ ·) (UInt8.xor_zero).symm

theorem nextRoundKey_next (i : Nat) (k : Block) (r : Fin 4) (c : Fin 3) :
    stateOf (AesEncryption.nextRoundKey i k) r c.succ =
      stateOf k r c.succ ^^^ stateOf (AesEncryption.nextRoundKey i k) r c.castSucc := by
  fin_cases c <;> fin_cases r <;> rfl

theorem stateOf_keyExpansion {i : Nat} (h : i ≤ 10) :
    stateOf (AesEncryption.keyExpansion key i) = roundKey key i := by
  induction i with
  | zero =>
    funext r c
    unfold roundKey
    rw [word, dif_pos (by omega)]
    simp [stateOf, AesEncryption.keyExpansion]
  | succ i ih =>
    have ih := ih (by omega)
    funext r c
    show stateOf (AesEncryption.nextRoundKey (i + 1) (AesEncryption.keyExpansion key i)) r c =
      word key (4 * (i + 1) + c) r
    -- along the columns, each from the one before
    induction c using Fin.induction with
    | zero =>
      rw [nextRoundKey_first, ih, sbox_eq]
      refine Eq.trans ?_ (word_first key i r).symm
      have hrcon : (if r = 0 then AesEncryption.Rcon (i + 1) else 0) = rcon (i + 1) r := by
        split
        · next hr => rw [hr, rcon_zero (by omega)]
        · next hr => exact (if_neg hr).symm
      rw [hrcon]
      rfl
    | succ c ihc =>
      rw [nextRoundKey_next, ih, ihc]
      exact (word_next key i c.isLt r).symm

/-! ## Blocks -/

theorem stateOf_encryptRounds (state : Block) {n : Nat} (h : n ≤ 9) :
    stateOf (AesEncryption.encryptRounds (AesEncryption.keyExpansion key) n state) =
      cipherRounds key n (stateOf state) := by
  induction n with
  | zero => rfl
  | succ n ih =>
    unfold AesEncryption.encryptRounds cipherRounds
    rw [stateOf_xorBlock, stateOf_mixColumns, stateOf_subShift, stateOf_keyExpansion key (by omega),
      ih (by omega)]

/-- **`EncryptBlock` is AES-128.** -/
theorem encryptBlock_eq_cipher (block : Block) :
    AesEncryption.encryptBlock (AesEncryption.keyExpansion key) block = cipher key block := by
  rw [← output_stateOf (AesEncryption.encryptBlock _ _)]
  unfold AesEncryption.encryptBlock cipher
  rw [stateOf_xorBlock, stateOf_subShift, stateOf_encryptRounds key _ (Nat.le_refl 9),
    stateOf_xorBlock, stateOf_keyExpansion key (by decide),
    stateOf_keyExpansion key (Nat.le_refl 10)]

end Fips197

/-! ## Inverses -/

namespace AesEncryption

instance finite_byte : Finite UInt8 :=
  Finite.of_injective UInt8.toFin fun _ _ h => UInt8.toFin_inj.mp h

instance finite_block : Finite Block :=
  Finite.of_injective (fun (b : Block) (i : Fin 16) => b[i]) fun _ _ h => Vector.ext fun i hi =>
    congrFun h ⟨i, hi⟩

/-- There are finitely many blocks, so the inverse on one side is the inverse on the other. -/
theorem encryptBlock_decryptBlock (roundKey : Nat → Block) (input : Block) :
    encryptBlock roundKey (decryptBlock roundKey input) = input := by
  have hleft : Function.LeftInverse (decryptBlock roundKey) (encryptBlock roundKey) :=
    decryptBlock_encryptBlock roundKey
  have hsurj : Function.Surjective (encryptBlock roundKey) :=
    Finite.surjective_of_injective hleft.injective
  exact hleft.rightInverse_of_surjective hsurj input

theorem encryptLoop_decryptLoop (roundKey : Nat → Block) {src dest : Nat → UInt8}
    {n : Nat} {iv : Block} (h : slice dest 0 (16 * n) = decryptLoop roundKey src n 0 iv) :
    encryptLoop roundKey dest n 0 iv = slice src 0 (16 * n) := by
  rw [decryptLoop_eq, ← flatMap_blocksFrom] at h
  rw [encryptLoop_eq, flatMap_toList_inj h, Cbc.encrypt_decrypt _ _ _ xorBlock_self_right
    (encryptBlock_decryptBlock roundKey), flatMap_blocksFrom]

end AesEncryption

open AesEncryption

theorem aes_roundtrip_back (key iv : Block) {src dest : Nat → UInt8} {n : Nat} (hn : n % 16 = 0)
    (h : slice dest 0 n = (aesEncryption key iv).decrypt src n) :
    (aesEncryption key iv).encrypt dest n = slice src 0 n := by
  have hrounds := (rounds_eq_iff n).mpr hn
  show encryptLoop _ dest (rounds n) 0 iv = _
  have hslice : slice dest 0 (16 * rounds n) =
      decryptLoop (keyExpansion key) src (rounds n) 0 iv := by
    rw [hrounds]
    exact h
  rw [encryptLoop_decryptLoop _ hslice, hrounds]

/-- **AES is right**: a block is encrypted as the standard has it, decryption is the inverse, and so
it is for byte strings of whole blocks in CBC mode, wherever they are in memory. -/
theorem aes_correct (key iv : Block) :
    (∀ block, encryptBlock (keyExpansion key) block = Fips197.cipher key block) ∧
    (∀ block, decryptBlock (keyExpansion key) (encryptBlock (keyExpansion key) block) = block ∧
      encryptBlock (keyExpansion key) (decryptBlock (keyExpansion key) block) = block) ∧
    ∀ (src dest : Nat → UInt8) (x : List UInt8), x.length % 16 = 0 →
      (aesEncryption key iv).decrypt
      (write dest 0 ((aesEncryption key iv).encrypt (write src 0 x) x.length)) x.length = x ∧
      (aesEncryption key iv).encrypt
        (write dest 0 ((aesEncryption key iv).decrypt (write src 0 x) x.length)) x.length = x := by
  refine ⟨Fips197.encryptBlock_eq_cipher key, fun block => ⟨decryptBlock_encryptBlock _ block,
    encryptBlock_decryptBlock _ block⟩, fun src dest x hx => ?_⟩
  have hsrc : slice (write src 0 x) 0 x.length = x := slice_write_self src 0 x
  -- what a call wrote is read back, since it wrote `x.length` bytes
  have hdest : ∀ out : List UInt8, out.length = 16 * rounds x.length →
      slice (write dest 0 out) 0 x.length = out := by
    intro out hlen
    have hself := slice_write_self dest 0 out
    rwa [hlen, (rounds_eq_iff x.length).mpr hx] at hself
  constructor
  · exact (aes_roundtrip key iv hx (hdest _ (aes_encrypt_length ..))).trans hsrc
  · exact (aes_roundtrip_back key iv hx (hdest _ (aes_decrypt_length ..))).trans hsrc

def countingKey : Block := Vector.ofFn fun i => UInt8.ofNat i

theorem aes_correct_counting :
    Fips197.cipher countingKey (Vector.ofFn fun i => UInt8.ofNat (17 * i)) =
      #v[0x69, 0xc4, 0xe0, 0xd8, 0x6a, 0x7b, 0x04, 0x30, 0xd8, 0xcd, 0xb7, 0x80, 0x70,
        0xb4, 0xc5, 0x5a] ∧
    (aesEncryption countingKey countingKey).decrypt
      (write (fun _ => 0) 0
        ((aesEncryption countingKey countingKey).encrypt
        (write (fun _ => 0) 0 (List.replicate 32 7)) 32))
      32 = List.replicate 32 7 := by
  obtain ⟨hcipher, -, hloops⟩ := aes_correct countingKey countingKey
  refine ⟨?_, (hloops _ _ (List.replicate 32 7) (by decide)).1⟩
  rw [← hcipher]
  decide +kernel

end ToyServer
