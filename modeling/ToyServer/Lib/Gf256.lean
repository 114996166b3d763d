import Mathlib.RingTheory.AdjoinRoot
import Mathlib.Tactic

/-!
# Bytes as polynomials

The bits of a byte are the coefficients of a polynomial of `ZMod 2` (`poly`), and bytes are
multiplied as polynomials modulo `x⁸ + x⁴ + x³ + x + 1` (`mul`).  `val` is the residue class of a
byte: it is injective and turns `^^^` into `+` and `mul` into `*` (`val_injective`, `val_xor`,
`val_mul`), so an equation between bytes is proved in the quotient ring.

`double` and `times` are the product by `x` and the product of two bytes as one computes them, by
shifting and adding (`mul_two`, `mul_eq_times`).
-/

namespace Gf256

open Polynomial

def bit (a : UInt8) (i : Nat) : Bool := a.toNat.testBit i

/-- The byte with these bits, the lowest first. -/
def ofBits (f : Fin 8 → Bool) : UInt8 := UInt8.ofNat (Nat.ofBits f)

/-- Shift, and reduce with `x⁸ = x⁴ + x³ + x + 1`. -/
def double (a : UInt8) : UInt8 := (a <<< 1) ^^^ ((a >>> 7) * 0x1b)

/-- Add and double, from the highest bit of `b` on. -/
def times (a b : UInt8) : UInt8 :=
  (List.range 8).foldr (fun i acc => (if bit b i then a else 0) ^^^ double acc) 0

noncomputable section

def modulus : (ZMod 2)[X] := X ^ 8 + X ^ 4 + X ^ 3 + X + 1

def poly (a : UInt8) : (ZMod 2)[X] := ∑ i ∈ Finset.range 8, monomial i (if bit a i then 1 else 0)

def ofPoly (p : (ZMod 2)[X]) : UInt8 := ofBits fun i => decide (p.coeff i = 1)

def mul (a b : UInt8) : UInt8 := ofPoly ((poly a * poly b) %ₘ modulus)

/-- The inverse of a byte; zero is its own. -/
def inv (a : UInt8) : UInt8 := if a = 0 then 0 else Function.invFun (mul a) 1

/-! ## Bits and coefficients -/

variable (a b : UInt8)

theorem bit_of_le {i : Nat} (h : 8 ≤ i) : bit a i = false :=
  Nat.testBit_lt_two_pow (a.toNat_lt.trans_le (Nat.pow_le_pow_right (by decide) h))

theorem eq_of_bit {a b : UInt8} (h : ∀ i < 8, bit a i = bit b i) : a = b := by
  refine UInt8.toNat_inj.mp (Nat.eq_of_testBit_eq fun i => ?_)
  by_cases hi : i < 8
  · exact h i hi
  · exact (bit_of_le a (Nat.le_of_not_lt hi)).trans (bit_of_le b (Nat.le_of_not_lt hi)).symm

theorem bit_xor (i : Nat) : bit (a ^^^ b) i = (bit a i ^^ bit b i) := by
  unfold bit
  rw [UInt8.toNat_xor, Nat.testBit_xor]

theorem bit_ofBits (f : Fin 8 → Bool) {i : Nat} (h : i < 8) : bit (ofBits f) i = f ⟨i, h⟩ := by
  unfold bit ofBits
  rw [UInt8.toNat_ofNat_of_lt' (Nat.ofBits_lt_two_pow f), Nat.testBit_ofBits_lt f i h]

theorem coeff_poly (i : Nat) : (poly a).coeff i = if bit a i then 1 else 0 := by
  unfold poly
  by_cases h : i < 8
  · simp [coeff_monomial, h]
  · simp [coeff_monomial, h, bit_of_le a (Nat.le_of_not_lt h)]

theorem degree_poly : (poly a).degree < 8 := by
  refine (degree_lt_iff_coeff_zero _ 8).mpr fun i hi => ?_
  rw [coeff_poly, bit_of_le a hi]
  rfl

theorem poly_injective : Function.Injective poly := by
  intro a b h
  refine eq_of_bit fun i _ => ?_
  have hc := congrArg (fun p : (ZMod 2)[X] => p.coeff i) h
  simp only [coeff_poly] at hc
  cases ha : bit a i <;> cases hb : bit b i <;> simp_all

theorem poly_xor : poly (a ^^^ b) = poly a + poly b := by
  ext i
  rw [coeff_add, coeff_poly, coeff_poly, coeff_poly, bit_xor]
  cases bit a i <;> cases bit b i <;> decide

/-- A remainder is the polynomial of a byte. -/
theorem poly_ofPoly {p : (ZMod 2)[X]} (h : p.degree < 8) : poly (ofPoly p) = p := by
  ext i
  rw [coeff_poly]
  by_cases hi : i < 8
  · unfold ofPoly
    rw [bit_ofBits _ hi]
    have hc : ∀ c : ZMod 2, (if decide (c = 1) then (1 : ZMod 2) else 0) = c := by decide
    exact hc (p.coeff i)
  · rw [bit_of_le _ (Nat.le_of_not_lt hi),
      (degree_lt_iff_coeff_zero p 8).mp h i (Nat.le_of_not_lt hi)]
    rfl

theorem monic_modulus : modulus.Monic := by
  unfold modulus
  monicity!

theorem degree_modulus : modulus.degree = 8 := by
  unfold modulus
  compute_degree!

/-! ## Residues -/

def val (a : UInt8) : AdjoinRoot modulus := AdjoinRoot.mk modulus (poly a)

/-- The residue of `x`. -/
def root : AdjoinRoot modulus := AdjoinRoot.root modulus

def coef (b : Bool) : AdjoinRoot modulus := if b then 1 else 0

theorem val_injective : Function.Injective val := by
  intro a b h
  have hdvd := AdjoinRoot.mk_eq_mk.mp h
  have hdeg : (poly a - poly b).degree < modulus.degree := by
    rw [degree_modulus]
    exact (degree_sub_le _ _).trans_lt (max_lt (degree_poly a) (degree_poly b))
  exact poly_injective (sub_eq_zero.mp (eq_zero_of_dvd_of_degree_lt hdvd hdeg))

theorem val_xor : val (a ^^^ b) = val a + val b := by
  unfold val
  rw [poly_xor, map_add]

theorem val_mul : val (mul a b) = val a * val b := by
  unfold val mul
  have hdeg := degree_modByMonic_lt (poly a * poly b) monic_modulus
  rw [degree_modulus] at hdeg
  rw [poly_ofPoly hdeg, ← map_mul, AdjoinRoot.mk_eq_mk]
  exact ⟨-((poly a * poly b) /ₘ modulus), by
    rw [mul_neg, eq_neg_iff_add_eq_zero, sub_add_eq_add_sub, modByMonic_add_div, sub_self]⟩

theorem two_eq_zero : (2 : AdjoinRoot modulus) = 0 := by
  have h : (C 2 : (ZMod 2)[X]) = 0 := by
    rw [show (2 : ZMod 2) = 0 from rfl, C_0]
  rw [← map_ofNat (AdjoinRoot.mk modulus) 2]
  exact (congrArg (AdjoinRoot.mk modulus) h).trans (map_zero _)

theorem root_pow_eight : root ^ 8 = root ^ 4 + root ^ 3 + root + 1 := by
  have h : AdjoinRoot.mk modulus (X ^ 8 + X ^ 4 + X ^ 3 + X + 1) = 0 := AdjoinRoot.mk_self
  simp only [map_add, map_pow, AdjoinRoot.mk_X, map_one] at h
  change root ^ 8 + root ^ 4 + root ^ 3 + root + 1 = 0 at h
  linear_combination h - (root ^ 4 + root ^ 3 + root + 1) * two_eq_zero

theorem coef_xor (a b : Bool) : coef (a ^^ b) = coef a + coef b := by
  cases a <;> cases b <;> simp [coef, ← two_eq_zero, one_add_one_eq_two]

theorem val_eq_sum : val a = ∑ i ∈ Finset.range 8, coef (bit a i) * root ^ i := by
  unfold val poly
  rw [map_sum]
  refine Finset.sum_congr rfl fun i _ => ?_
  rw [← C_mul_X_pow_eq_monomial, map_mul, map_pow, AdjoinRoot.mk_X]
  cases bit a i <;> simp [coef, root]

theorem val_zero : val 0 = 0 := by
  have h := val_xor 0 0
  rwa [UInt8.xor_self, right_eq_add] at h

theorem val_one : val 1 = 1 := by
  have hbit : ∀ i, i < 8 → bit 1 i = decide (i = 0) := by decide
  rw [val_eq_sum, Finset.sum_eq_single 0]
  · simp [hbit, coef]
  · intro i hi hne
    simp [hbit i (Finset.mem_range.mp hi), hne, coef]
  · simp

theorem double_bits_all : ∀ n, n < 256 →
    let a := UInt8.ofNat n
    (List.range 8).map (bit (double a)) =
      [bit a 7, bit a 0 ^^ bit a 7, bit a 1, bit a 2 ^^ bit a 7, bit a 3 ^^ bit a 7, bit a 4,
        bit a 5, bit a 6] := by
  decide +kernel

theorem val_double : val (double a) = root * val a := by
  have h := double_bits_all a.toNat a.toNat_lt
  rw [UInt8.ofNat_toNat] at h
  simp only [List.range, List.range.loop, List.map, List.cons.injEq, and_true] at h
  obtain ⟨h0, h1, h2, h3, h4, h5, h6, h7⟩ := h
  rw [val_eq_sum, val_eq_sum]
  simp only [Finset.sum_range_succ, Finset.sum_range_zero, h0, h1, h2, h3, h4, h5, h6, h7, coef_xor]
  linear_combination -coef (bit a 7) * root_pow_eight

theorem val_times : val (times a b) = val a * val b := by
  have hif : ∀ c : Bool, val (if c then a else 0) = coef c * val a := by
    intro c
    cases c <;> simp [coef, val_zero]
  rw [val_eq_sum b]
  simp only [times, List.range, List.range.loop, List.foldr, val_xor, val_double, hif, val_zero,
    Finset.sum_range_succ, Finset.sum_range_zero]
  ring

/-! ## Products of bytes -/

theorem mul_eq_times : mul a b = times a b :=
  val_injective ((val_mul a b).trans (val_times a b).symm)

theorem mul_two : mul 2 a = double a := by
  refine val_injective ?_
  have htwo : val 2 = root := by
    rw [show (2 : UInt8) = double 1 from rfl, val_double, val_one, mul_one]
  rw [val_mul, val_double, htwo]

theorem mul_three : mul 3 a = double a ^^^ a := by
  refine val_injective ?_
  rw [show (3 : UInt8) = 2 ^^^ 1 from rfl, val_mul, val_xor, val_xor, add_mul, val_one, one_mul,
    ← mul_two, val_mul]

theorem mul_inj_of_inverse {a b c : UInt8} (hb : mul a b = 1) (hc : mul a c = 1) : b = c := by
  have hab : val a * val b = 1 := by rw [← val_mul, hb, val_one]
  have hac : val a * val c = 1 := by rw [← val_mul, hc, val_one]
  refine val_injective ?_
  calc val b = val b * (val a * val c) := by rw [hac, mul_one]
    _ = val a * val b * val c := by ring
    _ = val c := by rw [hab, one_mul]

theorem mul_zero_ne_one : mul 0 b ≠ 1 := by
  intro hb
  have hval := congrArg val hb
  rw [val_mul, val_zero, zero_mul, ← val_zero] at hval
  exact absurd (val_injective hval) (by decide)

theorem inv_eq {a b : UInt8} (h : mul a b = 1) : inv a = b := by
  have ha : a ≠ 0 := by
    rintro rfl
    exact mul_zero_ne_one b h
  unfold inv
  rw [if_neg ha]
  exact mul_inj_of_inverse (Function.invFun_eq ⟨b, h⟩) h

end

end Gf256
