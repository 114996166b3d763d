import Mathlib.Dynamics.PeriodicPts.Lemmas
import ToyServer.Game.HpBroadcast

/-!
# `FastRandom`

Two words; a call of `Next` moves the second to the front and puts a mix of both behind it.  Both
parts of the mix, `x ^ x << 23` and `x ^ x >> 18`, are invertible: a bit of the result and the bits
of `x` on one side of it give the bit of `x` (`xor_shiftLeft_injective`,
`xor_shiftRight_injective`).  So `Next` is a bijection (`generator_state`).
-/

namespace ToyServer.Utility

theorem xor_shiftLeft_injective {w n : Nat} (hn : 0 < n) :
    Function.Injective fun x : BitVec w => x ^^^ x <<< n := by
  intro x y hxy
  have hbit : ∀ i, i < w → x.getLsbD i = y.getLsbD i := by
    intro i
    induction i using Nat.strong_induction_on with
    | _ i ih =>
      intro hi
      have h := congrArg (BitVec.getLsbD · i) hxy
      simp only [BitVec.getLsbD_xor, BitVec.getLsbD_shiftLeft, hi, decide_true, Bool.true_and] at h
      by_cases hlow : i < n
      · simpa [hlow] using h
      · rw [ih (i - n) (by omega) (by omega)] at h
        exact Bool.xor_left_inj.mp h
  exact BitVec.eq_of_getLsbD_eq hbit

theorem xor_shiftRight_injective {w n : Nat} (hn : 0 < n) :
    Function.Injective fun x : BitVec w => x ^^^ x >>> n := by
  intro x y hxy
  -- the bits from the top
  have hbit : ∀ k i, w ≤ i + k → x.getLsbD i = y.getLsbD i := by
    intro k
    induction k with
    | zero =>
      intro i hi
      rw [BitVec.getLsbD_of_ge x i hi, BitVec.getLsbD_of_ge y i hi]
    | succ k ih =>
      intro i hi
      have h := congrArg (BitVec.getLsbD · i) hxy
      simp only [BitVec.getLsbD_xor, BitVec.getLsbD_ushiftRight, ih (n + i) (by omega)] at h
      exact Bool.xor_left_inj.mp h
  exact BitVec.eq_of_getLsbD_eq fun i _ => hbit w i (by omega)

structure FastRandom where
  state0 : UInt64
  state1 : UInt64
deriving DecidableEq

namespace FastRandom

/-- `Next`, with the state it leaves. -/
def next (g : FastRandom) : UInt64 × FastRandom :=
  let s1 := g.state0
  let s0 := g.state1
  let s1 := s1 ^^^ s1 <<< 23
  let state1 := s1 ^^^ s0 ^^^ s1 >>> 18 ^^^ s0 >>> 5
  (state1 + s0, ⟨s0, state1⟩)

def advance (g : FastRandom) : FastRandom := g.next.2

/-- The constructor, which calls `Next` ten times. -/
def make (seed : UInt64) : FastRandom := advance^[10] ⟨seed, seed ^^^ 0x123456789ABCDEF⟩

/-- `NextFloat`: 24 bits, as a `float`. -/
def nextFloat (g : FastRandom) : ℚ := SimpleGame.floatOfInt (g.next.1 >>> 40).toNat / 16777216

theorem advance_injective : Function.Injective advance := by
  rintro ⟨a, b⟩ ⟨a', b'⟩ h
  simp only [advance, next, FastRandom.mk.injEq] at h
  obtain ⟨rfl, h⟩ := h
  have hswap : ∀ x y : UInt64, x ^^^ b ^^^ y = x ^^^ y ^^^ b := by
    intro x y
    rw [UInt64.xor_assoc, UInt64.xor_comm b, UInt64.xor_assoc]
  -- what is left of the equation is about the first words alone
  rw [UInt64.xor_left_inj, hswap, hswap, UInt64.xor_left_inj] at h
  have hright :=
    xor_shiftRight_injective (w := 64) (n := 18) (by decide) (congrArg UInt64.toBitVec h)
  have hleft := xor_shiftLeft_injective (w := 64) (n := 23) (by decide) hright
  rw [UInt64.toBitVec_inj.mp hleft]

instance finite : Finite FastRandom := by
  refine Finite.of_injective (fun g => (g.state0.toFin, g.state1.toFin)) ?_
  rintro ⟨a, b⟩ ⟨a', b'⟩ h
  obtain ⟨ha, hb⟩ := Prod.mk.inj h
  exact congrArg₂ FastRandom.mk (UInt64.toFin_inj.mp ha) (UInt64.toFin_inj.mp hb)

theorem iterate_make_ne_zero (seed : UInt64) (n : Nat) : advance^[n] (make seed) ≠ ⟨0, 0⟩ := by
  have hzero : ∀ k, advance^[k] ⟨0, 0⟩ = (⟨0, 0⟩ : FastRandom) :=
    fun k => Function.iterate_fixed (by decide) k
  unfold make
  rw [← Function.iterate_add_apply]
  intro h
  have hstart := advance_injective.iterate (n + 10) (h.trans (hzero _).symm)
  simp only [FastRandom.mk.injEq] at hstart
  obtain ⟨rfl, hseed⟩ := hstart
  exact absurd hseed (by decide)

theorem nextFloat_eq (g : FastRandom) : ∃ k : Nat, k < 2 ^ 24 ∧ g.nextFloat = (k : ℚ) / 2 ^ 24 := by
  have hlt : (g.next.1 >>> 40).toNat < 2 ^ 24 := by
    have := g.next.1.toNat_lt
    rw [UInt64.toNat_shiftRight, Nat.shiftRight_eq_div_pow]
    change g.next.1.toNat / 2 ^ 40 < 2 ^ 24
    omega
  refine ⟨_, hlt, ?_⟩
  unfold nextFloat
  rw [SimpleGame.floatOfInt_eq (by omega), Int.cast_natCast,
    show (16777216 : ℚ) = 2 ^ 24 by norm_num]

/-- **The generator**: it is never all zero, `Next` is a bijection of the states, every state comes
back, two seeds have two states after equally many calls, and `NextFloat` gives `k / 2 ^ 24` with `k
< 2 ^ 24`. -/
theorem generator_state :
    (∀ seed n, advance^[n] (make seed) ≠ ⟨0, 0⟩) ∧ Function.Bijective advance ∧
      (∀ g, ∃ k > 0, advance^[k] g = g) ∧
      (∀ n, Function.Injective fun seed => advance^[n] (make seed)) ∧
      ∀ g : FastRandom, (∃ k : Nat, k < 2 ^ 24 ∧ g.nextFloat = (k : ℚ) / 2 ^ 24) ∧ 0 ≤ g.nextFloat ∧
      g.nextFloat < 1 := by
  refine ⟨iterate_make_ne_zero, Finite.injective_iff_bijective.mp advance_injective, fun g => ?_,
    fun n => ?_, fun g => ?_⟩
  · exact Function.mem_periodicPts.mp (advance_injective.mem_periodicPts g)
  · intro seed seed' h
    have hmade := advance_injective.iterate 10 (advance_injective.iterate n h)
    exact (FastRandom.mk.inj hmade).1
  · obtain ⟨k, hk, he⟩ := nextFloat_eq g
    refine ⟨⟨k, hk, he⟩, by rw [he]; positivity, ?_⟩
    rw [he, div_lt_one (by norm_num)]
    exact_mod_cast hk

end FastRandom

end ToyServer.Utility
