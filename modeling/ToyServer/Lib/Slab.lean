import Mathlib.Algebra.Order.Field.Basic
import Mathlib.Order.WithBot
import Mathlib.Tactic

/-!
# When a moving point is between two bounds

A point `x + s * d` moves along an axis.  `near` and `far` are the times at which it passes the
bounds `lo` and `hi`; they are infinite when it does not move.  A point strictly between the bounds
is strictly between the times (`between_of_inside`), and at the times between them it is between the
bounds (`inside_of_between`).
-/

namespace Slab

/-- Times with both infinities. -/
abbrev Time (K : Type) := WithBot (WithTop K)

def fin {K : Type} (s : K) : Time K := ((s : WithTop K) : Time K)

def toFin {K : Type} (d : K) : Time K → K
  | some (some s) => s
  | _ => d

section
variable {K : Type} [LinearOrder K]

@[simp] theorem fin_le {s t : K} : fin s ≤ fin t ↔ s ≤ t := by simp [fin]

@[simp] theorem fin_lt {s t : K} : fin s < fin t ↔ s < t := by simp [fin]

theorem bot_lt_fin (s : K) : ⊥ < fin s := WithBot.bot_lt_coe _

theorem fin_lt_top (s : K) : fin s < ⊤ := WithBot.coe_lt_coe.mpr (WithTop.coe_lt_top s)

theorem exists_fin {t : Time K} {a b : K} (ha : fin a ≤ t) (hb : t ≤ fin b) : ∃ s, t = fin s := by
  induction t using WithBot.recBotCoe with
  | bot => exact absurd ha (not_le.mpr (bot_lt_fin a))
  | coe t =>
    induction t using WithTop.recTopCoe with
    | top => exact absurd hb (not_le.mpr (fin_lt_top b))
    | coe s => exact ⟨s, rfl⟩

end

variable {K : Type} [Field K] [LinearOrder K] [IsStrictOrderedRing K] {lo hi x d s : K}

def near (lo hi x d : K) : Time K := if d = 0 then ⊥ else fin (min ((lo - x) / d) ((hi - x) / d))

def far (lo hi x d : K) : Time K := if d = 0 then ⊤ else fin (max ((lo - x) / d) ((hi - x) / d))

theorem between_of_inside (hlo : lo < x + s * d) (hhi : x + s * d < hi) :
    near lo hi x d < fin s ∧ fin s < far lo hi x d := by
  unfold near far
  split
  · exact ⟨bot_lt_fin s, fin_lt_top s⟩
  · next hd =>
    rw [fin_lt, fin_lt, min_lt_iff, lt_max_iff]
    rcases lt_or_gt_of_ne hd with hneg | hpos
    · -- moving down, the upper bound comes first
      refine ⟨Or.inr ?_, Or.inl ?_⟩
      · rw [div_lt_iff_of_neg hneg]
        linarith
      · rw [lt_div_iff_of_neg hneg]
        linarith
    · refine ⟨Or.inl ?_, Or.inr ?_⟩
      · rw [div_lt_iff₀ hpos]
        linarith
      · rw [lt_div_iff₀ hpos]
        linarith

theorem inside_of_between (hle : lo ≤ hi) (hrest : d = 0 → lo ≤ x ∧ x ≤ hi)
    (hnear : near lo hi x d ≤ fin s) (hfar : fin s ≤ far lo hi x d) :
    lo ≤ x + s * d ∧ x + s * d ≤ hi := by
  unfold near at hnear
  unfold far at hfar
  by_cases hd : d = 0
  · rw [hd, mul_zero, add_zero]
    exact hrest hd
  · rw [if_neg hd, fin_le] at hnear hfar
    rcases lt_or_gt_of_ne hd with hneg | hpos
    · have hswap : (hi - x) / d ≤ (lo - x) / d := div_le_div_of_nonpos_of_le hneg.le (by linarith)
      rw [min_eq_right hswap, div_le_iff_of_neg hneg] at hnear
      rw [max_eq_left hswap, le_div_iff_of_neg hneg] at hfar
      exact ⟨by linarith, by linarith⟩
    · have horder : (lo - x) / d ≤ (hi - x) / d := div_le_div_of_nonneg_right (by linarith) hpos.le
      rw [min_eq_left horder, div_le_iff₀ hpos] at hnear
      rw [max_eq_right horder, le_div_iff₀ hpos] at hfar
      exact ⟨by linarith, by linarith⟩

end Slab
