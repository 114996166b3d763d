import Mathlib.Tactic

/-!
# Slots of a radix clock

A level of a hierarchical clock splits time into blocks of `B` ticks and keeps
`R` slots; the item due at `due` sits in slot `due / B % R`.  `Ahead B R now due`
says that the block of `due` is one of the next `R` blocks, so that the slot is
visited exactly once before `due`: at the start of its own block.

* `ahead_of_dist`: an item at distance in `[B, B·R)` may be put on the level;
* `div_eq_of_slot`: when a block starts, the items of its slot are those of the block;
* `ahead_succ_of_slot_ne`, `ahead_succ_of_not_dvd`: all others stay ahead.
-/

namespace Radix

/-- The block of `due` is one of the `R` blocks after the block of `now`. -/
def Ahead (B R now due : Nat) : Prop := now / B < due / B ∧ due / B ≤ now / B + R

variable {B R now due : Nat}

theorem ahead_of_dist (hB : 0 < B) (hlo : now + B ≤ due) (hhi : due < now + B * R) :
    Ahead B R now due := by
  constructor
  · have h := Nat.div_le_div_right (c := B) hlo
    rw [Nat.add_div_right now hB] at h
    omega
  · have h := Nat.div_le_div_right (c := B) hhi.le
    rwa [Nat.add_mul_div_left now R hB] at h

theorem Ahead.lt (h : Ahead B R now due) : now < due := by
  by_contra hle
  have := Nat.div_le_div_right (c := B) (Nat.le_of_not_lt hle)
  have := h.1
  omega

theorem ahead_succ_of_not_dvd (hd : ¬ B ∣ now + 1) (h : Ahead B R now due) :
    Ahead B R (now + 1) due := by
  unfold Ahead at *
  rw [Nat.succ_div_of_not_dvd hd]
  exact h

/-- Two numbers of a window of `R` with the same residue are equal. -/
theorem eq_of_mod_eq_of_window {a b lo : Nat} (ha : lo < a) (ha' : a ≤ lo + R) (hb : lo < b)
    (hb' : b ≤ lo + R) (h : a % R = b % R) : a = b := by
  rcases Nat.le_total a b with hle | hle
  · have hd : R ∣ b - a := (Nat.modEq_iff_dvd' hle).mp h
    rcases Nat.eq_zero_or_pos (b - a) with h0 | hp
    · omega
    · have := Nat.le_of_dvd hp hd
      omega
  · have hd : R ∣ a - b := (Nat.modEq_iff_dvd' hle).mp h.symm
    rcases Nat.eq_zero_or_pos (a - b) with h0 | hp
    · omega
    · have := Nat.le_of_dvd hp hd
      omega

/-- When a block starts, what its slot holds belongs to the block. -/
theorem div_eq_of_slot (hR : 0 < R) (hd : B ∣ now + 1) (h : Ahead B R now due)
    (hs : due / B % R = (now + 1) / B % R) : due / B = (now + 1) / B := by
  rw [Nat.succ_div_of_dvd hd] at hs ⊢
  exact eq_of_mod_eq_of_window h.1 h.2 (Nat.lt_succ_self _) (by omega) hs

theorem ahead_succ_of_slot_ne (hd : B ∣ now + 1) (h : Ahead B R now due)
    (hs : due / B % R ≠ (now + 1) / B % R) : Ahead B R (now + 1) due := by
  obtain ⟨h1, h2⟩ := h
  unfold Ahead
  rw [Nat.succ_div_of_dvd hd] at hs ⊢
  refine ⟨?_, by omega⟩
  rcases Nat.lt_or_eq_of_le (Nat.succ_le_of_lt h1) with h3 | h3
  · exact h3
  · exact absurd (by rw [← h3]) hs

/-- In the block that starts at `now`, every distance is below `B`. -/
theorem dist_of_div_eq (hB : 0 < B) (hd : B ∣ now) (h : due / B = now / B) :
    now ≤ due ∧ due < now + B := by
  have hn := Nat.div_mul_cancel hd
  have h1 := Nat.div_mul_le_self due B
  have h2 := Nat.lt_div_mul_add (a := due) hB
  rw [h, hn] at h1 h2
  exact ⟨h1, h2⟩

/-- A slot can be read from `due` modulo `M`, as long as one turn of the level divides `M`. -/
theorem mod_div_mod {M : Nat} (hM : B * R ∣ M) : due % M / B % R = due / B % R := by
  rw [← Nat.mod_mul_right_div_self (due % M) B R, Nat.mod_mod_of_dvd _ hM,
    Nat.mod_mul_right_div_self]

end Radix
