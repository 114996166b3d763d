import ToyServer.Game.LevelUpManager

/-!
# The random choice of options

`SelectRandom` draws without replacement, each draw by the weights that are left.

    (∃ rnd, selectRandom data rnd pool count = sel) ↔ Selection data pool count sel

(`weighted_choice`).  `rnd` stands for the generator, `Selection` for what may come out: the whole
pool if it is no larger than `count`, and otherwise options of positive weight from different
positions, as many as there are up to `count`.
-/

namespace ToyServer.SimpleGame.LevelUpManager

variable {data : DataManager} {pool : List LevelUpOption}

def positives (data : DataManager) (pool : List LevelUpOption) : Nat :=
  pool.countP fun opt => 0 < weight data opt

/-- What `n` draws give: a part of the pool, in any order. -/
structure Drawn (data : DataManager) (n : Nat) (pool sel : List LevelUpOption) : Prop where
  positions : sel.Subperm pool
  positive : ∀ opt ∈ sel, 0 < weight data opt
  length : sel.length = min n (positives data pool)

def Selection (data : DataManager) (pool : List LevelUpOption) (count : Nat)
    (sel : List LevelUpOption) : Prop :=
  if pool.length ≤ count then sel = pool else Drawn data count pool sel

/-! ## One draw -/

theorem total_nonneg (hw : ∀ opt ∈ pool, 0 ≤ weight data opt) : 0 ≤ (pool.map (weight data)).sum :=
  List.sum_nonneg fun x hx => by
    obtain ⟨opt, hopt, rfl⟩ := List.mem_map.mp hx
    exact hw opt hopt

variable {pre post : List LevelUpOption} {opt : LevelUpOption}

theorem weights_of_middle (hw : ∀ o ∈ pre ++ opt :: post, 0 ≤ weight data o) :
    ∀ o ∈ pre ++ post, 0 ≤ weight data o :=
  fun o ho => hw o (((List.sublist_cons_self opt post).append_left pre).subset ho)

/-- A value below the total weight hits an option of positive weight. -/
theorem pick_eq {value cumulative : Int} (hw : ∀ opt ∈ pool, 0 ≤ weight data opt)
    (hlow : cumulative ≤ value) (hhigh : value < cumulative + (pool.map (weight data)).sum) :
    ∃ pre opt post, pool = pre ++ opt :: post ∧ 0 < weight data opt ∧
      pick data value cumulative pool = ([opt], pre ++ post) := by
  induction pool generalizing cumulative with
  | nil =>
    rw [List.map_nil, List.sum_nil] at hhigh
    omega
  | cons o pool ih =>
    rw [List.map_cons, List.sum_cons] at hhigh
    unfold pick
    dsimp only
    split
    · exact ⟨[], o, pool, rfl, by omega, rfl⟩
    · next hnot =>
      obtain ⟨pre, opt, post, rfl, hpos, heq⟩ :=
        ih (fun x hx => hw x (List.mem_cons_of_mem _ hx)) (not_lt.mp hnot) (by omega)
      rw [heq]
      exact ⟨o :: pre, opt, post, rfl, hpos, rfl⟩

theorem pick_append (hw : ∀ o ∈ pre, 0 ≤ weight data o) (hpos : 0 < weight data opt)
    (cumulative : Int) :
    pick data (cumulative + (pre.map (weight data)).sum) cumulative (pre ++ opt :: post) =
      ([opt], pre ++ post) := by
  induction pre generalizing cumulative with
  | nil =>
    rw [List.map_nil, List.sum_nil, add_zero, List.nil_append, pick]
    exact if_pos (by omega)
  | cons o pre ih =>
    have hrest := fun x hx => hw x (List.mem_cons_of_mem _ hx)
    have hsum := total_nonneg hrest
    rw [List.cons_append, pick, List.map_cons, List.sum_cons, ← add_assoc,
      if_neg (by omega), ih hrest]
    rfl

theorem positives_middle (hpos : 0 < weight data opt) :
    positives data (pre ++ opt :: post) = positives data (pre ++ post) + 1 := by
  unfold positives
  rw [List.perm_middle.countP_eq, List.countP_cons, if_pos (decide_eq_true hpos)]

theorem total_pos_iff (hw : ∀ opt ∈ pool, 0 ≤ weight data opt) :
    0 < (pool.map (weight data)).sum ↔ 0 < positives data pool := by
  induction pool with
  | nil => simp [positives]
  | cons o pool ih =>
    have hrest := fun x hx => hw x (List.mem_cons_of_mem _ hx)
    have hsum := total_nonneg hrest
    have ho := hw o List.mem_cons_self
    have hih := ih hrest
    unfold positives at hih ⊢
    rw [List.map_cons, List.sum_cons, List.countP_cons]
    by_cases hpos : 0 < weight data o
    · rw [if_pos (decide_eq_true hpos)]
      omega
    · rw [if_neg (by simpa using hpos)]
      omega

/-! ## All draws -/

theorem drawn_nil (n : Nat) (h : positives data pool = 0) : Drawn data n pool [] :=
  ⟨List.nil_subperm,
    fun _ hx => absurd hx List.not_mem_nil, by rw [h, Nat.min_zero, List.length_nil]⟩

theorem drawn_cons_iff {sel : List LevelUpOption} {n : Nat} (hpos : 0 < weight data opt) :
    Drawn data (n + 1) (pre ++ opt :: post) (opt :: sel) ↔ Drawn data n (pre ++ post) sel := by
  have hperm : (pre ++ opt :: post).Perm (opt :: (pre ++ post)) := List.perm_middle
  constructor
  · rintro ⟨hsub, hall, hlen⟩
    rw [positives_middle hpos, List.length_cons] at hlen
    exact ⟨(List.subperm_cons opt).mp (hperm.subperm_left.mp hsub),
      fun x hx => hall x (List.mem_cons_of_mem _ hx), by omega⟩
  · rintro ⟨hsub, hall, hlen⟩
    refine ⟨hperm.subperm_left.mpr ((List.subperm_cons opt).mpr hsub), fun x hx => ?_, ?_⟩
    · rcases List.mem_cons.mp hx with rfl | hx
      · exact hpos
      · exact hall x hx
    · rw [positives_middle hpos, List.length_cons]
      omega

/-- **What the loop draws may come out**, whatever the generator gives. -/
theorem drawn_draw (rnd : Nat → Nat) (n : Nat) (hw : ∀ opt ∈ pool, 0 ≤ weight data opt) :
    Drawn data n pool (draw data rnd n pool) := by
  induction n generalizing pool with
  | zero => exact ⟨List.nil_subperm, fun _ hx => absurd hx List.not_mem_nil, (Nat.zero_min _).symm⟩
  | succ n ih =>
    unfold draw
    dsimp only
    split
    · next hle =>
      exact drawn_nil _
        (Nat.eq_zero_of_not_pos fun hpos => not_lt.mpr hle ((total_pos_iff hw).mpr hpos))
    · next hnot =>
      have htotal := not_le.mp hnot
      obtain ⟨pre, opt, post, rfl, hpos, heq⟩ := pick_eq hw
        (show 0 ≤ (rnd n : Int) % (pool.map (weight data)).sum from Int.emod_nonneg _ htotal.ne')
        (by rw [zero_add]; exact Int.emod_lt_of_pos _ htotal)
      rw [heq]
      exact (drawn_cons_iff hpos).mpr (ih (weights_of_middle hw))

theorem draw_congr {rnd rnd' : Nat → Nat} {n : Nat} (h : ∀ i < n, rnd i = rnd' i)
    (pool : List LevelUpOption) : draw data rnd n pool = draw data rnd' n pool := by
  induction n generalizing pool with
  | zero => rfl
  | succ n ih =>
    unfold draw
    rw [h n n.lt_succ_self]
    simp only [ih fun i hi => h i (hi.trans n.lt_succ_self)]

theorem exists_draw {n : Nat} {sel : List LevelUpOption} (hw : ∀ opt ∈ pool, 0 ≤ weight data opt)
    (h : Drawn data n pool sel) : ∃ rnd, draw data rnd n pool = sel := by
  induction n generalizing pool sel with
  | zero => exact ⟨fun _ => 0, (List.length_eq_zero_iff.mp (h.length.trans (Nat.zero_min _))).symm⟩
  | succ n ih =>
    cases sel with
    | nil =>
      have hnone : positives data pool = 0 := by
        have hlen := h.length
        rw [List.length_nil] at hlen
        omega
      refine ⟨fun _ => 0, ?_⟩
      unfold draw
      exact if_pos (not_lt.mp fun htotal => (((total_pos_iff hw).mp htotal).ne' hnone))
    | cons o sel =>
      have hpos := h.positive o List.mem_cons_self
      obtain ⟨pre, post, rfl⟩ := List.append_of_mem (h.positions.subset List.mem_cons_self)
      have hpre : ∀ x ∈ pre, 0 ≤ weight data x := fun x hx => hw x (List.mem_append_left _ hx)
      obtain ⟨rnd, hrnd⟩ := ih (weights_of_middle hw) ((drawn_cons_iff hpos).mp h)
      -- the next value is the weight before the option
      have hsum := total_nonneg hpre
      have htail :=
        total_nonneg fun x hx => hw x (List.mem_append_right _ (List.mem_cons_of_mem _ hx))
      have htotal : ((pre ++ o :: post).map (weight data)).sum =
          (pre.map (weight data)).sum + (weight data o + (post.map (weight data)).sum) := by
        rw [List.map_append, List.sum_append, List.map_cons, List.sum_cons]
      have hvalue : ((pre.map (weight data)).sum.toNat : Int) %
          ((pre ++ o :: post).map (weight data)).sum = 0 + (pre.map (weight data)).sum := by
        rw [Int.toNat_of_nonneg hsum, zero_add, htotal]
        exact Int.emod_eq_of_lt hsum (by omega)
      refine ⟨Function.update rnd n (pre.map (weight data)).sum.toNat, ?_⟩
      unfold draw
      dsimp only
      rw [if_neg (by omega), Function.update_self, hvalue, pick_append hpre hpos]
      dsimp only
      rw [draw_congr (fun i hi => Function.update_of_ne hi.ne _ _), hrnd]
      rfl

/-- **What `SelectRandom` returns**, over all outcomes of the draws. -/
theorem weighted_choice (data : DataManager) (pool : List LevelUpOption) (count : Nat)
    (hw : ∀ opt ∈ pool, 0 ≤ weight data opt) (sel : List LevelUpOption) :
    (∃ rnd, selectRandom data rnd pool count = sel) ↔ Selection data pool count sel := by
  unfold selectRandom Selection
  split
  · constructor
    · rintro ⟨-, h⟩
      exact h.symm
    · exact fun h => ⟨fun _ => 0, h.symm⟩
  · constructor
    · rintro ⟨rnd, rfl⟩
      exact drawn_draw rnd count hw
    · exact exists_draw hw

/-- Two options that no table has: their weight is 100. -/
def unlisted (optionId : Int) : LevelUpOption := ⟨optionId, .weapon, 900 + optionId, "", "", true⟩

theorem weighted_choice_second : ∃ rnd, selectRandom smallData rnd
    [unlisted 0, unlisted 1] 1 = [unlisted 1] := by
  have hdrawn : Drawn smallData 1 [unlisted 0, unlisted 1] [unlisted 1] :=
    ⟨(List.sublist_cons_self _ _).subperm, by decide, by decide⟩
  exact (weighted_choice smallData [unlisted 0, unlisted 1] 1 (by decide) [unlisted 1]).mpr hdrawn

end ToyServer.SimpleGame.LevelUpManager
