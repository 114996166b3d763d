import Mathlib.Analysis.SpecialFunctions.Complex.Arg
import ToyServer.Game.SpatialGrid

/-!
# The candidates of projectiles and directional attacks

Both ask the grid for what is near and then test the candidates: a projectile by the sum of the
radii, a directional attack by the box that it turns into its direction.  The radius of the query is
fixed by the projectile, or by the height of the box.  `broad_phase` says for which sizes nothing is
lost anywhere: a projectile has a margin of `1.5`, and the corners of a box are within its height
just when it is at most `√3` times as wide as high.
-/

namespace ToyServer.SimpleGame

open SpatialGrid

/-- The query of `ResolveProjectileCollisions`. -/
def projectileCandidates (g : SpatialGrid) (objMgr : Registry) (proj : GameObject) :
    List GameObject :=
  g.query proj.x proj.y (proj.radius + 3 / 2) objMgr

def InReach (proj monster : GameObject) : Prop :=
  let dx := proj.x - monster.x
  let dy := proj.y - monster.y
  let reach := proj.radius + monster.radius + 1 / 10
  dx * dx + dy * dy ≤ reach * reach

theorem inReach_of_strikes {p : Projectile} {m : Monster} (h : Room.strikes p m = true) :
    InReach p.toGameObject m.toGameObject := by
  unfold Room.strikes at h
  simp only [Bool.and_eq_true, decide_eq_true_eq] at h
  exact h.1.1

def getMonstersInRange (g : SpatialGrid) (objMgr : Registry) (x y radius : ℚ) : List GameObject :=
  (g.query x y radius objMgr).filter isListed

structure DirectionalAttack where
  px : ℚ
  py : ℚ
  dirX : ℚ
  dirY : ℚ
  boxWidth : ℚ
  boxHeight : ℚ

/-- The test of the box, where `sinA` and `cosA` turn it back. -/
def InBox {K : Type} [Field K] [LinearOrder K] (sinA cosA dx dy boxWidth boxHeight : K) : Prop :=
  let localX := dx * cosA - dy * sinA
  let localY := dx * sinA + dy * cosA
  |localX| ≤ boxHeight * (1 / 2) ∧ |localY| ≤ boxWidth * (1 / 2)

namespace DirectionalAttack

variable (a : DirectionalAttack)

def cx : ℚ := a.px + a.dirX * (a.boxHeight * (1 / 2))

def cy : ℚ := a.py + a.dirY * (a.boxHeight * (1 / 2))

/-- `std::atan2(attackDir.y, attackDir.x)` -/
noncomputable def angle : ℝ := Complex.arg ⟨a.dirX, a.dirY⟩

def candidates (g : SpatialGrid) (objMgr : Registry) (a : DirectionalAttack) : List GameObject :=
  getMonstersInRange g objMgr a.cx a.cy a.boxHeight

def Hits (monster : GameObject) : Prop :=
  InBox (Real.sin (-a.angle)) (Real.cos (-a.angle)) (monster.x - a.cx : ℝ) (monster.y - a.cy : ℝ)
    (a.boxWidth : ℝ) (a.boxHeight : ℝ)

end DirectionalAttack

/-! ## Distances -/

theorem InBox.dist_le {K : Type} [Field K] [LinearOrder K] [IsStrictOrderedRing K]
    {s c dx dy w h : K} (hin : InBox s c dx dy w h) (hturn : s ^ 2 + c ^ 2 = 1) :
    dx * dx + dy * dy ≤ (h * h + w * w) / 4 := by
  obtain ⟨hx, hy⟩ := hin
  have hsqX := mul_self_le_mul_self (abs_nonneg _) hx
  have hsqY := mul_self_le_mul_self (abs_nonneg _) hy
  rw [abs_mul_abs_self] at hsqX hsqY
  calc dx * dx + dy * dy = (dx * dx + dy * dy) * (s ^ 2 + c ^ 2) := by rw [hturn, mul_one]
    _ = (dx * c - dy * s) * (dx * c - dy * s) + (dx * s + dy * c) * (dx * s + dy * c) := by ring
    _ ≤ h * (1 / 2) * (h * (1 / 2)) + w * (1 / 2) * (w * (1 / 2)) := add_le_add hsqX hsqY
    _ = (h * h + w * w) / 4 := by ring

theorem InBox.height_nonneg {K : Type} [Field K] [LinearOrder K] [IsStrictOrderedRing K]
    {s c dx dy w h : K} (hin : InBox s c dx dy w h) : 0 ≤ h := by
  have hhalf := (abs_nonneg _).trans hin.1
  linarith

theorem InBox.width_nonneg {K : Type} [Field K] [LinearOrder K] [IsStrictOrderedRing K]
    {s c dx dy w h : K} (hin : InBox s c dx dy w h) : 0 ≤ w := by
  have hhalf := (abs_nonneg _).trans hin.2
  linarith

theorem DirectionalAttack.Hits.isWithin {a : DirectionalAttack} {o : GameObject} (h : a.Hits o)
    (hbox : a.boxWidth ^ 2 ≤ 3 * a.boxHeight ^ 2) : isWithin a.cx a.cy a.boxHeight o = true := by
  have hdist := InBox.dist_le h (Real.sin_sq_add_cos_sq _)
  have hdistQ : (o.x - a.cx) * (o.x - a.cx) + (o.y - a.cy) * (o.y - a.cy) ≤
      (a.boxHeight * a.boxHeight + a.boxWidth * a.boxWidth) / 4 := by exact_mod_cast hdist
  refine decide_eq_true ?_
  show (o.x - a.cx) * (o.x - a.cx) + (o.y - a.cy) * (o.y - a.cy) ≤ a.boxHeight * a.boxHeight
  linarith [sq a.boxWidth, sq a.boxHeight]

theorem InReach.isWithin {proj monster : GameObject} (h : InReach proj monster)
    (hmargin : |proj.radius + monster.radius + 1 / 10| ≤ proj.radius + 3 / 2) :
    isWithin proj.x proj.y (proj.radius + 3 / 2) monster = true := by
  have hsq := mul_self_le_mul_self (abs_nonneg _) hmargin
  rw [abs_mul_abs_self] at hsq
  unfold InReach at h
  dsimp only at h
  refine decide_eq_true ?_
  calc (monster.x - proj.x) * (monster.x - proj.x) + (monster.y - proj.y) * (monster.y - proj.y)
      = (proj.x - monster.x) * (proj.x - monster.x) + (proj.y - monster.y) *
        (proj.y - monster.y) := by ring
    _ ≤ (proj.radius + 3 / 2) * (proj.radius + 3 / 2) := h.trans hsq

/-! ## Nothing is lost -/

/-- A live monster that has not moved since the grid was rebuilt. -/
structure Unmoved (g : SpatialGrid) (objects : List GameObject) (objMgr : Registry)
    (monster : GameObject) : Prop where
  cellSize : 0 < g.cellSize
  kept : ∃ a, Keeps objects objMgr a monster ∧ monster.x = a.x ∧ monster.y = a.y
  live : isListed monster = true

theorem Unmoved.mem_query {g : SpatialGrid} {objects : List GameObject} {objMgr : Registry}
    {monster : GameObject} (h : Unmoved g objects objMgr monster) {x y radius : ℚ}
    (hr : 0 ≤ radius) (hnear : SpatialGrid.isWithin x y radius monster = true) :
    monster ∈ (g.rebuild objects).query x y radius objMgr := by
  obtain ⟨a, hkeep, hx, hy⟩ := h.kept
  exact mem_query_of_still h.cellSize hr hkeep hx hy hnear

/-- No projectile and monster of these radii touch, wherever they are, without the query of the
projectile finding the monster. -/
def ProjectilesFind (projRadius monsterRadius : ℚ) : Prop :=
  ∀ (g : SpatialGrid) (objects : List GameObject) (objMgr : Registry) (proj monster : GameObject),
    Unmoved g objects objMgr monster → proj.radius = projRadius →
      monster.radius = monsterRadius → InReach proj monster →
        monster ∈ projectileCandidates (g.rebuild objects) objMgr proj

/-- No attack with a box of this size, in any direction, hits a monster that its query misses. -/
def BoxesFind (boxWidth boxHeight : ℚ) : Prop :=
  ∀ (g : SpatialGrid) (objects : List GameObject) (objMgr : Registry)
    (attack : DirectionalAttack) (monster : GameObject),
    Unmoved g objects objMgr monster → attack.boxWidth = boxWidth →
      attack.boxHeight = boxHeight → attack.Hits monster →
        monster ∈ attack.candidates (g.rebuild objects) objMgr

def wideMonster (x y radius : ℚ) : GameObject := { standing 1 x y with radius }

def bolt (radius : ℚ) : GameObject := { GameObject.make 2 .projectile with radius }

/-- An attack from the origin to the right. -/
def sweepAttack (boxWidth boxHeight : ℚ) : DirectionalAttack := ⟨0, 0, 1, 0, boxWidth, boxHeight⟩

theorem sweepAttack_angle (w h : ℚ) : (sweepAttack w h).angle = 0 := by
  have hone : (⟨((1 : ℚ) : ℝ), ((0 : ℚ) : ℝ)⟩ : ℂ) = 1 := by
    apply Complex.ext
    · simp
    · simp
  show Complex.arg (⟨((1 : ℚ) : ℝ), ((0 : ℚ) : ℝ)⟩ : ℂ) = 0
  rw [hone, Complex.arg_one]

/-- An attack to the right hits what its box has without turning. -/
theorem sweepAttack_hits {w h : ℚ} {o : GameObject} (hx : |o.x - h / 2| ≤ h / 2)
    (hy : |o.y| ≤ w / 2) : (sweepAttack w h).Hits o := by
  unfold DirectionalAttack.Hits InBox
  rw [sweepAttack_angle]
  have hcx : (sweepAttack w h).cx = h / 2 := by
    simp only [DirectionalAttack.cx, sweepAttack]
    ring
  have hcy : (sweepAttack w h).cy = 0 := by
    simp only [DirectionalAttack.cy, sweepAttack]
    ring
  have hx' : |(o.x : ℝ) - h / 2| ≤ h / 2 := by exact_mod_cast hx
  have hy' : |(o.y : ℝ)| ≤ w / 2 := by exact_mod_cast hy
  rw [hcx, hcy]
  simp only [neg_zero, Real.sin_zero, Real.cos_zero, mul_one, mul_zero, sub_zero, zero_add,
    Rat.cast_zero]
  constructor
  · show |(o.x : ℝ) - ((h / 2 : ℚ) : ℝ)| ≤ (h : ℝ) * (1 / 2)
    push_cast
    linarith
  · show |(o.y : ℝ)| ≤ (w : ℝ) * (1 / 2)
    linarith

theorem unmoved_alone {g : SpatialGrid} (hc : 0 < g.cellSize) (x y radius : ℚ) :
    Unmoved g [wideMonster x y radius] (tableOf [wideMonster x y radius])
      (wideMonster x y radius) :=
  ⟨hc, ⟨_, ⟨⟨List.mem_singleton_self _, rfl⟩, rfl⟩, rfl, rfl⟩, rfl⟩

/-- The margin of a projectile is needed: a monster at the end of its reach is lost without it, and
with a negative radius of the query the window of a fine grid is empty. -/
theorem margin_of_projectilesFind {pr mr : ℚ} (h : ProjectilesFind pr mr) :
    |pr + mr + 1 / 10| ≤ pr + 3 / 2 := by
  have hr : 0 ≤ pr + 3 / 2 := by
    by_contra hneg
    have hlt : pr + 3 / 2 < 0 := not_le.mp hneg
    have hc : (0 : ℚ) < -(pr + 3 / 2) := by linarith
    have hreach : InReach (bolt pr) (wideMonster 0 0 mr) := by
      show (0 - 0) * (0 - 0) + (0 - 0) * (0 - 0) ≤ (pr + mr + 1 / 10) * (pr + mr + 1 / 10)
      nlinarith [mul_self_nonneg (pr + mr + 1 / 10)]
    have hmem :=
      h ⟨-(pr + 3 / 2), fun _ => []⟩ _ _ (bolt pr) _ (unmoved_alone hc 0 0 mr) rfl rfl hreach
    obtain ⟨-, -, -, cell, hcell, -⟩ := mem_query.mp hmem
    obtain ⟨⟨hlo, hhi⟩, -⟩ := mem_window.mp hcell
    have hmin : cellOf ⟨-(pr + 3 / 2), fun _ => []⟩ (0 - (pr + 3 / 2)) = 1 := by
      show ⌊(0 - (pr + 3 / 2)) / -(pr + 3 / 2)⌋ = 1
      rw [zero_sub, div_self hc.ne']
      rfl
    have hmax : cellOf ⟨-(pr + 3 / 2), fun _ => []⟩ (0 + (pr + 3 / 2)) = -1 := by
      show ⌊(0 + (pr + 3 / 2)) / -(pr + 3 / 2)⌋ = -1
      rw [zero_add, div_neg, div_self hlt.ne]
      rfl
    have hwindow : (1 : Int) ≤ -1 := hmin.ge.trans ((hlo.trans hhi).trans hmax.le)
    exact absurd hwindow (by decide)
  have hreach : InReach (bolt pr) (wideMonster (pr + mr + 1 / 10) 0 mr) := by
    show (0 - (pr + mr + 1 / 10)) * (0 - (pr + mr + 1 / 10)) + (0 - 0) * (0 - 0) ≤
      (pr + mr + 1 / 10) * (pr + mr + 1 / 10)
    linarith
  have hmem := h coarse _ _ (bolt pr) _ (unmoved_alone (by decide +kernel) _ 0 mr) rfl rfl hreach
  obtain ⟨-, -, hnear, -⟩ := mem_query.mp hmem
  have hdist : (pr + mr + 1 / 10 - 0) * (pr + mr + 1 / 10 - 0) + (0 - 0) * (0 - 0) ≤
      (pr + 3 / 2) * (pr + 3 / 2) := of_decide_eq_true hnear
  exact abs_le_of_sq_le_sq (by nlinarith) hr

theorem projectilesFind_of_margin {pr mr : ℚ} (h : |pr + mr + 1 / 10| ≤ pr + 3 / 2) :
    ProjectilesFind pr mr := by
  rintro g objects objMgr proj monster hstill rfl rfl hreach
  exact hstill.mem_query ((abs_nonneg _).trans h) (hreach.isWithin h)

/-- The corner of a box is hit, so it has to be within the height of the box. -/
theorem width_of_boxesFind {w h : ℚ} (hfind : BoxesFind w h) (hw : 0 ≤ w) (hh : 0 ≤ h) :
    w ^ 2 ≤ 3 * h ^ 2 := by
  have hhits : (sweepAttack w h).Hits (wideMonster h (w / 2) 0) := by
    refine sweepAttack_hits ?_ ?_
    · show |h - h / 2| ≤ h / 2
      rw [sub_half, abs_of_nonneg (by linarith)]
    · show |w / 2| ≤ w / 2
      rw [abs_of_nonneg (by linarith)]
  have hmem := hfind coarse _ _ _ _ (unmoved_alone (by decide +kernel) h (w / 2) 0) rfl rfl hhits
  obtain ⟨-, -, hnear, -⟩ := mem_query.mp (List.mem_filter.mp hmem).1
  have hdist : (h - (0 + 1 * (h * (1 / 2)))) * (h - (0 + 1 * (h * (1 / 2)))) +
      (w / 2 - (0 + 0 * (h * (1 / 2)))) * (w / 2 - (0 + 0 * (h * (1 / 2)))) ≤ h * h :=
    of_decide_eq_true hnear
  nlinarith

theorem boxesFind_of_width {w h : ℚ} (hbox : 0 ≤ w → 0 ≤ h → w ^ 2 ≤ 3 * h ^ 2) :
    BoxesFind w h := by
  rintro g objects objMgr attack monster hstill rfl rfl hhits
  have hh : 0 ≤ attack.boxHeight := by exact_mod_cast InBox.height_nonneg hhits
  have hw : 0 ≤ attack.boxWidth := by exact_mod_cast InBox.width_nonneg hhits
  exact List.mem_filter.mpr ⟨hstill.mem_query hh (hhits.isWithin (hbox hw hh)), hstill.live⟩

/-- **The broad phase** loses no monster, at any position and in any direction, exactly for
projectiles that reach at most as far as their margin and boxes that are not too wide. -/
theorem broad_phase (projRadius monsterRadius boxWidth boxHeight : ℚ) :
    (ProjectilesFind projRadius monsterRadius ↔
      |projRadius + monsterRadius + 1 / 10| ≤ projRadius + 3 / 2) ∧
    (BoxesFind boxWidth boxHeight ↔
      (0 ≤ boxWidth → 0 ≤ boxHeight → boxWidth ^ 2 ≤ 3 * boxHeight ^ 2)) :=
  ⟨⟨margin_of_projectilesFind, projectilesFind_of_margin⟩,
    ⟨width_of_boxesFind, boxesFind_of_width⟩⟩

/-- A monster with the radius `2` that a projectile touches, and one at the side of a wide box: the
query has neither. -/
theorem broad_phase_loses :
    (InReach (bolt (1 / 2)) (wideMonster (5 / 2) 0 2) ∧
      wideMonster (5 / 2) 0 2 ∉ projectileCandidates (coarse.rebuild [wideMonster (5 / 2) 0 2])
        (tableOf [wideMonster (5 / 2) 0 2]) (bolt (1 / 2))) ∧
    (sweepAttack 4 1).Hits (wideMonster (1 / 2) 2 (1 / 2)) ∧
      wideMonster (1 / 2) 2 (1 / 2) ∉
        (sweepAttack 4 1).candidates (coarse.rebuild [wideMonster (1 / 2) 2 (1 / 2)])
        (tableOf [wideMonster (1 / 2) 2 (1 / 2)]) := by
  refine ⟨⟨?_, fun hmem => ?_⟩, sweepAttack_hits (by decide +kernel) (by decide +kernel),
    fun hmem => ?_⟩
  · show (_ : ℚ) ≤ _
    decide +kernel
  · obtain ⟨-, -, hnear, -⟩ := mem_query.mp hmem
    exact absurd hnear (by decide +kernel)
  · obtain ⟨-, -, hnear, -⟩ := mem_query.mp (List.mem_filter.mp hmem).1
    exact absurd hnear (by decide +kernel)

end ToyServer.SimpleGame
