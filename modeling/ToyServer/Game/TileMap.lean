import Mathlib.Data.Int.Range
import Mathlib.Data.Rat.Floor
import ToyServer.Lib.Slab

/-!
# `TileMap` (`Game/TileMap.cpp`)

`SweepTest` moves a point from `(startX, startY)` by `(dx, dy)` and looks at the tiles around: a
tile that is not walkable, grown by the radius, is hit at the time at which the point enters it.
Times and coordinates are exact, and where the motion is parallel to an axis the times at that axis
are infinite.

`sweep_exact`: nothing is entered before the time that is reported, nor at all if no hit is
reported, and the point reported touches a grown tile.  This needs a motion or a start outside of
the tiles: without a motion, `SweepTest` does not look.
-/

namespace ToyServer.SimpleGame

open Slab

/-- A map with its collision layer, if it has one. -/
structure TileMap where
  width : Int
  height : Int
  tileWidth : Int
  tileHeight : Int
  collisionLayer : Option (List UInt32)
deriving DecidableEq, Repr

structure SweepResult where
  hit : Bool
  time : ℚ
  hitX : ℚ
  hitY : ℚ
  normalX : ℚ
  normalY : ℚ
deriving DecidableEq, Repr

namespace TileMap

def FLIP_MASK : UInt32 := 0x1FFFFFFF

section
variable (m : TileMap)

def getTileX (worldX : ℚ) : Int := ⌊worldX / m.tileWidth⌋

def getTileY (worldY : ℚ) : Int := ⌊worldY / m.tileHeight⌋

def isWalkable (tx ty : Int) : Bool :=
  if tx < 0 ∨ m.width ≤ tx ∨ ty < 0 ∨ m.height ≤ ty then false
  else
    match m.collisionLayer with
    | none => true
    | some data =>
      match data[(ty * m.width + tx).toNat]? with
      | none => false
      | some gid => gid &&& FLIP_MASK == 0

/-- A motion without its part into the wall. -/
def slide (dx dy normalX normalY : ℚ) : ℚ × ℚ :=
  let dot := dx * normalX + dy * normalY
  if dot < 0 then (dx - dot * normalX, dy - dot * normalY) else (dx, dy)

/-! ## The sweep -/

/-- The times at an axis, the earlier one first. -/
def axisTimes (lo hi start d : ℚ) : Time ℚ × Time ℚ :=
  let inv := if d ≠ 0 then 1 / d else 0
  let tNear := if d = 0 then ⊥ else fin ((lo - start) * inv)
  let tFar := if d = 0 then ⊤ else fin ((hi - start) * inv)
  if tFar < tNear then (tFar, tNear) else (tNear, tFar)

structure Box where
  left : ℚ
  right : ℚ
  top : ℚ
  bottom : ℚ
deriving DecidableEq, Repr

def box (radius : ℚ) (tx ty : Int) : Box :=
  let tileLeft : ℚ := tx * m.tileWidth
  let tileTop : ℚ := ty * m.tileHeight
  ⟨tileLeft - radius, tileLeft + m.tileWidth + radius, tileTop - radius,
    tileTop + m.tileHeight + radius⟩

structure Found where
  tMin : ℚ
  collided : Bool
  nX : ℚ
  nY : ℚ
deriving DecidableEq, Repr

/-- The side that is hit. -/
def entryNormal (tNearX tNearY : Time ℚ) (dx dy : ℚ) : ℚ × ℚ :=
  if tNearY < tNearX then (if 0 < dx then -1 else 1, 0) else (0, if 0 < dy then -1 else 1)

/-- Away from the middle of a box that the point is in. -/
def innerNormal (b : Box) (x0 y0 : ℚ) : ℚ × ℚ :=
  let px := x0 - (b.left + b.right) * (1 / 2)
  let py := y0 - (b.top + b.bottom) * (1 / 2)
  if |py| < |px| then (if 0 < px then 1 else -1, 0) else (0, if 0 < py then 1 else -1)

/-- One box of a tile that is not walkable. -/
def sweepBox (x0 y0 dx dy : ℚ) (b : Box) (f : Found) : Found :=
  let tx := axisTimes b.left b.right x0 dx
  let ty := axisTimes b.top b.bottom y0 dy
  if dx = 0 ∧ (x0 < b.left ∨ b.right < x0) then f
  else if dy = 0 ∧ (y0 < b.top ∨ b.bottom < y0) then f
  else
    let tEnter := max tx.1 ty.1
    let tExit := min tx.2 ty.2
    if tEnter ≤ tExit ∧ fin 0 ≤ tEnter ∧ tEnter ≤ fin 1 then
      if tEnter < fin f.tMin then
        let n := entryNormal tx.1 ty.1 dx dy
        ⟨toFin 0 tEnter, true, n.1, n.2⟩
      else f
    else if tEnter < fin 0 ∧ fin 0 ≤ tExit then
      let n := innerNormal b x0 y0
      ⟨0, true, n.1, n.2⟩
    else f

def sweepTile (x0 y0 dx dy radius : ℚ) (f : Found) (tile : Int × Int) : Found :=
  if m.isWalkable tile.1 tile.2 then f else sweepBox x0 y0 dx dy (m.box radius tile.1 tile.2) f

/-- The tiles that the loops look at, in their order. -/
def window (x0 y0 dx dy radius : ℚ) : List (Int × Int) :=
  let x1 := x0 + dx
  let y1 := y0 + dy
  let minTx := max 0 (m.getTileX (min x0 x1 - radius))
  let maxTx := min (m.width - 1) (m.getTileX (max x0 x1 + radius))
  let minTy := max 0 (m.getTileY (min y0 y1 - radius))
  let maxTy := min (m.height - 1) (m.getTileY (max y0 y1 + radius))
  (Int.range minTy (maxTy + 1)).flatMap fun ty => (Int.range minTx (maxTx + 1)).map fun tx =>
    (tx, ty)

def sweepTest (startX startY dx dy radius : ℚ) : SweepResult :=
  let miss : SweepResult := ⟨false, 1, startX + dx, startY + dy, 0, 0⟩
  if dx = 0 ∧ dy = 0 then miss
  else
    let f :=
      (m.window startX startY dx dy radius).foldl (m.sweepTile startX startY dx dy radius)
        ⟨1, false, 0, 0⟩
    if f.collided then ⟨true, f.tMin, startX + dx * f.tMin, startY + dy * f.tMin, f.nX, f.nY⟩
    else miss

end

/-! ## Boxes and times -/

section
variable (b : Box) (x y : ℚ)

def Box.Inside : Prop := (b.left < x ∧ x < b.right) ∧ b.top < y ∧ y < b.bottom

def Box.Touches : Prop := (b.left ≤ x ∧ x ≤ b.right) ∧ b.top ≤ y ∧ y ≤ b.bottom

instance  : Decidable (b.Inside x y) := inferInstanceAs (Decidable (_ ∧ _))

instance  : Decidable (b.Touches x y) := inferInstanceAs (Decidable (_ ∧ _))

end

def Box.Proper (b : Box) : Prop := b.left ≤ b.right ∧ b.top ≤ b.bottom

theorem axisTimes_eq (lo hi start d : ℚ) :
    axisTimes lo hi start d = (near lo hi start d, far lo hi start d) := by
  unfold axisTimes near far
  by_cases hd : d = 0
  · simp [hd]
  · simp only [hd, ne_eq, not_false_eq_true, if_true, if_false, mul_one_div, fin_lt]
    split
    · next hlt => rw [min_eq_right hlt.le, max_eq_left hlt.le]
    · next hle => rw [min_eq_left (not_lt.mp hle), max_eq_right (not_lt.mp hle)]

section
variable (x0 y0 dx dy : ℚ)

/-- When the point enters a box, and when it leaves it. -/
def tEnter (b : Box) : Time ℚ := max (near b.left b.right x0 dx) (near b.top b.bottom y0 dy)

def tExit (b : Box) : Time ℚ := min (far b.left b.right x0 dx) (far b.top b.bottom y0 dy)

/-- The motion along an axis that it is parallel to misses the box. -/
def Misses (b : Box) : Prop :=
  (dx = 0 ∧ (x0 < b.left ∨ b.right < x0)) ∨ dy = 0 ∧ (y0 < b.top ∨ b.bottom < y0)

variable {x0 y0 dx dy} {b : Box} {f : Found} {s : ℚ}

theorem times_of_inside (h : b.Inside (x0 + s * dx) (y0 + s * dy)) :
    tEnter x0 y0 dx dy b < fin s ∧ fin s < tExit x0 y0 dx dy b := by
  have hx := between_of_inside h.1.1 h.1.2
  have hy := between_of_inside h.2.1 h.2.2
  exact ⟨max_lt hx.1 hy.1, lt_min hx.2 hy.2⟩

theorem touches_of_times (hb : b.Proper) (hmiss : ¬Misses x0 y0 dx dy b)
    (henter : tEnter x0 y0 dx dy b ≤ fin s) (hexit : fin s ≤ tExit x0 y0 dx dy b) :
    b.Touches (x0 + s * dx) (y0 + s * dy) := by
  obtain ⟨hx, hy⟩ := not_or.mp hmiss
  obtain ⟨hex, hey⟩ := max_le_iff.mp henter
  obtain ⟨hfx, hfy⟩ := le_min_iff.mp hexit
  refine ⟨inside_of_between hb.1 (fun hd => ?_) hex hfx,
    inside_of_between hb.2 (fun hd => ?_) hey hfy⟩
  · simpa [hd] using hx
  · simpa [hd] using hy

theorem not_inside_of_misses (hmiss : Misses x0 y0 dx dy b) :
    ¬b.Inside (x0 + s * dx) (y0 + s * dy) := by
  rintro ⟨⟨hl, hr⟩, ht, hb⟩
  rcases hmiss with ⟨rfl, h | h⟩ | ⟨rfl, h | h⟩
  · linarith
  · linarith
  · linarith
  · linarith

theorem sweepBox_cases (x0 y0 dx dy : ℚ) (b : Box) (f : Found) :
    (∃ t nX nY, sweepBox x0 y0 dx dy b f = ⟨t, true, nX, nY⟩ ∧ ¬Misses x0 y0 dx dy b ∧
      tEnter x0 y0 dx dy b = fin t ∧ fin t ≤ tExit x0 y0 dx dy b ∧ 0 ≤ t ∧ t < f.tMin) ∨
    (∃ nX nY, sweepBox x0 y0 dx dy b f = ⟨0, true, nX, nY⟩ ∧ ¬Misses x0 y0 dx dy b ∧
      tEnter x0 y0 dx dy b < fin 0 ∧ fin 0 ≤ tExit x0 y0 dx dy b) ∨
    (sweepBox x0 y0 dx dy b f = f ∧
      (Misses x0 y0 dx dy b ∨ tExit x0 y0 dx dy b < tEnter x0 y0 dx dy b ∨
      fin f.tMin ≤ tEnter x0 y0 dx dy b ∨ fin 1 < tEnter x0 y0 dx dy b ∨
      tExit x0 y0 dx dy b < fin 0)) := by
  have henter : max (axisTimes b.left b.right x0 dx).1 (axisTimes b.top b.bottom y0 dy).1 =
      tEnter x0 y0 dx dy b := by
    rw [axisTimes_eq, axisTimes_eq]
    rfl
  have hexit : min (axisTimes b.left b.right x0 dx).2 (axisTimes b.top b.bottom y0 dy).2 =
      tExit x0 y0 dx dy b := by
    rw [axisTimes_eq, axisTimes_eq]
    rfl
  unfold sweepBox
  dsimp only
  rw [henter, hexit]
  split
  · next hmiss => exact .inr (.inr ⟨rfl, Or.inl (.inl hmiss)⟩)
  · next hx =>
    split
    · next hmiss => exact .inr (.inr ⟨rfl, Or.inl (.inr hmiss)⟩)
    · next hy =>
      have hmiss : ¬Misses x0 y0 dx dy b := not_or.mpr ⟨hx, hy⟩
      split
      · next hin =>
        obtain ⟨hle, h0, h1⟩ := hin
        split
        · next hfirst =>
          obtain ⟨t, ht⟩ := exists_fin h0 h1
          rw [ht] at hle h0 hfirst ⊢
          exact .inl ⟨t, _, _, rfl, hmiss, rfl, hle, fin_le.mp h0, fin_lt.mp hfirst⟩
        · next hlater => exact .inr (.inr ⟨rfl, Or.inr (.inr (.inl (not_lt.mp hlater)))⟩)
      · next hout =>
        split
        · next hinner => exact .inr (.inl ⟨_, _, rfl, hmiss, hinner.1, hinner.2⟩)
        · next hnot =>
          refine .inr (.inr ⟨rfl, Or.inr ?_⟩)
          by_cases h0 : fin 0 ≤ tEnter x0 y0 dx dy b
          · by_cases hle : tEnter x0 y0 dx dy b ≤ tExit x0 y0 dx dy b
            · exact .inr (.inr (.inl (not_le.mp fun h1 => hout ⟨hle, h0, h1⟩)))
            · exact .inl (not_le.mp hle)
          · exact .inr (.inr (.inr (not_le.mp fun hlast => hnot ⟨not_le.mp h0, hlast⟩)))

/-! ## The loop -/

/-- What is known when the loop is done with some boxes: nothing was entered before `tMin`, and if
something was hit, one of the boxes is touched at that time. -/
structure Swept (x0 y0 dx dy : ℚ) (boxes : List Box) (f : Found) : Prop where
  nonneg : 0 ≤ f.tMin
  le_one : f.tMin ≤ 1
  collided_iff : f.collided = true ↔ f.tMin < 1
  clear : ∀ b ∈ boxes, ∀ s, 0 ≤ s → s ≤ 1 → (f.tMin < 1 → s < f.tMin) →
    ¬b.Inside (x0 + s * dx) (y0 + s * dy)
  touches : f.collided = true → ∃ b ∈ boxes, b.Touches (x0 + f.tMin * dx) (y0 + f.tMin * dy)

theorem Swept.hit {boxes : List Box} (h : Swept x0 y0 dx dy boxes f) {t nX nY : ℚ}
    (h0 : 0 ≤ t) (h1 : t < 1) (hle : t ≤ f.tMin)
    (hclear : ∀ s, 0 ≤ s → s < t → ¬b.Inside (x0 + s * dx) (y0 + s * dy))
    (htouch : b.Touches (x0 + t * dx) (y0 + t * dy)) :
    Swept x0 y0 dx dy (boxes ++ [b]) ⟨t, true, nX, nY⟩ where
  nonneg := h0
  le_one := h1.le
  collided_iff := by simp [h1]
  clear := by
    intro b' hb' s hs0 hs1 hlt
    rcases List.mem_append.mp hb' with hb' | hb'
    · exact h.clear b' hb' s hs0 hs1 fun _ => (hlt h1).trans_le hle
    · rw [List.mem_singleton.mp hb']
      exact hclear s hs0 (hlt h1)
  touches := fun _ => ⟨b, by simp, htouch⟩

/-- One wall more has been looked at. -/
theorem Swept.step {boxes : List Box} (h : Swept x0 y0 dx dy boxes f) (hb : b.Proper) :
    Swept x0 y0 dx dy (boxes ++ [b]) (sweepBox x0 y0 dx dy b f) := by
  rcases sweepBox_cases x0 y0 dx dy b f with ⟨t, nX, nY, heq, hmiss, henter, hexit, h0, hlt⟩ |
    ⟨nX, nY, heq, hmiss, henter, hexit⟩ | ⟨heq, hnot⟩
  · rw [heq]
    refine h.hit h0 (hlt.trans_le h.le_one) hlt.le (fun s _ hs hin => ?_)
      (touches_of_times hb hmiss henter.le hexit)
    have hafter := (times_of_inside hin).1
    rw [henter, fin_lt] at hafter
    exact lt_asymm hs hafter
  · rw [heq]
    refine h.hit le_rfl zero_lt_one h.nonneg (fun s hs0 hs => ?_)
      (touches_of_times hb hmiss henter.le hexit)
    exact absurd hs (not_lt.mpr hs0)
  · rw [heq]
    refine ⟨h.nonneg, h.le_one, h.collided_iff, fun b' hb' s hs0 hs1 hlt hin => ?_, fun hc => ?_⟩
    · rcases List.mem_append.mp hb' with hb' | hb'
      · exact h.clear b' hb' s hs0 hs1 hlt hin
      · rw [List.mem_singleton.mp hb'] at hin
        obtain ⟨hafter, hbefore⟩ := times_of_inside hin
        rcases hnot with hmiss | hnever | hlater | hlate | hpast
        · exact not_inside_of_misses hmiss hin
        · exact lt_asymm (hafter.trans hbefore) hnever
        · -- entered after `tMin`, and inside before it
          have hs := fin_lt.mp (hlater.trans_lt hafter)
          rcases h.le_one.lt_or_eq with hone | hone
          · exact lt_asymm hs (hlt hone)
          · exact absurd hs1 (not_le.mpr (hone ▸ hs))
        · exact absurd hs1 (not_le.mpr (fin_lt.mp (hlate.trans hafter)))
        · exact absurd hs0 (not_le.mpr (fin_lt.mp (hbefore.trans hpast)))
    · obtain ⟨b', hb', htouch⟩ := h.touches hc
      exact ⟨b', List.mem_append_left _ hb', htouch⟩

end

variable {m : TileMap} {startX startY dx dy radius : ℚ}

def boxes (m : TileMap) (radius : ℚ) (tiles : List (Int × Int)) : List Box :=
  (tiles.filter fun tile => !m.isWalkable tile.1 tile.2).map fun tile => m.box radius tile.1 tile.2

theorem box_proper (hw : 0 < m.tileWidth) (hh : 0 < m.tileHeight) (hr : 0 ≤ radius) (tx ty : Int) :
    (m.box radius tx ty).Proper := by
  have hw' : (0 : ℚ) < m.tileWidth := by exact_mod_cast hw
  have hh' : (0 : ℚ) < m.tileHeight := by exact_mod_cast hh
  constructor
  · show (tx : ℚ) * m.tileWidth - radius ≤ tx * m.tileWidth + m.tileWidth + radius
    linarith
  · show (ty : ℚ) * m.tileHeight - radius ≤ ty * m.tileHeight + m.tileHeight + radius
    linarith

theorem Swept.foldl (hproper : ∀ tx ty, (m.box radius tx ty).Proper) (tiles : List (Int × Int))
    {done : List Box} {f : Found} (h : Swept startX startY dx dy done f) :
    Swept startX startY dx dy (done ++ m.boxes radius tiles)
      (tiles.foldl (m.sweepTile startX startY dx dy radius) f) := by
  induction tiles generalizing done f with
  | nil => simpa [boxes] using h
  | cons tile tiles ih =>
    rw [List.foldl_cons]
    unfold sweepTile
    cases hwalk : m.isWalkable tile.1 tile.2 with
    | true =>
      have hsame : m.boxes radius (tile :: tiles) = m.boxes radius tiles := by simp [boxes, hwalk]
      rw [hsame, if_pos rfl]
      exact ih h
    | false =>
      have hcons : done ++ m.boxes radius (tile :: tiles) =
          (done ++ [m.box radius tile.1 tile.2]) ++ m.boxes radius tiles := by
        simp [boxes, hwalk]
      rw [hcons, if_neg (by decide)]
      exact ih (h.step (hproper tile.1 tile.2))

/-! ## The window -/

def Blocked (m : TileMap) (tx ty : Int) : Prop :=
  (0 ≤ tx ∧ tx < m.width) ∧ (0 ≤ ty ∧ ty < m.height) ∧ m.isWalkable tx ty = false

theorem coord_between {x d s : ℚ} (h0 : 0 ≤ s) (h1 : s ≤ 1) :
    min x (x + d) ≤ x + s * d ∧ x + s * d ≤ max x (x + d) := by
  rcases le_total 0 d with hd | hd
  · rw [min_eq_left (by linarith), max_eq_right (by linarith)]
    constructor
    · nlinarith
    · nlinarith
  · rw [min_eq_right (by linarith), max_eq_left (by linarith)]
    constructor
    · nlinarith
    · nlinarith

/-- A grown tile that has a point of an interval in it is between the tiles of the ends of the grown
interval. -/
theorem tile_between {size t : Int} {x lo hi : ℚ} (hsize : 0 < size) (hlo : lo ≤ x) (hhi : x ≤ hi)
    (hl : (t : ℚ) * size - radius < x) (hr : x < t * size + size + radius) :
    ⌊(lo - radius) / size⌋ ≤ t ∧ t ≤ ⌊(hi + radius) / size⌋ := by
  have hsize' : (0 : ℚ) < size := by exact_mod_cast hsize
  constructor
  · rw [← Int.lt_add_one_iff, Int.floor_lt, div_lt_iff₀ hsize']
    push_cast
    linarith
  · rw [Int.le_floor, le_div_iff₀ hsize']
    linarith

theorem mem_window {tx ty : Int} {s : ℚ} (hw : 0 < m.tileWidth) (hh : 0 < m.tileHeight)
    (h0 : 0 ≤ s) (h1 : s ≤ 1) (hb : m.Blocked tx ty)
    (hin : (m.box radius tx ty).Inside (startX + s * dx) (startY + s * dy)) :
    (tx, ty) ∈ m.window startX startY dx dy radius := by
  obtain ⟨⟨hl, hr⟩, ht, hbot⟩ := hin
  obtain ⟨hx0, hx1⟩ := coord_between (x := startX) (d := dx) h0 h1
  obtain ⟨hy0, hy1⟩ := coord_between (x := startY) (d := dy) h0 h1
  obtain ⟨hxl, hxr⟩ := tile_between hw hx0 hx1 hl hr
  obtain ⟨hyl, hyr⟩ := tile_between hh hy0 hy1 ht hbot
  obtain ⟨⟨htx0, htx1⟩, ⟨hty0, hty1⟩, -⟩ := hb
  unfold window
  rw [List.mem_flatMap]
  refine ⟨ty, ?_, List.mem_map.mpr ⟨tx, ?_, rfl⟩⟩
  · rw [Int.mem_range_iff]
    exact ⟨max_le hty0 hyl, Int.lt_add_one_iff.mpr (le_min (by omega) hyr)⟩
  · rw [Int.mem_range_iff]
    exact ⟨max_le htx0 hxl, Int.lt_add_one_iff.mpr (le_min (by omega) hxr)⟩

theorem blocked_of_mem_window {tx ty : Int} (h : (tx, ty) ∈ m.window startX startY dx dy radius)
    (hwalk : m.isWalkable tx ty = false) : m.Blocked tx ty := by
  unfold window at h
  obtain ⟨ty', hty, hmem⟩ := List.mem_flatMap.mp h
  obtain ⟨tx', htx, heq⟩ := List.mem_map.mp hmem
  cases heq
  rw [Int.mem_range_iff] at hty htx
  refine ⟨⟨(le_max_left _ _).trans htx.1, ?_⟩, ⟨(le_max_left _ _).trans hty.1, ?_⟩, hwalk⟩
  · have := Int.lt_add_one_iff.mp htx.2
    have := this.trans (min_le_left _ _)
    omega
  · have := Int.lt_add_one_iff.mp hty.2
    have := this.trans (min_le_left _ _)
    omega

/-! ## The result -/

/-- The point is in no grown tile of the map that is not walkable. -/
def Free (m : TileMap) (radius x y : ℚ) : Prop :=
  ∀ tx ty, m.Blocked tx ty → ¬(m.box radius tx ty).Inside x y

theorem free_iff {x y : ℚ} :
    m.Free radius x y ↔ ∀ tx ∈ Int.range 0 m.width, ∀ ty ∈ Int.range 0 m.height,
    m.isWalkable tx ty = false → ¬(m.box radius tx ty).Inside x y := by
  constructor
  · intro h tx htx ty hty hwalk
    exact h tx ty ⟨Int.mem_range_iff.mp htx, Int.mem_range_iff.mp hty, hwalk⟩
  · intro h tx ty hb
    exact h tx (Int.mem_range_iff.mpr hb.1) ty (Int.mem_range_iff.mpr hb.2.1) hb.2.2

instance (m : TileMap) (radius x y : ℚ) : Decidable (m.Free radius x y) :=
  decidable_of_iff' _ free_iff

theorem swept_window (hw : 0 < m.tileWidth) (hh : 0 < m.tileHeight) (hr : 0 ≤ radius) :
    Swept startX startY dx dy (m.boxes radius (m.window startX startY dx dy radius))
      ((m.window startX startY dx dy radius).foldl (m.sweepTile startX startY dx dy radius)
        ⟨1, false, 0, 0⟩) := by
  have hstart : Swept startX startY dx dy [] ⟨1, false, 0, 0⟩ :=
    { nonneg := zero_le_one
      le_one := le_rfl
      collided_iff := by simp
      clear := fun b hb => absurd hb List.not_mem_nil
      touches := fun hc => absurd hc (by decide) }
  exact hstart.foldl (box_proper hw hh hr) (m.window startX startY dx dy radius)

theorem Swept.free {f : Found}
    (h : Swept startX startY dx dy (m.boxes radius (m.window startX startY dx dy radius)) f)
    (hw : 0 < m.tileWidth) (hh : 0 < m.tileHeight) {s : ℚ} (h0 : 0 ≤ s) (h1 : s ≤ 1)
    (hlt : f.tMin < 1 → s < f.tMin) : m.Free radius (startX + s * dx) (startY + s * dy) := by
  intro tx ty hb hin
  have hmem := mem_window hw hh h0 h1 hb hin
  refine h.clear (m.box radius tx ty)
    (List.mem_map.mpr ⟨(tx, ty), List.mem_filter.mpr ⟨hmem, ?_⟩, rfl⟩) s h0 h1 hlt hin
  rw [hb.2.2]
  rfl

/-- A sweep without a hit: the whole way is free. -/
theorem free_of_miss (hw : 0 < m.tileWidth) (hh : 0 < m.tileHeight) (hr : 0 ≤ radius)
    (hmove : dx ≠ 0 ∨ dy ≠ 0) (hhit : (m.sweepTest startX startY dx dy radius).hit = false)
    {s : ℚ} (h0 : 0 ≤ s) (h1 : s ≤ 1) : m.Free radius (startX + s * dx) (startY + s * dy) := by
  have hswept : Swept startX startY dx dy _ _ := swept_window (m := m) hw hh hr
  unfold sweepTest at hhit
  rw [if_neg (by tauto)] at hhit
  dsimp only at hhit
  split at hhit
  · cases hhit
  · next hnone =>
    exact hswept.free hw hh h0 h1 fun hlt => absurd (hswept.collided_iff.mpr hlt) hnone

theorem sweepTest_of_hit {r : SweepResult} (hsweep : m.sweepTest startX startY dx dy radius = r)
    (hhit : r.hit = true) :
    ∃ f, (m.window startX startY dx dy radius).foldl (m.sweepTile startX startY dx dy radius) ⟨1,
      false, 0, 0⟩ = f ∧
      f.collided = true ∧
      r = ⟨true, f.tMin, startX + dx * f.tMin, startY + dy * f.tMin, f.nX, f.nY⟩ := by
  subst hsweep
  revert hhit
  unfold sweepTest
  split
  · intro hhit
    cases hhit
  · dsimp only
    split
    · next hc => exact fun _ => ⟨_, rfl, hc, rfl⟩
    · intro hhit
      cases hhit

/-- A sweep with a hit: the way up to the hit is free, and the hit is at a grown tile. -/
theorem hit_spec (hw : 0 < m.tileWidth) (hh : 0 < m.tileHeight) (hr : 0 ≤ radius) {r : SweepResult}
    (hsweep : m.sweepTest startX startY dx dy radius = r) (hhit : r.hit = true) :
    (0 ≤ r.time ∧ r.time < 1) ∧
      (∀ s, 0 ≤ s → s < r.time → m.Free radius (startX + s * dx) (startY + s * dy)) ∧
      (r.hitX = startX + r.time * dx ∧ r.hitY = startY + r.time * dy) ∧
      ∃ tx ty, m.Blocked tx ty ∧ (m.box radius tx ty).Touches r.hitX r.hitY := by
  obtain ⟨f, hf, hc, rfl⟩ := sweepTest_of_hit hsweep hhit
  have hswept : Swept startX startY dx dy _ f := hf ▸ swept_window (m := m) hw hh hr
  have hlt := hswept.collided_iff.mp hc
  refine ⟨⟨hswept.nonneg, hlt⟩, fun s h0 hs => ?_, ⟨by ring, by ring⟩, ?_⟩
  · exact hswept.free hw hh h0 (hs.le.trans hswept.le_one) fun _ => hs
  · obtain ⟨b, hb, htouch⟩ := hswept.touches hc
    obtain ⟨tile, htile, rfl⟩ := List.mem_map.mp hb
    obtain ⟨hmem, hwalk⟩ := List.mem_filter.mp htile
    refine ⟨tile.1, tile.2, blocked_of_mem_window hmem (by simpa using hwalk), ?_⟩
    rwa [mul_comm dx, mul_comm dy]

/-- **The sweep is exact**, for a motion or for a start that is free. -/
theorem sweep_exact (m : TileMap) (startX startY dx dy radius : ℚ) (r : SweepResult)
    (hw : 0 < m.tileWidth) (hh : 0 < m.tileHeight) (hr : 0 ≤ radius)
    (hsweep : m.sweepTest startX startY dx dy radius = r)
    (hmove : (dx ≠ 0 ∨ dy ≠ 0) ∨ m.Free radius startX startY) :
    (r.hit = false → ∀ s, 0 ≤ s → s ≤ 1 → m.Free radius (startX + s * dx) (startY + s * dy)) ∧
      (r.hit = true →
        (0 ≤ r.time ∧ r.time < 1) ∧
          (∀ s, 0 ≤ s → s < r.time → m.Free radius (startX + s * dx) (startY + s * dy)) ∧
          (r.hitX = startX + r.time * dx ∧ r.hitY = startY + r.time * dy) ∧
          ∃ tx ty, m.Blocked tx ty ∧ (m.box radius tx ty).Touches r.hitX r.hitY) := by
  refine ⟨fun hhit s h0 h1 => ?_, hit_spec hw hh hr hsweep⟩
  by_cases hstay : dx = 0 ∧ dy = 0
  · obtain ⟨rfl, rfl⟩ := hstay
    have hfree := hmove.resolve_left (by simp)
    simpa using hfree
  · exact free_of_miss hw hh hr (by tauto) (hsweep ▸ hhit) h0 h1

/-- Three tiles in a row, 32 wide and high, the last one a wall. -/
def corridor : TileMap := ⟨3, 1, 32, 32, some [0, 0, 7]⟩

theorem sweep_exact_corridor :
    (corridor.sweepTest 16 16 64 0 5).hit = true ∧
      (corridor.sweepTest 16 16 64 0 5).time = 43 / 64 ∧
      ∀ s, 0 ≤ s → s < 43 / 64 → corridor.Free 5 (16 + s * 64) (16 + s * 0) := by
  have h :=
    (sweep_exact corridor 16 16 64 0 5 _ (by decide) (by decide) (by decide) rfl
      (.inl (by decide))).2
  have hhit : (corridor.sweepTest 16 16 64 0 5).hit = true := by decide +kernel
  have htime : (corridor.sweepTest 16 16 64 0 5).time = 43 / 64 := by decide +kernel
  refine ⟨hhit, htime, ?_⟩
  rw [← htime]
  exact (h hhit).2.1

/-- A point in the wall that does not move is not reported. -/
theorem sweep_misses_start :
    (corridor.sweepTest 80 16 0 0 5).hit = false ∧ ¬corridor.Free 5 (80 + 0 * 0) (16 + 0 * 0) := by
  refine ⟨by decide +kernel, fun hfree => hfree 2 0 ⟨by decide, by decide, by decide +kernel⟩ ?_⟩
  decide +kernel

end TileMap

end ToyServer.SimpleGame
