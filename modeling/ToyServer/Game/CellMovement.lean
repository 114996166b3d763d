import ToyServer.Entity.Recycle

/-!
# Cells that monsters reserve

`CellBasedMovementStrategy` looks through nine cells around the one in front of a monster for the
free cell nearest to its target.  The search starts from 999999, a squared distance, so for a target
a kilometre away it finds none, and the monster reserves the cell it stands in, taken or not
(`cell_reserved_twice`); and a monster half a unit from its target reserves nothing.  Otherwise

    a free candidate → the monster reserves one that is nearest to its target   (cell_reservation)

and no two monsters reserve one cell while each has a free candidate.
-/

namespace ToyServer.SimpleGame

open Runs

/-- A cell of the grid of width one. -/
abbrev Cell := Int × Int

/-- What `CalculateMovement` reads of a monster and its target. -/
structure MoveRequest where
  x : ℚ
  y : ℚ
  vx : ℚ
  vy : ℚ
  speed : ℚ
  targetX : ℚ
  targetY : ℚ
deriving DecidableEq

namespace Cell

/-- The key of a cell in `_occupiedCells`: two words of 32 bits. -/
def key (c : Cell) : Int := c.1 % 2 ^ 32 * 2 ^ 32 + c.2 % 2 ^ 32

/-- The squared distance from the middle of the cell. -/
def distSq (x y : ℚ) (c : Cell) : ℚ :=
  (x - (c.1 + 1 / 2)) * (x - (c.1 + 1 / 2)) + (y - (c.2 + 1 / 2)) * (y - (c.2 + 1 / 2))

/-- The cell that a point lies in. -/
def of (x y : ℚ) : Cell := (⌊x⌋, ⌊y⌋)

/-- The cell and the eight around it, in the order of the array. -/
def candidates (c : Cell) : List Cell :=
  [(c.1, c.2), (c.1 + 1, c.2), (c.1 - 1, c.2), (c.1, c.2 + 1), (c.1, c.2 - 1), (c.1 + 1, c.2 + 1),
    (c.1 - 1, c.2 + 1), (c.1 + 1, c.2 - 1), (c.1 - 1, c.2 - 1)]

end Cell

namespace MoveRequest

def distSq (m : MoveRequest) : ℚ :=
  (m.targetX - m.x) * (m.targetX - m.x) + (m.targetY - m.y) * (m.targetY - m.y)

/-- The cells that are looked at: those around the place one unit in front. -/
def candidates (lm : Libm) (m : MoveRequest) : List Cell :=
  let dist := lm.sqrt m.distSq
  Cell.candidates (Cell.of (m.x + (m.targetX - m.x) / dist) (m.y + (m.targetY - m.y) / dist))

/-- One round of the search: the least distance so far and the cell that has it. -/
def consider (occupied : List Int) (m : MoveRequest) (best : ℚ × Option Cell) (c : Cell) :
    ℚ × Option Cell :=
  if c.key ∈ occupied then best
  else if c.distSq m.targetX m.targetY < best.1 then (c.distSq m.targetX m.targetY, some c)
  else best

section
variable (lm : Libm) (occupied : List Int) (m : MoveRequest)

/-- `CalculateVelocity` up to the reservation: near its target a monster reserves nothing, and where
the search finds no cell it reserves its own. -/
def reserve : Option Cell :=
  if m.distSq < 1 / 4 then none
  else some
    (((m.candidates lm).foldl (consider occupied m) (999999, none)).2.getD (Cell.of m.x m.y))

/-- Toward the middle of the reserved cell, smoothed with the old velocity. -/
def velocity : ℚ × ℚ :=
  match m.reserve lm occupied with
  | none => (0, 0)
  | some c =>
    let vdx := (c.1 : ℚ) + 1 / 2 - m.x
    let vdy := (c.2 : ℚ) + 1 / 2 - m.y
    let vDist := lm.sqrt (vdx * vdx + vdy * vdy)
    if 1 / 20 < vDist then
      let speed := if vDist < 1 / 2 then m.speed * (vDist / (1 / 2)) else m.speed
      (m.vx * (4 / 5) + vdx / vDist * speed * (1 / 5),
        m.vy * (4 / 5) + vdy / vDist * speed * (1 / 5))
    else (0, 0)

/-- A candidate that nobody has reserved. -/
def Free (c : Cell) : Prop :=
  c ∈ m.candidates lm ∧ c.key ∉ occupied

/-- Free, and no free candidate is nearer to the target. -/
def Nearest (c : Cell) : Prop :=
  Free lm occupied m c ∧ ∀ c', Free lm occupied m c' → c.distSq m.targetX m.targetY ≤
    c'.distSq m.targetX m.targetY

end

variable {lm : Libm} {occupied : List Int} {m : MoveRequest}

/-- The search keeps the least distance of the free cells it has seen, if it is below the one it
started with. -/
theorem search_spec (occupied : List Int) (m : MoveRequest) (cells : List Cell)
    (best : ℚ × Option Cell) : (cells.foldl (consider occupied m) best).1 ≤ best.1 ∧
      (∀ c ∈ cells, c.key ∉ occupied → (cells.foldl (consider occupied m) best).1 ≤
        c.distSq m.targetX m.targetY) ∧
      (cells.foldl (consider occupied m) best = best ∨ ∃ c ∈ cells, c.key ∉ occupied ∧
        cells.foldl (consider occupied m) best = (c.distSq m.targetX m.targetY, some c)) := by
  induction cells generalizing best with
  | nil => exact ⟨le_refl _, fun _ h => absurd h List.not_mem_nil, Or.inl rfl⟩
  | cons c cells ih =>
    obtain ⟨hle, hmin, hfrom⟩ := ih (consider occupied m best c)
    rw [List.foldl_cons]
    -- what one round does to the best so far
    have hstep : (consider occupied m best c).1 ≤ best.1 ∧
        (c.key ∉ occupied → (consider occupied m best c).1 ≤ c.distSq m.targetX m.targetY) ∧
        (consider occupied m best c = best ∨
          c.key ∉ occupied ∧
          consider occupied m best c = (c.distSq m.targetX m.targetY, some c)) := by
      unfold consider
      split
      · next htaken => exact ⟨le_refl _, fun hfree => absurd htaken hfree, Or.inl rfl⟩
      · next hfree =>
        split
        · next hlt => exact ⟨hlt.le, fun _ => le_refl _, Or.inr ⟨hfree, rfl⟩⟩
        · next hnot => exact ⟨le_refl _, fun _ => not_lt.mp hnot, Or.inl rfl⟩
    refine ⟨hle.trans hstep.1, fun x hx hfree => ?_, ?_⟩
    · rcases List.mem_cons.mp hx with rfl | hx
      · exact hle.trans (hstep.2.1 hfree)
      · exact hmin x hx hfree
    · rcases hfrom with hsame | ⟨x, hx, hfree, heq⟩
      · rcases hstep.2.2 with hbest | ⟨hfree, heq⟩
        · exact .inl (hsame.trans hbest)
        · exact .inr ⟨c, List.mem_cons_self, hfree, hsame.trans heq⟩
      · exact .inr ⟨x, List.mem_cons_of_mem _ hx, hfree, heq⟩

/-- Far enough from the target to move, and near enough for the search. -/
def InSight (lm : Libm) (occupied : List Int) (m : MoveRequest) : Prop :=
  1 / 4 ≤ m.distSq ∧ ∃ c ∈ m.candidates lm, c.key ∉ occupied ∧ c.distSq m.targetX m.targetY < 999999

theorem nearest_reserve (h : InSight lm occupied m) :
    ∃ c, m.reserve lm occupied = some c ∧ Nearest lm occupied m c := by
  obtain ⟨hfar, c₀, hc₀, hfree₀, hnear⟩ := h
  obtain ⟨-, hmin, hfrom⟩ := search_spec occupied m (m.candidates lm) (999999, none)
  unfold reserve
  rw [if_neg (not_lt.mpr hfar)]
  rcases hfrom with hsame | ⟨c, hc, hfree, heq⟩
  · have hle := hmin c₀ hc₀ hfree₀
    rw [hsame] at hle
    exact absurd hnear (not_lt.mpr hle)
  · rw [heq] at hmin ⊢
    exact ⟨c, rfl, ⟨hc, hfree⟩, fun c' hc' => hmin c' hc'.1 hc'.2⟩

end MoveRequest

open MoveRequest

/-- A call with the cells that were taken before it, and the cell it reserved. -/
structure Reservation where
  occupied : List Int
  request : MoveRequest
  cell : Option Cell

/-- The cells that are taken, and all calls since the map was cleared. -/
structure CellRun where
  occupied : List Int
  log : List Reservation

namespace CellRun

/-- `ClearOccupancyMap`. -/
def cleared : CellRun := ⟨[], []⟩

/-- The call of one monster. -/
def step (lm : Libm) (s : CellRun) (m : MoveRequest) : Option CellRun :=
  let cell := m.reserve lm s.occupied
  some ⟨(cell.map Cell.key).toList ++ s.occupied, s.log ++ [⟨s.occupied, m, cell⟩]⟩

/-- What has been reserved. -/
def cells (s : CellRun) : List Cell := s.log.filterMap Reservation.cell

variable {lm : Libm} {s s' : CellRun}

/-- There is a free candidate. -/
def HasFree (lm : Libm) (occupied : List Int) (m : MoveRequest) : Prop := ∃ c, Free lm occupied m c

/-- A call with a free candidate reserves a nearest one. -/
def Right (lm : Libm) (e : Reservation) : Prop :=
  HasFree lm e.occupied e.request → ∃ c, e.cell = some c ∧ Nearest lm e.occupied e.request c

/-- The condition on a call: who has a free candidate has its target in sight. -/
def Sighted (lm : Libm) (s : CellRun) (m : MoveRequest) : Prop :=
  HasFree lm s.occupied m → InSight lm s.occupied m

/-- The invariant of a tick. -/
structure Kept (lm : Libm) (s : CellRun) : Prop where
  right : ∀ e ∈ s.log, Right lm e
  occupied : ∀ c ∈ s.cells, c.key ∈ s.occupied
  apart : (∀ e ∈ s.log, HasFree lm e.occupied e.request) → s.cells.Nodup

theorem Kept.step {m : MoveRequest} (h : Kept lm s) (hok : Sighted lm s m)
    (hs : s.step lm m = some s') : Kept lm s' := by
  cases hs
  have hright : Right lm ⟨s.occupied, m, m.reserve lm s.occupied⟩ :=
    fun hfree => nearest_reserve (hok hfree)
  have hcells : (s.log ++ [Reservation.mk s.occupied m (m.reserve lm s.occupied)]).filterMap
      Reservation.cell = s.cells ++ (m.reserve lm s.occupied).toList := by
    rw [List.filterMap_append]
    cases hc : m.reserve lm s.occupied <;> simp [cells]
  refine ⟨forall_mem_concat h.right hright, fun c hc => ?_, fun hall => ?_⟩
  · rw [cells, hcells] at hc
    rcases List.mem_append.mp hc with hc | hc
    · exact List.mem_append_right _ (h.occupied c hc)
    · exact List.mem_append_left _
        (Option.mem_toList.mpr (Option.mem_map_of_mem _ (Option.mem_toList.mp hc)))
  · obtain ⟨c, hc, ⟨-, hfree⟩, -⟩ := hright (hall _ (List.mem_append_right _ List.mem_cons_self))
    rw [cells, hcells, show m.reserve lm s.occupied = some c from hc]
    refine List.nodup_append.mpr ⟨h.apart fun e he => hall e (List.mem_append_left _ he),
      List.nodup_singleton c, fun x hx y hy => ?_⟩
    rintro rfl
    exact hfree (List.mem_singleton.mp hy ▸ h.occupied x hx)

/-- **Cells are reserved once** between two calls of `ClearOccupancyMap`, and the free candidate
nearest to the target is taken, if monsters with a free candidate have their target in sight. -/
theorem cell_reservation (lm : Libm) (calls : List MoveRequest) (s : CellRun)
    (hsight : Meets (step lm) (Sighted lm) cleared calls)
    (h : run (step lm) cleared calls = some s) :
    (∀ e ∈ s.log, Right lm e) ∧
    ((∀ e ∈ s.log, HasFree lm e.occupied e.request) → s.cells.Nodup) := by
  have hstart : Kept lm cleared :=
    ⟨fun _ hmem => absurd hmem List.not_mem_nil, fun _ hmem => absurd hmem List.not_mem_nil,
      fun _ => List.nodup_nil⟩
  have hkept := run_inv_of_meets (Kept lm) (fun _ _ _ hk hok hs => hk.step hok hs) hstart hsight h
  exact ⟨hkept.right, hkept.apart⟩

/-- A square root that is right for the distances below. -/
def cellLibm : Libm := { stillLibm with sqrt := fun q => if q = 9 then 3 else 2000 }

/-- A monster in the cell (0, 0) with its target to the right. -/
def toward (distance : ℚ) : MoveRequest := ⟨1 / 2, 1 / 2, 0, 0, 1, 1 / 2 + distance, 1 / 2⟩

theorem sighted_of_front {s : CellRun} {m : MoveRequest} (hfar : 1 / 4 ≤ m.distSq)
    (h : ∃ c ∈ m.candidates lm, c.key ∉ s.occupied ∧ c.distSq m.targetX m.targetY < 999999) :
    Sighted lm s m :=
  fun _ => ⟨hfar, h⟩

theorem cell_reservation_two :
    ∃ s, run (step cellLibm) cleared [toward 3, toward 3] = some s ∧
    s.cells = [(2, 0), (2, 1)] ∧ s.cells.Nodup := by
  have hsight : Meets (step cellLibm) (Sighted cellLibm) cleared [toward 3, toward 3] :=
    meets_cons (sighted_of_front (by decide +kernel) (by decide +kernel)) rfl
      (meets_cons (sighted_of_front (by decide +kernel) (by decide +kernel)) rfl trivial)
  obtain ⟨s, hs, hlog, hcells⟩ : ∃ s, run (step cellLibm) cleared [toward 3, toward 3] = some s ∧
      (∀ e ∈ s.log, ∃ c ∈ e.request.candidates cellLibm, c.key ∉ e.occupied) ∧
      s.cells = [(2, 0), (2, 1)] :=
    ⟨_, rfl, by decide +kernel, by decide +kernel⟩
  exact ⟨s, hs, hcells, (cell_reservation cellLibm [toward 3, toward 3] s hsight hs).2 hlog⟩

/-- Two monsters with a target 2000 units away reserve the same cell, with all candidates of both
but one free. -/
theorem cell_reserved_twice :
    ∃ s, run (step cellLibm) cleared [toward 2000, toward 2000] = some s ∧
      s.cells = [(0, 0), (0, 0)] ∧
      (∀ e ∈ s.log, (1, 0) ∈ e.request.candidates cellLibm ∧ Cell.key (1, 0) ∉ e.occupied) :=
  ⟨_, rfl, by decide +kernel, by decide +kernel⟩

end CellRun

end ToyServer.SimpleGame
