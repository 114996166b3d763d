import ToyServer.Game.RoomTasks
import ToyServer.Game.TileMap

/-!
# `Room::UpdatePhysics`

An object moves until it hits a wall; the rest of its motion, without the part into that wall, is
added unchecked.  `moved_eq_updatePhysics` says that the tick of the room does this.
-/

namespace ToyServer.SimpleGame

open TileMap

/-- The radius that an object has for the walls. -/
def physicsRadius (o : GameObject) : ℚ :=
  match o.type with
  | .monster => o.radius
  | .player => 15
  | _ => 5

/-- Where a hit object goes: to the hit, and on along the wall. -/
def wallSlide (m : TileMap) (o : GameObject) (moveX moveY : ℚ) : Option (ℚ × ℚ) :=
  let sweep := m.sweepTest o.x o.y moveX moveY (physicsRadius o)
  if sweep.hit then
    let remaining :=
      slide (moveX * (1 - sweep.time)) (moveY * (1 - sweep.time)) sweep.normalX sweep.normalY
    some (sweep.hitX + remaining.1, sweep.hitY + remaining.2)
  else none

def updatePhysics (tileMap : Option TileMap) (dt : ℚ) (o : GameObject) : GameObject :=
  let moveX := o.vx * dt
  let moveY := o.vy * dt
  if o.isDead then o
  else if moveX = 0 ∧ moveY = 0 then o
  else
    match tileMap with
    | none => o.setPos (o.x + moveX) (o.y + moveY)
    | some m =>
      match wallSlide m o moveX moveY with
      | some (x, y) => o.setPos x y
      | none => o.setPos (o.x + moveX) (o.y + moveY)

/-- The physics of the tick, where an object that hits a wall ends up as `ch.slide` has it. -/
theorem moved_eq_updatePhysics (m : TileMap) (ch : TickChoice) (dt : ℚ) (o : GameObject)
    (h : ch.slide o = wallSlide m o (o.vx * dt) (o.vy * dt)) :
    Room.moved ch dt o = updatePhysics (some m) dt o := by
  unfold Room.moved updatePhysics
  rw [h]
  cases hdead : o.isDead with
  | true => simp
  | false =>
    by_cases hstill : o.vx * dt = 0 ∧ o.vy * dt = 0
    · simp [hstill.1, hstill.2]
    · have htest : ¬(false || decide (o.vx * dt = 0) && decide (o.vy * dt = 0)) = true := by
        simpa using hstill
      rw [if_neg htest, if_neg (by decide)]
      exact (if_neg hstill).symm

end ToyServer.SimpleGame
