import Mathlib.Analysis.SpecialFunctions.Sqrt
import Mathlib.Analysis.SpecialFunctions.Trigonometric.Basic
import ToyServer.Game.RoomTasks

/-!
# How projectiles move

In a tick a projectile goes through its own `Update`, which moves it, and through `UpdatePhysics`,
which moves every object by its velocity.  A linear projectile so moves twice, and one in orbit
leaves its circle along the tangent:

    after ticks of length T in all:  position = spawn + 2 * T * velocity,
                                     traveledDistance = T * speed                 (fly_linear)
    after a tick of length dt:  distance from the owner ^ 2 = R ^ 2 + (R * orbitSpeed * dt) ^ 2
                                                                                (orbit_distSq)

The motion is written over any field with its own `sqrt`, `sin` and `cos` (`Course`).  Over the
rationals it is the one of the room (`of_tick`, `projectile_in_tick`); over the reals
`kinematics_exact_iff` says that it is what the velocity promises just where nothing moves.
-/

namespace ToyServer.SimpleGame

structure Cmath (K : Type) where
  sqrt : K → K
  sin : K → K
  cos : K → K

def Libm.cmath (lm : Libm) : Cmath ℚ := ⟨lm.sqrt, lm.sin, lm.cos⟩

/-- What moves of a projectile. -/
structure Course (K : Type) where
  x : K
  y : K
  vx : K
  vy : K
  traveledDistance : K
  maxRange : K
  lifetime : K
  isHit : Bool
  isDead : Bool
  isOrbit : Bool
  orbitRadius : K
  orbitSpeed : K
  currentAngle : K

namespace Course

variable {K : Type} [Field K] [LinearOrder K]

/-! ## The two phases -/

def die (c : Course K) : Course K := { c with isDead := true }

section
variable (f : Cmath K) (c : Course K)

def speed : K := f.sqrt (c.vx * c.vx + c.vy * c.vy)

def updateLinear (dt : K) : Course K :=
  let c := { c with traveledDistance := c.traveledDistance + c.speed f * dt }
  if c.maxRange ≤ c.traveledDistance then c.die
  else { c with x := c.x + c.vx * dt, y := c.y + c.vy * dt }

/-- `owner` is the place of the owner, if it is there and alive. -/
def updateOrbit (dt : K) (owner : Option (K × K)) : Course K :=
  match owner with
  | none => c.die
  | some o =>
    let angle := c.currentAngle + c.orbitSpeed * dt
    { c with
      x := o.1 + c.orbitRadius * f.cos angle, y := o.2 + c.orbitRadius * f.sin angle
      vx := -c.orbitRadius * f.sin angle * c.orbitSpeed,
      vy := c.orbitRadius * f.cos angle * c.orbitSpeed
      currentAngle := angle }

def age (c : Course K) (dt : K) : Course K :=
  let c := { c with lifetime := c.lifetime - dt }
  if c.lifetime ≤ 0 ∨ c.isHit then c.die else c

def update (dt : K) (owner : Option (K × K)) : Course K :=
  if c.isDead then c
  else if c.isOrbit then (c.updateOrbit f dt owner).age dt
  else (c.updateLinear f dt).age dt

/-- `UpdatePhysics` without a tile map. -/
def moved (c : Course K) (dt : K) : Course K :=
  if c.isDead || (decide (c.vx * dt = 0) && decide (c.vy * dt = 0)) then c
  else { c with x := c.x + c.vx * dt, y := c.y + c.vy * dt }

/-- A tick up to the collisions. -/
def tick (t : K × Option (K × K)) : Course K := (c.update f t.1 t.2).moved t.1

def fly (ticks : List (K × Option (K × K))) : Course K := ticks.foldl (tick f) c

end

def distance (f : Cmath K) (c c' : Course K) : K :=
  f.sqrt ((c'.x - c.x) * (c'.x - c.x) + (c'.y - c.y) * (c'.y - c.y))

def pathLength (f : Cmath K) : Course K → List (K × Option (K × K)) → K
  | _, [] => 0
  | c, t :: ticks => distance f c (c.tick f t) + pathLength f (c.tick f t) ticks

/-! ## The projectiles of a room -/

def of (p : Projectile) : Course ℚ :=
  ⟨p.x, p.y, p.vx, p.vy, p.traveledDistance, p.maxRange, p.lifetime, p.isHit, p.isDead, p.isOrbit,
    p.orbitRadius, p.orbitSpeed, p.currentAngle⟩

def place (owner : Option GameObject) : Option (ℚ × ℚ) :=
  owner.bind fun o => if o.isDead then none else some (o.x, o.y)

theorem of_updateLinear (lm : Libm) (p : Projectile) (dt : ℚ) :
    of (p.updateLinear lm dt) = (of p).updateLinear lm.cmath dt :=
  apply_ite of _ _ _

theorem of_updateOrbit (lm : Libm) (p : Projectile) (dt : ℚ) (owner : Option GameObject) :
    of (p.updateOrbit lm dt owner) = (of p).updateOrbit lm.cmath dt (place owner) := by
  cases owner with
  | none => rfl
  | some o =>
    unfold Projectile.updateOrbit place
    cases h : o.isDead with
    | true =>
      simp only [if_true, Option.bind_some, h]
      rfl
    | false =>
      simp only [Bool.false_eq_true, if_false, Option.bind_some, h]
      rfl

variable (p : Projectile)

theorem of_age (dt : ℚ) : of (p.age dt) = (of p).age dt := apply_ite of _ _ _

theorem of_update (lm : Libm) (p : Projectile) (dt : ℚ) (owner : Option GameObject) :
    of (p.update lm dt owner) = (of p).update lm.cmath dt (place owner) := by
  have hdead : (of p).isDead = p.isDead := rfl
  have horbit : (of p).isOrbit = p.isOrbit := rfl
  unfold Projectile.update update
  rw [hdead, horbit]
  split
  · rfl
  · split
    · rw [of_age, of_updateOrbit]
    · rw [of_age, of_updateLinear]

theorem of_moved {ch : TickChoice} (hslide : ∀ o, ch.slide o = none) (p : Projectile) (dt : ℚ) :
    of { p with toGameObject := Room.moved ch dt p.toGameObject } = (of p).moved dt := by
  unfold Room.moved
  rw [hslide]
  exact apply_ite (fun o => of { p with toGameObject := o }) _ _ _

theorem of_tick {ch : TickChoice} (hslide : ∀ o, ch.slide o = none) (lm : Libm)
    (p : Projectile) (dt : ℚ) (owner : Option GameObject) :
    of { p.update lm dt owner with
      toGameObject := Room.moved ch dt (p.update lm dt owner).toGameObject } =
      (of p).tick lm.cmath (dt, place owner) := by
  rw [of_moved hslide, of_update]
  rfl

theorem lookup_modProjectile {o : ObjectManager} {id : Int} {p : Projectile}
    (h : o.objects.lookup id = some (.projectile p)) (f : Projectile → Projectile) :
    (o.modProjectile id f).objects.lookup id = some (.projectile (f p)) := by
  unfold ObjectManager.modProjectile ObjectManager.getProjectile
  rw [h]
  exact AList.lookup_insert _

/-- What the two loops of the tick do to a projectile of the room. -/
theorem projectile_in_tick {lm : Libm} {data : DataManager} {ch : TickChoice} {r : Room} {id : Int}
    {p : Projectile} (hslide : ∀ o, ch.slide o = none)
    (h : r.objMgr.objects.lookup id = some (.projectile p)) (halive : p.isDead = false) :
    ∃ q, ((r.updateObject lm data ch id).moveObject ch id).objMgr.objects.lookup id =
      some (.projectile q) ∧
      of q = (of p).tick lm.cmath (GameConfig.tickIntervalSec, place (r.getObject p.ownerId)) := by
  have hupdate : (r.updateObject lm data ch id).objMgr.objects.lookup id =
      some (.projectile (p.update lm GameConfig.tickIntervalSec (r.getObject p.ownerId))) := by
    unfold Room.updateObject
    rw [h]
    simp only [halive, Bool.false_eq_true, if_false]
    exact lookup_modProjectile h _
  refine ⟨_, ?_, of_tick hslide lm p GameConfig.tickIntervalSec (r.getObject p.ownerId)⟩
  unfold Room.moveObject
  rw [hupdate]
  exact lookup_modProjectile hupdate _

/-! ## Linear projectiles -/

variable {f : Cmath K} {c : Course K} {t : K × Option (K × K)} {ticks : List (K × Option (K × K))}

theorem isDead_tick (h : c.isDead = true) : c.tick f t = c := by
  unfold tick update
  rw [if_pos h]
  unfold moved
  rw [h, Bool.true_or, if_pos rfl]

theorem fly_cons : c.fly f (t :: ticks) = (c.tick f t).fly f ticks := rfl

theorem alive_of_fly {c : Course K} (ticks : List (K × Option (K × K)))
    (h : (c.fly f ticks).isDead = false) : c.isDead = false := by
  cases hdead : c.isDead with
  | false => rfl
  | true =>
    have hsame : c.fly f ticks = c := by
      unfold fly
      refine List.foldlRecOn (motive := fun c' => c' = c) ticks (tick f) rfl fun c' hc' t _ => ?_
      rw [hc']
      exact isDead_tick hdead
    rw [hsame, hdead] at h
    cases h

/-- The physics adds the velocity, also where it skips an object that does not move. -/
theorem moved_of_alive (h : c.isDead = false) (dt : K) :
    c.moved dt = { c with x := c.x + c.vx * dt, y := c.y + c.vy * dt } := by
  unfold moved
  split
  · next hstill =>
    have hzero : c.vx * dt = 0 ∧ c.vy * dt = 0 := by simpa [h] using hstill
    rw [hzero.1, hzero.2, add_zero, add_zero]
  · rfl

theorem age_of_alive {dt : K} (h : (c.age dt).isDead = false) :
    c.isDead = false ∧ c.age dt = { c with lifetime := c.lifetime - dt } := by
  unfold age at h ⊢
  dsimp only at h ⊢
  split at h
  · cases h
  · next hage => exact ⟨h, if_neg hage⟩

theorem isDead_moved (c : Course K) (dt : K) : (c.moved dt).isDead = c.isDead := by
  unfold moved
  split <;> rfl

/-- **A linear projectile moves twice.** -/
theorem tick_linear (hlinear : c.isOrbit = false) (h : (c.tick f t).isDead = false) :
    c.traveledDistance + c.speed f * t.1 < c.maxRange ∧
      c.tick f t = { c with
        x := c.x + 2 * (c.vx * t.1), y := c.y + 2 * (c.vy * t.1)
        traveledDistance := c.traveledDistance + c.speed f * t.1,
        lifetime := c.lifetime - t.1 } := by
  have hdead : c.isDead = false := alive_of_fly [t] h
  have hupdate : c.update f t.1 t.2 = (c.updateLinear f t.1).age t.1 := by
    unfold update
    rw [if_neg (by simp [hdead]), if_neg (by simp [hlinear])]
  unfold tick at h ⊢
  rw [isDead_moved] at h
  rw [moved_of_alive h]
  rw [hupdate] at h ⊢
  obtain ⟨halive, hage⟩ := age_of_alive h
  rw [hage]
  unfold updateLinear at halive ⊢
  dsimp only at halive ⊢
  split at halive
  · cases halive
  · next hrange =>
    have hx : c.x + c.vx * t.1 + c.vx * t.1 = c.x + 2 * (c.vx * t.1) := by ring
    have hy : c.y + c.vy * t.1 + c.vy * t.1 = c.y + 2 * (c.vy * t.1) := by ring
    rw [if_neg hrange]
    dsimp only
    rw [hx, hy]
    exact ⟨not_le.mp hrange, rfl⟩

def time (ticks : List (K × Option (K × K))) : K := (ticks.map Prod.fst).sum

omit [LinearOrder K] in
theorem time_cons : time (t :: ticks) = t.1 + time ticks := by
  unfold time
  rw [List.map_cons, List.sum_cons]

/-- **Ticks of a linear projectile.** -/
theorem fly_linear (hlinear : c.isOrbit = false) (h : (c.fly f ticks).isDead = false) :
    c.fly f ticks = { c with
      x := c.x + 2 * (c.vx * time ticks), y := c.y + 2 * (c.vy * time ticks)
      traveledDistance := c.traveledDistance + c.speed f * time ticks,
      lifetime := c.lifetime - time ticks } := by
  induction ticks generalizing c with
  | nil =>
    show c = { c with
      x := c.x + 2 * (c.vx * 0), y := c.y + 2 * (c.vy * 0)
      traveledDistance := c.traveledDistance + c.speed f * 0, lifetime := c.lifetime - 0 }
    simp only [mul_zero, add_zero, sub_zero]
  | cons t ticks ih =>
    rw [fly_cons] at h ⊢
    obtain ⟨-, htick⟩ := tick_linear hlinear (alive_of_fly ticks h)
    have hlinear' : (c.tick f t).isOrbit = false := by
      rw [htick]
      exact hlinear
    have hspeed : (c.tick f t).speed f = c.speed f := by
      rw [htick]
      rfl
    rw [ih hlinear' h, hspeed, htick, time_cons]
    dsimp only
    congr 1 <;> ring

theorem fly_range (hlinear : c.isOrbit = false) (hne : ticks ≠ [])
    (h : (c.fly f ticks).isDead = false) :
    c.traveledDistance + c.speed f * time ticks < c.maxRange := by
  induction ticks using List.reverseRecOn with
  | nil => exact absurd rfl hne
  | append_singleton ticks t _ =>
    unfold fly at h
    rw [List.foldl_append, List.foldl_cons, List.foldl_nil] at h
    have hbefore : (c.fly f ticks).isDead = false := by
      cases hdead : (c.fly f ticks).isDead with
      | false => rfl
      | true =>
        have hsame := isDead_tick (f := f) (t := t) hdead
        unfold fly at hsame hdead
        rw [hsame, hdead] at h
        cases h
    have hfly := fly_linear hlinear hbefore
    have hlast : (c.fly f ticks).isOrbit = false := by
      rw [hfly]
      exact hlinear
    have hlt := (tick_linear hlast h).1
    rw [hfly] at hlt
    have htime : time (ticks ++ [t]) = time ticks + t.1 := by
      unfold time
      rw [List.map_append, List.sum_append, List.map_singleton, List.sum_singleton]
    have hsum : c.traveledDistance + c.speed f * time (ticks ++ [t]) =
        c.traveledDistance + c.speed f * time ticks + c.speed f * t.1 := by
      rw [htime]
      ring
    rw [hsum]
    exact hlt

/-! ## Projectiles in orbit -/

/-- **A projectile in orbit leaves its circle.** -/
theorem tick_orbit {o : K × K} {dt : K} (horbit : c.isOrbit = true)
    (h : (c.tick f (dt, some o)).isDead = false) :
    (c.tick f (dt, some o)).x = o.1 + c.orbitRadius * f.cos (c.currentAngle + c.orbitSpeed * dt) +
        -c.orbitRadius * f.sin (c.currentAngle + c.orbitSpeed * dt) * c.orbitSpeed * dt ∧
      (c.tick f (dt, some o)).y = o.2 + c.orbitRadius * f.sin (c.currentAngle + c.orbitSpeed * dt) +
        c.orbitRadius * f.cos (c.currentAngle + c.orbitSpeed * dt) * c.orbitSpeed * dt := by
  have hdead : c.isDead = false := alive_of_fly [(dt, some o)] h
  have hupdate : c.update f dt (some o) = (c.updateOrbit f dt (some o)).age dt := by
    unfold update
    rw [if_neg (by simp [hdead]), if_pos horbit]
  unfold tick at h ⊢
  rw [isDead_moved] at h
  rw [moved_of_alive h]
  dsimp only at h ⊢
  rw [hupdate] at h ⊢
  rw [(age_of_alive h).2]
  exact ⟨rfl, rfl⟩

/-! ## Over the reals -/

noncomputable def realMath : Cmath ℝ := ⟨Real.sqrt, Real.sin, Real.cos⟩

/-- What the velocity promises: every tick displaces by velocity * dt, the counter is the length of
the path, and the projectile stays within its range of where it was fired. -/
structure StraightExact (c : Course ℝ) (ticks : List (ℝ × Option (ℝ × ℝ))) : Prop where
  displaced : ∀ before t after, ticks = before ++ t :: after →
    ((c.fly realMath before).tick realMath t).x =
      (c.fly realMath before).x + (c.fly realMath before).vx * t.1 ∧
      ((c.fly realMath before).tick realMath t).y =
        (c.fly realMath before).y + (c.fly realMath before).vy * t.1
  counted : (c.fly realMath ticks).traveledDistance = pathLength realMath c ticks
  inRange : distance realMath c (c.fly realMath ticks) ≤ c.maxRange

/-- No tick has a displacement. -/
def Still (c : Course ℝ) (ticks : List (ℝ × Option (ℝ × ℝ))) : Prop :=
  ∀ t ∈ ticks, c.vx * t.1 = 0 ∧ c.vy * t.1 = 0

section
variable {c : Course ℝ} {ticks : List (ℝ × Option (ℝ × ℝ))}

theorem sqrt_double {vx vy s : ℝ} (hs : 0 ≤ s) :
    Real.sqrt (2 * (vx * s) * (2 * (vx * s)) + 2 * (vy * s) * (2 * (vy * s))) =
      2 * (Real.sqrt (vx * vx + vy * vy) * s) := by
  have hsq : 2 * (vx * s) * (2 * (vx * s)) + 2 * (vy * s) * (2 * (vy * s)) =
    (2 * s) ^ 2 * (vx * vx + vy * vy) := by ring
  rw [hsq, Real.sqrt_mul (sq_nonneg _), Real.sqrt_sq (by linarith)]
  ring

theorem distance_fly (ticks : List (ℝ × Option (ℝ × ℝ))) (hlinear : c.isOrbit = false)
    (htime : 0 ≤ time ticks) (h : (c.fly realMath ticks).isDead = false) :
    distance realMath c (c.fly realMath ticks) = 2 * (c.speed realMath * time ticks) := by
  rw [fly_linear hlinear h]
  unfold distance
  dsimp only
  rw [add_sub_cancel_left, add_sub_cancel_left]
  exact sqrt_double htime

/-- How far a projectile gets before its range ends it. -/
theorem distance_lt (hlinear : c.isOrbit = false) (hfresh : c.traveledDistance = 0)
    (hne : ticks ≠ []) (htime : 0 ≤ time ticks) (h : (c.fly realMath ticks).isDead = false) :
    distance realMath c (c.fly realMath ticks) < 2 * c.maxRange := by
  have hlt := fly_range hlinear hne h
  rw [hfresh, zero_add] at hlt
  rw [distance_fly ticks hlinear htime h]
  linarith

theorem time_nonneg (hdt : ∀ t ∈ ticks, 0 ≤ t.1) : 0 ≤ time ticks := by
  refine List.sum_nonneg fun x hx => ?_
  obtain ⟨t, ht, rfl⟩ := List.mem_map.mp hx
  exact hdt t ht

theorem pathLength_linear (hlinear : c.isOrbit = false) (hdt : ∀ t ∈ ticks, 0 ≤ t.1)
    (h : (c.fly realMath ticks).isDead = false) :
    pathLength realMath c ticks = 2 * (c.speed realMath * time ticks) := by
  induction ticks generalizing c with
  | nil => simp [pathLength, time]
  | cons t ticks ih =>
    have halive : (c.tick realMath t).isDead = false := alive_of_fly _ h
    obtain ⟨-, htick⟩ := tick_linear hlinear halive
    have hfirst : distance realMath c (c.tick realMath t) = 2 * (c.speed realMath * t.1) := by
      have hone := distance_fly [t] hlinear (time_nonneg fun x hx => hdt x (by simp_all)) halive
      have htime : time [t] = t.1 := by simp [time]
      rw [htime] at hone
      exact hone
    have hlin : (c.tick realMath t).isOrbit = false := by
      rw [htick]
      exact hlinear
    have hspeed : (c.tick realMath t).speed realMath = c.speed realMath := by
      rw [htick]
      rfl
    have hrest := ih hlin (fun x hx => hdt x (List.mem_cons_of_mem _ hx)) h
    unfold pathLength
    rw [hfirst, hrest, hspeed, time_cons]
    ring

theorem speed_mul_time (hstill : Still c ticks) : c.speed realMath * time ticks = 0 := by
  by_cases hv : c.vx = 0 ∧ c.vy = 0
  · have hspeed : c.speed realMath = 0 := by
      show Real.sqrt (c.vx * c.vx + c.vy * c.vy) = 0
      rw [hv.1, hv.2, mul_zero, add_zero, Real.sqrt_zero]
    rw [hspeed, zero_mul]
  · have hzero : ∀ t ∈ ticks, t.1 = 0 := by
      intro t ht
      obtain ⟨hx, hy⟩ := hstill t ht
      rcases mul_eq_zero.mp hx with hx | ht0
      · rcases mul_eq_zero.mp hy with hy | ht0
        · exact absurd ⟨hx, hy⟩ hv
        · exact ht0
      · exact ht0
    have htime : time ticks = 0 := by
      refine List.sum_eq_zero fun x hx => ?_
      obtain ⟨t, ht, rfl⟩ := List.mem_map.mp hx
      exact hzero t ht
    rw [htime, mul_zero]

theorem tick_in_fly {before after : List (ℝ × Option (ℝ × ℝ))} {t : ℝ × Option (ℝ × ℝ)}
    (hlinear : c.isOrbit = false) (h : (c.fly realMath (before ++ t :: after)).isDead = false) :
    ((c.fly realMath before).vx = c.vx ∧ (c.fly realMath before).vy = c.vy) ∧
      ((c.fly realMath before).tick realMath t).x = (c.fly realMath before).x + 2 * (c.vx * t.1) ∧
      ((c.fly realMath before).tick realMath t).y =
        (c.fly realMath before).y + 2 * (c.vy * t.1) := by
  have hsplit : c.fly realMath (before ++ t :: after) =
      ((c.fly realMath before).tick realMath t).fly realMath after := by
    unfold fly
    rw [List.foldl_append, List.foldl_cons]
  rw [hsplit] at h
  have htick : ((c.fly realMath before).tick realMath t).isDead = false := alive_of_fly _ h
  have hfly := fly_linear hlinear (alive_of_fly [t] htick)
  have hlin : (c.fly realMath before).isOrbit = false := by
    rw [hfly]
    exact hlinear
  have hvx : (c.fly realMath before).vx = c.vx := by rw [hfly]
  have hvy : (c.fly realMath before).vy = c.vy := by rw [hfly]
  rw [(tick_linear hlin htick).2]
  dsimp only
  rw [hvx, hvy]
  exact ⟨⟨rfl, rfl⟩, rfl, rfl⟩

theorem still_of_displaced (hlinear : c.isOrbit = false) (h : (c.fly realMath ticks).isDead = false)
    (hexact : StraightExact c ticks) : Still c ticks := by
  intro t ht
  obtain ⟨before, after, rfl⟩ := List.append_of_mem ht
  obtain ⟨hx, hy⟩ := hexact.displaced before t after rfl
  obtain ⟨⟨hvx, hvy⟩, hx', hy'⟩ := tick_in_fly hlinear h
  rw [hvx] at hx
  rw [hvy] at hy
  constructor
  · linarith
  · linarith

theorem exact_of_still (hlinear : c.isOrbit = false) (hfresh : c.traveledDistance = 0)
    (hrange : 0 ≤ c.maxRange) (hdt : ∀ t ∈ ticks, 0 ≤ t.1)
    (h : (c.fly realMath ticks).isDead = false) (hstill : Still c ticks) :
    StraightExact c ticks := by
  have hzero := speed_mul_time hstill
  refine ⟨fun before t after hsplit => ?_, ?_, ?_⟩
  · subst hsplit
    obtain ⟨hx, hy⟩ := hstill t (by simp)
    obtain ⟨⟨hvx, hvy⟩, hx', hy'⟩ := tick_in_fly hlinear h
    rw [hvx, hvy]
    constructor
    · linarith
    · linarith
  · rw [pathLength_linear hlinear hdt h, fly_linear hlinear h]
    dsimp only
    rw [hfresh, hzero]
    ring
  · rw [distance_fly ticks hlinear (time_nonneg hdt) h, hzero, mul_zero]
    exact hrange

theorem orbit_distSq {o : ℝ × ℝ} {dt : ℝ} (horbit : c.isOrbit = true)
    (h : (c.tick realMath (dt, some o)).isDead = false) :
    ((c.tick realMath (dt, some o)).x - o.1) ^ 2 + ((c.tick realMath (dt, some o)).y - o.2) ^ 2 =
      c.orbitRadius ^ 2 + (c.orbitRadius * c.orbitSpeed * dt) ^ 2 := by
  obtain ⟨hx, hy⟩ := tick_orbit horbit h
  have hone := Real.sin_sq_add_cos_sq (c.currentAngle + c.orbitSpeed * dt)
  rw [hx, hy]
  show (o.1 + c.orbitRadius * Real.cos (c.currentAngle + c.orbitSpeed * dt) +
      -c.orbitRadius * Real.sin (c.currentAngle + c.orbitSpeed * dt) * c.orbitSpeed * dt -
        o.1) ^ 2 +
    (o.2 + c.orbitRadius * Real.sin (c.currentAngle + c.orbitSpeed * dt) +
      c.orbitRadius * Real.cos (c.currentAngle + c.orbitSpeed * dt) * c.orbitSpeed * dt -
        o.2) ^ 2 = _
  linear_combination (c.orbitRadius ^ 2 + (c.orbitRadius * c.orbitSpeed * dt) ^ 2) * hone

theorem orbit_exact_iff {o : ℝ × ℝ} {dt : ℝ} (horbit : c.isOrbit = true)
    (hradius : 0 ≤ c.orbitRadius) (h : (c.tick realMath (dt, some o)).isDead = false) :
    Real.sqrt (((c.tick realMath (dt, some o)).x - o.1) ^ 2 +
        ((c.tick realMath (dt, some o)).y - o.2) ^ 2) = c.orbitRadius ↔
      c.orbitRadius * c.orbitSpeed * dt = 0 := by
  rw [orbit_distSq horbit h]
  constructor
  · intro heq
    have hsq : c.orbitRadius ^ 2 + (c.orbitRadius * c.orbitSpeed * dt) ^ 2 = c.orbitRadius ^ 2 := by
      have hnonneg : 0 ≤ c.orbitRadius ^ 2 + (c.orbitRadius * c.orbitSpeed * dt) ^ 2 := by
        positivity
      rw [← Real.sq_sqrt hnonneg, heq]
    exact pow_eq_zero_iff (two_ne_zero) |>.mp (by linarith)
  · intro hzero
    rw [hzero, zero_pow two_ne_zero, add_zero]
    exact Real.sqrt_sq hradius

end

/-- **Projectiles keep to their velocity just where they do not move**: the motion of a linear
projectile that is alive after some ticks is exact iff no tick displaces it, and a projectile in
orbit is on its circle iff it does not go round. -/
theorem kinematics_exact_iff (c : Course ℝ) (ticks : List (ℝ × Option (ℝ × ℝ))) (s : Course ℝ)
    (o : ℝ × ℝ) (dt : ℝ) (hlinear : c.isOrbit = false) (hfresh : c.traveledDistance = 0)
    (hrange : 0 ≤ c.maxRange) (hdt : ∀ t ∈ ticks, 0 ≤ t.1)
    (halive : (c.fly realMath ticks).isDead = false) (horbit : s.isOrbit = true)
    (hradius : 0 ≤ s.orbitRadius) (hsalive : (s.tick realMath (dt, some o)).isDead = false) :
    (StraightExact c ticks ↔ Still c ticks) ∧
    (Real.sqrt (((s.tick realMath (dt, some o)).x - o.1) ^ 2 +
        ((s.tick realMath (dt, some o)).y - o.2) ^ 2) = s.orbitRadius ↔
      s.orbitRadius * s.orbitSpeed * dt = 0) := by
  refine ⟨⟨?_, ?_⟩, orbit_exact_iff horbit hradius hsalive⟩
  · exact still_of_displaced hlinear halive
  · exact exact_of_still hlinear hfresh hrange hdt halive

/-- A projectile with velocity (3, 4), and one in orbit. -/
def arrow : Course ℝ := ⟨0, 0, 3, 4, 0, 50, 5, false, false, false, 0, 0, 0⟩

def satellite : Course ℝ := ⟨1, 0, 0, 0, 0, 50, 5, false, false, true, 1, 1, 0⟩

theorem speed_arrow : arrow.speed realMath = 5 := by
  show Real.sqrt (3 * 3 + 4 * 4) = 5
  have h25 : (3 * 3 + 4 * 4 : ℝ) = 5 ^ 2 := by norm_num
  rw [h25]
  exact Real.sqrt_sq (by norm_num)

theorem alive_arrow : (arrow.fly realMath [(1, none)]).isDead = false := by
  have hspeed := speed_arrow
  show (((arrow.updateLinear realMath 1).age 1).moved 1).isDead = false
  rw [isDead_moved]
  unfold updateLinear
  dsimp only
  rw [hspeed]
  norm_num [arrow, age, die]

theorem distance_lt_arrow :
    distance realMath arrow (arrow.fly realMath [(1, none)]) < 2 * arrow.maxRange :=
  distance_lt rfl rfl (List.cons_ne_nil _ _) (by simp [time]) alive_arrow

theorem alive_satellite : (satellite.tick realMath (1, some (0, 0))).isDead = false := by
  show (((satellite.updateOrbit realMath 1 (some (0, 0))).age 1).moved 1).isDead = false
  rw [isDead_moved]
  norm_num [updateOrbit, satellite, age, die]

theorem kinematics_exact_iff_arrow :
    (StraightExact arrow [(1, none)] ↔ Still arrow [(1, none)]) ∧
      (Real.sqrt (((satellite.tick realMath (1, some (0, 0))).x - 0) ^ 2 +
        ((satellite.tick realMath (1, some (0, 0))).y - 0) ^ 2) = 1 ↔ (1 : ℝ) * 1 * 1 = 0) :=
  kinematics_exact_iff arrow [(1, none)] satellite (0, 0) 1 rfl rfl (by norm_num [arrow])
    (by simp) alive_arrow rfl zero_le_one alive_satellite

/-- `sqrt` as far as the arrow needs it. -/
def archery : Libm := ⟨fun q => if q = 25 then 5 else 0, fun _ => 0, fun _ => 1⟩

def shootingRange : Room :=
  { Room.make 1 false with
    objMgr :=
      ObjectManager.empty.addObject
        (.projectile { Projectile.make with id := 1001, ownerId := 5, vx := 3, vy := 4 })
    players := (∅ : AList fun _ : Nat => Nat).insert 5 0
    gameStarted := true }

/-- In a tick of 1/25 the arrow of the room is displaced by 2/25 of its velocity and counts 5/25;
and the projectile in orbit at radius 1 is at distance √2. -/
theorem kinematics_doubled :
    (((shootingRange.executeUpdate archery smallData .idle).1.objMgr.getProjectile 1001).map
      fun p =>
      (p.isDead, p.x, p.y, p.traveledDistance)) = some (false, 6 / 25, 8 / 25, 1 / 5) ∧
    ((satellite.tick realMath (1, some (0, 0))).x - 0) ^ 2 +
      ((satellite.tick realMath (1, some (0, 0))).y - 0) ^ 2 = 2 := by
  refine ⟨by decide +kernel, ?_⟩
  refine (orbit_distSq (c := satellite) rfl alive_satellite).trans ?_
  norm_num [satellite]

end Course

end ToyServer.SimpleGame
