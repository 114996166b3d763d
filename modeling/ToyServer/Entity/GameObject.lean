import ToyServer.Entity.ModifierContainer

/-!
# The objects of a room

`GameObject` and its classes `Monster`, `Projectile` and `ExpGem`, with the member functions that
change them.  `float` is read as a rational; `std::sqrt`, `std::sin` and `std::cos` are left open
(`Libm`).
-/

namespace ToyServer.SimpleGame

/-- The functions of `<cmath>` that the game uses, as they are on `float`. -/
structure Libm where
  sqrt : ℚ → ℚ
  sin : ℚ → ℚ
  cos : ℚ → ℚ

inductive ObjectType where
  | unknown | player | monster | projectile | item
deriving DecidableEq, Repr

inductive ObjectState where
  | idle | moving | attacking | dead | downed | knockback | stunned
deriving DecidableEq, Repr

/-- What the clients were told last. -/
structure LastSent where
  x : ℚ
  y : ℚ
  vx : ℚ
  vy : ℚ
  time : ℚ
  serverTick : Nat
  state : ObjectState
deriving DecidableEq, Repr

/-- The place of the object in the spatial grid. -/
structure GridInfo where
  cellKey : Int
  inGrid : Bool
deriving DecidableEq, Repr

/-- The members that all objects have. -/
structure GameObject where
  id : Int
  type : ObjectType
  state : ObjectState
  stateExpiresAt : ℚ
  x : ℚ
  y : ℚ
  vx : ℚ
  vy : ℚ
  radius : ℚ
  lookLeft : Bool
  hp : Int
  maxHp : Int
  lastSent : LastSent
  modifiers : ModifierContainer
  grid : GridInfo

def LastSent.none : LastSent := ⟨0, 0, 0, 0, 0, 0, .idle⟩

def GridInfo.none : GridInfo := ⟨0, false⟩

namespace GameObject

def make (id : Int) (type : ObjectType) : GameObject :=
  { id, type, state := .idle, stateExpiresAt := 0, x := 0, y := 0, vx := 0, vy := 0,
    radius := 1 / 2, lookLeft := false,
    hp := 100, maxHp := 100, lastSent := .none, modifiers := .empty, grid := .none }

variable (o : GameObject)

def isDead : Bool := o.state == .dead

/-- Neither input nor AI moves the object. -/
def isControlDisabled : Bool := o.state == .knockback || o.state == .stunned || o.state == .dead

def setPos (x y : ℚ) : GameObject := { o with x, y }

/-- The side an object looks to follows a velocity that is not too small. -/
def lookAfter (lookLeft : Bool) (vx : ℚ) : Bool :=
  if vx < -1 / 10 then true else if 1 / 10 < vx then false else lookLeft

/-- The object looks where it goes. -/
def setVelocity (vx vy : ℚ) : GameObject := { o with vx, vy, lookLeft := lookAfter o.lookLeft vx }

def setState (state : ObjectState) (expiresAt : ℚ) : GameObject :=
  { o with state, stateExpiresAt := expiresAt }

/-- A state with an end gives way to idle. -/
def updateStateExpiry (currentTime : ℚ) : GameObject :=
  if 0 < o.stateExpiresAt ∧ o.stateExpiresAt ≤ currentTime then
    { o with state := .idle, stateExpiresAt := 0 } else o

def updateLastSentState (time : ℚ) (serverTick : Nat) : GameObject :=
  { o with lastSent := ⟨o.x, o.y, o.vx, o.vy, time, serverTick, o.state⟩ }

end GameObject

/-! ## Monsters -/

inductive MonsterAIType where
  | chaser | wander | swarm | boss
deriving DecidableEq, Repr

/-- The classes of `IAIBehavior` with the speed they are made for; what an AI remembers is left
out. -/
inductive AIBehavior where
  | chaser (speed : ℚ)
  | wander (speed : ℚ)
  | swarm (speed : ℚ)
  | boss
deriving DecidableEq, Repr

inductive MovementStrategy where
  | cellBased | smartFlocking | fluidStacking | strictSeparation | surroundingFlocking
  | vampireSurvivor
deriving DecidableEq, Repr

/-- A monster; its speed is a stat with modifiers. -/
structure Monster extends GameObject where
  ai : Option AIBehavior
  movementStrategy : MovementStrategy
  monsterTypeId : Int
  targetId : Int
  aliveTime : ℚ
  stuckTimer : ℚ
  damageOnContact : Int
  attackCooldown : ℚ
  lastAttackTime : ℚ

/-- A row of the table of monsters. -/
structure MonsterInfo where
  hp : Int
  speed : ℚ
  radius : ℚ
  damageOnContact : Int
  attackCooldown : ℚ
  aiType : MonsterAIType
deriving DecidableEq, Repr

/-- The source of the slow around a player that levels up. -/
def levelUpSlowSourceId : Int := 1000

namespace Monster

def make : Monster :=
  { GameObject.make 0 .monster with
    ai := none, movementStrategy := .cellBased, monsterTypeId := 0, targetId := 0,
    aliveTime := 0, stuckTimer := 0,
    damageOnContact := 10, attackCooldown := 1, lastAttackTime := -100 }

variable (m : Monster)

/-- `TakeDamage`; the room drops a gem for a monster that dies. -/
def takeDamage (damage : Int) : Monster :=
  if m.isDead then m
  else if m.hp - damage ≤ 0 then { m with hp := 0, state := .dead, stateExpiresAt := 0 }
  else { m with hp := m.hp - damage }

/-- The cooldown since the last attack is over. -/
def canAttack (currentTime : ℚ) : Bool := decide (m.attackCooldown ≤ currentTime - m.lastAttackTime)

def resetAttackCooldown (currentTime : ℚ) : Monster := { m with lastAttackTime := currentTime }

/-- Speed times 15 percent; it does not stack. -/
def levelUpSlow (currentTime duration : ℚ) : StatModifier :=
  ⟨.speed, .percentMult, 15 / 100, levelUpSlowSourceId, currentTime + duration, false⟩

def addLevelUpSlow (currentTime duration : ℚ) : Monster :=
  { m with modifiers := m.modifiers.addModifier (levelUpSlow currentTime duration) }

def removeLevelUpSlow : Monster :=
  { m with modifiers := m.modifiers.removeBySourceId levelUpSlowSourceId }

/-- `AddStatusEffect`; only the slow is for the monster itself. -/
def addStatusEffect (slow : Bool) (value duration currentTime : ℚ) : Monster :=
  if slow then
    { m with modifiers := m.modifiers.addModifier ⟨.speed, .percentMult, value, 2000,
      currentTime + duration, false⟩ }
  else m

/-- The timers and modifiers in `Update`; then the AI thinks and moves, unless control is
disabled. -/
def update (dt currentTime : ℚ) : Monster :=
  { m with
    toGameObject :=
      { m.toGameObject.updateStateExpiry currentTime with
        modifiers := m.modifiers.update currentTime }
    aliveTime := m.aliveTime + dt
    stuckTimer := if 0 < m.stuckTimer then m.stuckTimer - dt else m.stuckTimer }

/-- `Monster::Reset`, which hides `GameObject::Reset`. -/
def reset : Monster :=
  { m with
    id := 0, monsterTypeId := 0, targetId := 0, x := 0, y := 0, vx := 0, vy := 0,
    hp := 100, maxHp := 100,
    aliveTime := 0, radius := 1 / 2, damageOnContact := 10,
    attackCooldown := 1, lastAttackTime := -100,
    state := .idle, stateExpiresAt := 0, stuckTimer := 0, modifiers := m.modifiers.clear }

def init (id monsterTypeId hp : Int) (radius : ℚ) (damage : Int) (cooldown speed : ℚ) : Monster :=
  { m with
    id, monsterTypeId, hp, maxHp := hp, radius,
    damageOnContact := damage, attackCooldown := cooldown,
    lastAttackTime := -100, aliveTime := 0, state := .idle,
    modifiers := m.modifiers.setBaseStat .speed speed }

end Monster

/-! ## Projectiles and gems -/

/-- A projectile, linear or in orbit around its owner. -/
structure Projectile extends GameObject where
  ownerId : Int
  skillId : Int
  typeId : Int
  damage : Int
  lifetime : ℚ
  maxRange : ℚ
  traveledDistance : ℚ
  isHit : Bool
  pierceCount : Int
  hitTargets : List Int
  isOrbit : Bool
  orbitRadius : ℚ
  orbitSpeed : ℚ
  currentAngle : ℚ

namespace Projectile

def make : Projectile :=
  { GameObject.make 0 .projectile with
    ownerId := 0, skillId := 0, typeId := 0, damage := 0, lifetime := 5,
    maxRange := 50, traveledDistance := 0,
    isHit := false, pierceCount := 0, hitTargets := [], isOrbit := false,
    orbitRadius := 0, orbitSpeed := 0, currentAngle := 0 }

section
variable (p : Projectile)

def init (id ownerId skillId typeId : Int) : Projectile :=
  { p with
    id, ownerId, skillId, typeId, damage := 0, lifetime := 5, maxRange := 50,
    traveledDistance := 0, vx := 0, vy := 0,
    x := 0, y := 0, isHit := false, hitTargets := [], state := .idle,
    stateExpiresAt := 0, isOrbit := false, orbitRadius := 0, orbitSpeed := 0, currentAngle := 0 }

/-- `Projectile::Reset`, which hides `GameObject::Reset`. -/
def reset : Projectile :=
  { p with
    id := 0, ownerId := 0, skillId := 0, typeId := 0, damage := 0, lifetime := 0,
    maxRange := 50, traveledDistance := 0,
    vx := 0, vy := 0, isHit := false, hitTargets := [], state := .idle,
    stateExpiresAt := 0, isOrbit := false, orbitRadius := 0, orbitSpeed := 0, currentAngle := 0 }

/-- The lifetime is over, it was used up or it died. -/
def isExpired : Bool := decide (p.lifetime ≤ 0) || p.isHit || p.isDead

def setOrbit (radius speed initialAngle : ℚ) : Projectile :=
  { p with
    isOrbit := true, orbitRadius := radius, orbitSpeed := speed, currentAngle := initialAngle }

/-- `OnHit`: a negative count pierces without end. -/
def onHit : Bool × Projectile :=
  if p.pierceCount ≠ 0 then
    (false,
      { p with pierceCount := if 0 < p.pierceCount then p.pierceCount - 1 else p.pierceCount })
  else (true, { p with isHit := true })

def addHit (targetId : Int) : Projectile := { p with hitTargets := p.hitTargets ++ [targetId] }

def die : Projectile := { p with state := .dead, stateExpiresAt := 0 }

/-- The range is counted before the step is made. -/
def updateLinear (lm : Libm) (p : Projectile) (dt : ℚ) : Projectile :=
  let speed := lm.sqrt (p.vx * p.vx + p.vy * p.vy)
  let p := { p with traveledDistance := p.traveledDistance + speed * dt }
  if p.maxRange ≤ p.traveledDistance then p.die
  else { p with x := p.x + p.vx * dt, y := p.y + p.vy * dt }

/-- `UpdateOrbit`; `owner` is the object of `_ownerId` in the room. -/
def updateOrbit (lm : Libm) (p : Projectile) (dt : ℚ) (owner : Option GameObject) : Projectile :=
  match owner with
  | none => p.die
  | some o =>
    if o.isDead then p.die
    else
      let angle := p.currentAngle + p.orbitSpeed * dt
      let moved :=
        p.toGameObject.setPos (o.x + p.orbitRadius * lm.cos angle)
          (o.y + p.orbitRadius * lm.sin angle)
      { p with
        toGameObject := moved.setVelocity (-p.orbitRadius * lm.sin angle * p.orbitSpeed)
          (p.orbitRadius * lm.cos angle * p.orbitSpeed)
        currentAngle := angle }

/-- The end of `Update`. -/
def age (dt : ℚ) : Projectile :=
  let p := { p with lifetime := p.lifetime - dt }
  if p.lifetime ≤ 0 ∨ p.isHit then p.die else p

end

def update (lm : Libm) (p : Projectile) (dt : ℚ) (owner : Option GameObject) : Projectile :=
  if p.isDead then p
  else if p.isOrbit then (p.updateOrbit lm dt owner).age dt
  else (p.updateLinear lm dt).age dt

end Projectile

/-- An item that gives experience to who picks it up. -/
structure ExpGem extends GameObject where
  expAmount : Int
  isPickedUp : Bool
  pickerId : Int

def ExpGem.make (id : Int) (x y : ℚ) (expAmount : Int) : ExpGem :=
  { GameObject.make id .item with x, y, expAmount, isPickedUp := false, pickerId := 0 }

end ToyServer.SimpleGame
