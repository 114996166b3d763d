import ToyServer.Entity.GameObject

/-!
# Monsters and projectiles from the pool

`LockFreeObjectPool` calls `Reset` when it hands out an object again, and the factories then
initialise it.  Some members are set by neither: `Monster::Reset` and `Projectile::Reset` hide
`GameObject::Reset`.  So an object shows parts of its earlier lives.  `recycled_equals_fresh_iff`
says which members have to be as the constructor left them for a recycled object to equal a new one.
-/

namespace ToyServer.SimpleGame

/-! ## The pool -/

structure LockFreeObjectPool (T : Type) where
  pool : List T
  allocCount : Nat
  poolCount : Nat
  /-- zero is no limit -/
  allocLimit : Nat
  poolLimit : Nat

namespace LockFreeObjectPool

variable {T : Type}

def make (allocLimit poolLimit : Nat) : LockFreeObjectPool T := ⟨[], 0, 0, allocLimit, poolLimit⟩

/-- `Pop`; `new` is what the constructor makes. -/
def pop (new : T) (reset : T → T) (p : LockFreeObjectPool T) : Option T × LockFreeObjectPool T :=
  match p.pool with
  | obj :: rest => (some (reset obj), { p with pool := rest, poolCount := p.poolCount - 1 })
  | [] =>
    if 0 < p.allocLimit ∧ p.allocLimit ≤ p.allocCount then (none, p)
    else (some new, { p with allocCount := p.allocCount + 1 })

/-- `Push`: no `Reset` here. -/
def push (p : LockFreeObjectPool T) (obj : T) : LockFreeObjectPool T :=
  if p.poolCount < p.poolLimit then { p with pool := p.pool ++ [obj], poolCount := p.poolCount + 1 }
  else { p with allocCount := p.allocCount - 1 }

end LockFreeObjectPool

/-! ## The factories -/

/-- The arguments of `CreateMonster`, with the id that `GenerateId` returns. -/
structure MonsterArgs where
  id : Int
  monsterTypeId : Int
  x : ℚ
  y : ℚ
  hpOverride : Int
deriving DecidableEq, Repr

/-- The arguments of `CreateProjectile`, with the id that `GenerateId` returns. -/
structure ProjectileArgs where
  id : Int
  ownerId : Int
  skillId : Int
  typeId : Int
  x : ℚ
  y : ℚ
  vx : ℚ
  vy : ℚ
  damage : Int
  lifetime : ℚ
deriving DecidableEq, Repr

def createAI : MonsterAIType → ℚ → AIBehavior
  | .chaser, speed => .chaser speed
  | .wander, speed => .wander speed
  | .swarm, speed => .swarm speed
  | .boss, _ => .boss

/-- What `CreateMonster` does with the object from the pool. -/
def Monster.spawn (m : Monster) (tmpl : MonsterInfo) (args : MonsterArgs) : Monster :=
  let finalHp := if 0 < args.hpOverride then args.hpOverride else tmpl.hp
  let m :=
    m.init args.id args.monsterTypeId finalHp tmpl.radius tmpl.damageOnContact
      tmpl.attackCooldown tmpl.speed
  { m with
    toGameObject := (m.toGameObject.setVelocity 0 0).setPos args.x args.y
    ai := some (createAI tmpl.aiType tmpl.speed) }

def createMonster (infos : Int → Option MonsterInfo) (pool : LockFreeObjectPool Monster)
    (args : MonsterArgs) : Option Monster × LockFreeObjectPool Monster :=
  match infos args.monsterTypeId with
  | none => (none, pool)
  | some tmpl =>
    match pool.pop Monster.make Monster.reset with
    | (none, pool) => (none, pool)
    | (some m, pool) => (some (m.spawn tmpl args), pool)

/-- What `CreateProjectile` does with the object from the pool. -/
def Projectile.spawn (p : Projectile) (args : ProjectileArgs) : Projectile :=
  let p := p.init args.id args.ownerId args.skillId args.typeId
  { p with
    toGameObject := (p.toGameObject.setPos args.x args.y).setVelocity args.vx args.vy
    damage := args.damage, lifetime := args.lifetime }

def createProjectile (pool : LockFreeObjectPool Projectile) (args : ProjectileArgs) :
    Option Projectile × LockFreeObjectPool Projectile :=
  match pool.pop Projectile.make Projectile.reset with
  | (none, pool) => (none, pool)
  | (some p, pool) => (some (p.spawn args), pool)

/-! ## The life of an object -/

/-- What anyone can do to a `GameObject`. -/
inductive ObjectOp where
  | setPos (x y : ℚ)
  | setVelocity (vx vy : ℚ)
  | setState (state : ObjectState) (expiresAt : ℚ)
  | setRadius (radius : ℚ)
  | setLookLeft (lookLeft : Bool)
  | setHp (hp : Int)
  | updateLastSentState (time : ℚ) (serverTick : Nat)
  | setGridInfo (key : Int) (inGrid : Bool)
  /-- through `GetModifiers()` -/
  | modifiers (a : ModifierAction)

def GameObject.apply (o : GameObject) : ObjectOp → GameObject
  | .setPos x y => o.setPos x y
  | .setVelocity vx vy => o.setVelocity vx vy
  | .setState state expiresAt => o.setState state expiresAt
  | .setRadius radius => { o with radius }
  | .setLookLeft lookLeft => { o with lookLeft }
  | .setHp hp => { o with hp }
  | .updateLastSentState time serverTick => o.updateLastSentState time serverTick
  | .setGridInfo key inGrid => { o with grid := ⟨key, inGrid⟩ }
  | .modifiers a => { o with modifiers := o.modifiers.apply a }

inductive MonsterOp where
  | object (a : ObjectOp)
  | takeDamage (damage : Int)
  | update (dt currentTime : ℚ)
  | addLevelUpSlow (currentTime duration : ℚ)
  | removeLevelUpSlow
  | addStatusEffect (slow : Bool) (value duration currentTime : ℚ)
  | setMovementStrategy (strategy : MovementStrategy)
  | setTargetId (targetId : Int)
  | setStuckTimer (time : ℚ)
  | resetAttackCooldown (currentTime : ℚ)
  | recycle (tmpl : MonsterInfo) (args : MonsterArgs)

def Monster.apply (m : Monster) : MonsterOp → Monster
  | .object a => { m with toGameObject := m.toGameObject.apply a }
  | .takeDamage damage => m.takeDamage damage
  | .update dt currentTime => m.update dt currentTime
  | .addLevelUpSlow currentTime duration => m.addLevelUpSlow currentTime duration
  | .removeLevelUpSlow => m.removeLevelUpSlow
  | .addStatusEffect slow value duration currentTime =>
    m.addStatusEffect slow value duration currentTime
  | .setMovementStrategy strategy => { m with movementStrategy := strategy }
  | .setTargetId targetId => { m with targetId }
  | .setStuckTimer time => { m with stuckTimer := time }
  | .resetAttackCooldown currentTime => m.resetAttackCooldown currentTime
  | .recycle tmpl args => m.reset.spawn tmpl args

inductive ProjectileOp where
  | object (a : ObjectOp)
  | update (dt : ℚ) (owner : Option GameObject)
  | setDamage (damage : Int)
  | setLifetime (lifetime : ℚ)
  | setPierce (count : Int)
  | setMaxRange (range : ℚ)
  | setOrbit (radius speed initialAngle : ℚ)
  | onHit
  | addHit (targetId : Int)
  | recycle (args : ProjectileArgs)

def Projectile.apply (lm : Libm) (p : Projectile) : ProjectileOp → Projectile
  | .object a => { p with toGameObject := p.toGameObject.apply a }
  | .update dt owner => p.update lm dt owner
  | .setDamage damage => { p with damage }
  | .setLifetime lifetime => { p with lifetime }
  | .setPierce count => { p with pierceCount := count }
  | .setMaxRange range => { p with maxRange := range }
  | .setOrbit radius speed initialAngle => p.setOrbit radius speed initialAngle
  | .onHit => p.onHit.2
  | .addHit targetId => p.addHit targetId
  | .recycle args => p.reset.spawn args

def Monster.used (history : List MonsterOp) : Monster := history.foldl Monster.apply .make

def Projectile.used (lm : Libm) (history : List ProjectileOp) : Projectile :=
  history.foldl (Projectile.apply lm) .make

/-! ## What no use changes -/

theorem GameObject.apply_fixed (o : GameObject) (a : ObjectOp) :
    (o.apply a).type = o.type ∧ (o.apply a).maxHp = o.maxHp := by
  cases a <;> exact ⟨rfl, rfl⟩

theorem GameObject.updateStateExpiry_type (o : GameObject) (currentTime : ℚ) :
    (o.updateStateExpiry currentTime).type = o.type := by
  unfold updateStateExpiry
  split <;> rfl

theorem Monster.apply_type (m : Monster) (op : MonsterOp) : (m.apply op).type = m.type := by
  cases op with
  | object a => exact (m.toGameObject.apply_fixed a).1
  | takeDamage damage =>
    show (m.takeDamage damage).type = m.type
    unfold takeDamage
    split
    · rfl
    · split <;> rfl
  | update dt currentTime => exact m.toGameObject.updateStateExpiry_type currentTime
  | addStatusEffect slow value duration currentTime =>
    show (m.addStatusEffect slow value duration currentTime).type = m.type
    unfold addStatusEffect
    split <;> rfl
  | addLevelUpSlow _ _ | removeLevelUpSlow | setMovementStrategy _ | setTargetId _ | setStuckTimer _
  | resetAttackCooldown _ | recycle _ _ => rfl

theorem Monster.used_type (history : List MonsterOp) : (used history).type = .monster :=
  List.foldlRecOn (motive := fun m => m.type = .monster) history Monster.apply rfl fun m hm op _ =>
    (m.apply_type op).trans hm

variable (p : Projectile)

theorem Projectile.age_fixed (dt : ℚ) : (p.age dt).type = p.type ∧ (p.age dt).maxHp = p.maxHp := by
  unfold age
  dsimp only
  split <;> exact ⟨rfl, rfl⟩

theorem Projectile.update_fixed (lm : Libm) (p : Projectile) (dt : ℚ) (owner : Option GameObject) :
    (p.update lm dt owner).type = p.type ∧ (p.update lm dt owner).maxHp = p.maxHp := by
  have hlinear : (p.updateLinear lm dt).type = p.type ∧ (p.updateLinear lm dt).maxHp = p.maxHp := by
    unfold updateLinear
    dsimp only
    split <;> exact ⟨rfl, rfl⟩
  have horbit : (p.updateOrbit lm dt owner).type = p.type ∧
      (p.updateOrbit lm dt owner).maxHp = p.maxHp := by
    unfold updateOrbit
    split
    · exact ⟨rfl, rfl⟩
    · split <;> exact ⟨rfl, rfl⟩
  have haged : ∀ q : Projectile, q.type = p.type ∧ q.maxHp = p.maxHp →
      (q.age dt).type = p.type ∧ (q.age dt).maxHp = p.maxHp := by
    intro q hq
    obtain ⟨htype, hmax⟩ := q.age_fixed dt
    exact ⟨htype.trans hq.1, hmax.trans hq.2⟩
  unfold update
  split
  · exact ⟨rfl, rfl⟩
  · split
    · exact haged _ horbit
    · exact haged _ hlinear

theorem Projectile.apply_fixed (lm : Libm) (p : Projectile) (op : ProjectileOp) :
    (p.apply lm op).type = p.type ∧ (p.apply lm op).maxHp = p.maxHp := by
  cases op with
  | object a => exact p.toGameObject.apply_fixed a
  | update dt owner => exact p.update_fixed lm dt owner
  | onHit =>
    show p.onHit.2.type = p.type ∧ p.onHit.2.maxHp = p.maxHp
    unfold onHit
    split <;> exact ⟨rfl, rfl⟩
  | setDamage _ | setLifetime _ | setPierce _ | setMaxRange _ | setOrbit _ _ _ | addHit _
  | recycle _ => exact ⟨rfl, rfl⟩

theorem Projectile.used_fixed (lm : Libm) (history : List ProjectileOp) :
    (used lm history).type = .projectile ∧ (used lm history).maxHp = 100 := by
  have hmake : Projectile.make.type = .projectile ∧ Projectile.make.maxHp = 100 := ⟨rfl, rfl⟩
  refine List.foldlRecOn (motive := fun p => p.type = .projectile ∧ p.maxHp = 100) history
    (Projectile.apply lm) hmake fun p hp op _ => ?_
  obtain ⟨htype, hmax⟩ := p.apply_fixed lm op
  exact ⟨htype.trans hp.1, hmax.trans hp.2⟩

/-! ## Recycled and fresh -/

/-- The members of a monster that neither `Reset` nor `CreateMonster` sets are as in a new one. -/
structure Monster.Unstained (m : Monster) : Prop where
  lookLeft : m.lookLeft = false
  lastSent : m.lastSent = .none
  grid : m.grid = .none
  movementStrategy : m.movementStrategy = .cellBased
  /-- `Clear` keeps the base stats -/
  baseStats : ∀ type ≠ .speed, m.modifiers.baseStats type = none

/-- The members of a projectile that neither `Reset` nor `CreateProjectile` sets are as in a new
one. -/
structure Projectile.Unstained (p : Projectile) (vx : ℚ) : Prop where
  radius : p.radius = 1 / 2
  /-- a fast projectile looks where it flies -/
  lookLeft : GameObject.lookAfter p.lookLeft vx = GameObject.lookAfter false vx
  hp : p.hp = 100
  lastSent : p.lastSent = .none
  modifiers : p.modifiers = .empty
  grid : p.grid = .none
  pierceCount : p.pierceCount = 0

theorem GameObject.lookAfter_zero (lookLeft : Bool) : lookAfter lookLeft 0 = lookLeft := by
  unfold lookAfter
  norm_num

theorem Monster.spawn_reset_eq_iff (m : Monster) (tmpl : MonsterInfo) (args : MonsterArgs)
    (htype : m.type = .monster) :
    m.reset.spawn tmpl args = Monster.make.spawn tmpl args ↔ m.Unstained := by
  constructor
  · intro h
    refine ⟨?_, ?_, ?_, ?_, fun type ht => ?_⟩
    · simpa [spawn, reset, init, make, GameObject.make, GameObject.setVelocity, GameObject.setPos,
        GameObject.lookAfter_zero] using congrArg (fun m => m.lookLeft) h
    · exact congrArg (fun m => m.lastSent) h
    · exact congrArg (fun m => m.grid) h
    · exact congrArg (fun m => m.movementStrategy) h
    · have hbase := congrArg (fun m => m.modifiers.baseStats type) h
      simpa [spawn, reset, init, make, GameObject.make, GameObject.setVelocity, GameObject.setPos,
        ModifierContainer.setBaseStat, ModifierContainer.setDirty, ModifierContainer.clear,
        ModifierContainer.empty, ht]
        using hbase
  · intro h
    have hbase : ∀ value, Function.update m.modifiers.baseStats .speed (some value) =
        Function.update (fun _ => none) .speed (some value) := by
      intro value
      funext type
      by_cases ht : type = .speed
      · simp [ht]
      · simp [ht, h.baseStats type ht]
    simp [spawn, reset, init, make, GameObject.make, GameObject.setVelocity, GameObject.setPos,
      GameObject.lookAfter_zero,
      ModifierContainer.setBaseStat, ModifierContainer.setDirty, ModifierContainer.clear,
      ModifierContainer.empty, htype, h.lookLeft, h.lastSent, h.grid, h.movementStrategy, hbase]

theorem Projectile.spawn_reset_eq_iff (args : ProjectileArgs) (htype : p.type = .projectile)
    (hmax : p.maxHp = 100) : p.reset.spawn args = Projectile.make.spawn args ↔
    p.Unstained args.vx := by
  constructor
  · intro h
    refine ⟨?_, ?_, ?_, ?_, ?_, ?_, ?_⟩
    · exact congrArg (fun p => p.radius) h
    · exact congrArg (fun p => p.lookLeft) h
    · exact congrArg (fun p => p.hp) h
    · exact congrArg (fun p => p.lastSent) h
    · exact congrArg (fun p => p.modifiers) h
    · exact congrArg (fun p => p.grid) h
    · exact congrArg (fun p => p.pierceCount) h
  · intro h
    simp [spawn, reset, init, make, GameObject.make, GameObject.setVelocity, GameObject.setPos,
      htype, hmax, h.radius, h.lookLeft, h.hp, h.lastSent, h.modifiers, h.grid, h.pierceCount]

/-- **A recycled object equals a fresh one** exactly when its earlier life left the members alone
that neither `Reset` nor the factory sets: when a used object is pushed to an empty pool,
`CreateMonster` and `CreateProjectile` return what they return on a pool that was never used. -/
theorem recycled_equals_fresh_iff (lm : Libm) (infos : Int → Option MonsterInfo)
    (tmpl : MonsterInfo) (monsters : LockFreeObjectPool Monster)
    (projectiles : LockFreeObjectPool Projectile) (history : List MonsterOp)
    (historyP : List ProjectileOp) (args : MonsterArgs) (argsP : ProjectileArgs)
    (htmpl : infos args.monsterTypeId = some tmpl)
    (hm : monsters.pool = [] ∧ monsters.poolCount < monsters.poolLimit)
    (hp : projectiles.pool = [] ∧ projectiles.poolCount < projectiles.poolLimit) :
    ((createMonster infos (monsters.push (.used history)) args).1 =
        (createMonster infos (.make 0 1000) args).1 ↔ (Monster.used history).Unstained) ∧
      ((createProjectile (projectiles.push (.used lm historyP)) argsP).1 =
          (createProjectile (.make 0 20000) argsP).1 ↔
        (Projectile.used lm historyP).Unstained argsP.vx) := by
  constructor
  · rw [← Monster.spawn_reset_eq_iff _ tmpl args (Monster.used_type history)]
    simp [createMonster, htmpl, LockFreeObjectPool.pop, LockFreeObjectPool.push, hm.1, hm.2,
      LockFreeObjectPool.make]
  · obtain ⟨htype, hmax⟩ := Projectile.used_fixed lm historyP
    rw [← Projectile.spawn_reset_eq_iff _ argsP htype hmax]
    simp [createProjectile, LockFreeObjectPool.pop, LockFreeObjectPool.push, hp.1, hp.2,
      LockFreeObjectPool.make]

/-- A monster of 10 hp that was hurt and slowed, and a projectile that hit something. -/
def hurtAndSlowed : List MonsterOp :=
  [.takeDamage 4, .addLevelUpSlow 3 999, .update (1 / 25) 5, .takeDamage 6]

def flewAndHit : List ProjectileOp := [.setDamage 7, .addHit 1002, .onHit]

def zombie : MonsterInfo := ⟨10, 3 / 2, 1 / 2, 10, 1, .chaser⟩

def zombieArgs : MonsterArgs := ⟨1003, 1, 4, 5, 0⟩

def boltArgs : ProjectileArgs := ⟨1004, 7, 1, 1, 0, 0, 15, 0, 10, 3⟩

/-- Any functions will do where nothing moves. -/
def stillLibm : Libm := ⟨fun _ => 0, fun _ => 0, fun _ => 1⟩

/-- The pools of the factories with what came back. -/
def monstersAfter (history : List MonsterOp) : LockFreeObjectPool Monster :=
  (LockFreeObjectPool.make 0 1000).push (.used history)

def projectilesAfter (history : List ProjectileOp) : LockFreeObjectPool Projectile :=
  (LockFreeObjectPool.make 0 20000).push (.used stillLibm history)

theorem recycled_equals_fresh_iff_hurtAndSlowed :
    ((createMonster (fun _ => some zombie) (monstersAfter hurtAndSlowed) zombieArgs).1 =
        (createMonster (fun _ => some zombie) (.make 0 1000) zombieArgs).1) ∧
      (createProjectile (projectilesAfter flewAndHit) boltArgs).1 =
        (createProjectile (.make 0 20000) boltArgs).1 := by
  have h := recycled_equals_fresh_iff stillLibm (fun _ => some zombie) zombie (.make 0 1000)
    (.make 0 20000)
    hurtAndSlowed flewAndHit zombieArgs boltArgs rfl ⟨rfl, by decide⟩ ⟨rfl, by decide⟩
  refine ⟨h.1.mpr ?_, h.2.mpr ?_⟩
  · refine ⟨rfl, rfl, rfl, rfl, fun type _ => ?_⟩
    cases type <;> decide +kernel
  · exact ⟨rfl, rfl, rfl, rfl, rfl, rfl, rfl⟩

/-- A monster that ran to the left and was given another strategy, and a projectile that pierces. -/
def ranLeft : List MonsterOp := [.object (.setVelocity (-2) 0), .setMovementStrategy .smartFlocking]

def pierced : List ProjectileOp := [.setPierce 5, .object (.setRadius (1 / 5))]

/-- The next monster looks to the left and moves by the strategy of the old one; the next projectile
has the radius of the old one and still pierces. -/
theorem recycled_shows_old_life :
    (∃ m, (createMonster (fun _ => some zombie) (monstersAfter ranLeft) zombieArgs).1 = some m ∧
      m.lookLeft = true ∧ m.movementStrategy = .smartFlocking) ∧
    (∃ m, (createMonster (fun _ => some zombie) (.make 0 1000) zombieArgs).1 = some m ∧
      m.lookLeft = false ∧ m.movementStrategy = .cellBased) ∧
    (∃ p, (createProjectile (projectilesAfter pierced) boltArgs).1 = some p ∧
      p.pierceCount = 5 ∧ p.radius = 1 / 5) ∧
    ∃ p, (createProjectile (.make 0 20000) boltArgs).1 = some p ∧ p.pierceCount = 0 ∧
    p.radius = 1 / 2 :=
  ⟨⟨_, rfl, by decide +kernel, rfl⟩, ⟨_, rfl, by decide +kernel, rfl⟩, ⟨_, rfl, rfl, rfl⟩,
    ⟨_, rfl, rfl, rfl⟩⟩

end ToyServer.SimpleGame
